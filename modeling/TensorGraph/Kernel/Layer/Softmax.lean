/-
Normalized exponentials.

The maximum is subtracted first, so that great inputs do not overflow.  The
input and the output may be the same memory.
-/

import TensorGraph.Kernel.Vector

namespace TensorGraph.Kernel

variable {m : Type → Type} [Kernel m]

/-- A number with the bits of negative infinity. -/
def negativeInfinity : Float := -(1.0 / 0.0)

/-- Takes one element into the maximum. -/
def raise (input : Vector) (greatest index : Scalar) : m Unit := do
  let x ← input.element index
  greatest.assign (← greatest.binary .max x)

/-- Writes one exponential and adds it to the sum. -/
def exponentiate (input output : Vector) (greatest total index : Scalar) : m Unit := do
  let x ← input.element index
  let difference ← x.binary .sub greatest
  let power ← difference.unary .exp
  (← output.element index).assign power
  total.assign (← total.binary .add power)

/-- `output[i] = exp (input[i] - max) / sum`. -/
def softmax (input output : Vector) : m Unit := do
  let greatest ← cell input.dtype
  let total ← cell input.dtype
  greatest.assign (← greatest.like negativeInfinity)
  total.assign (← total.like 0.0)
  forRange 0 input.size 1 (raise input greatest)
  forRange 0 input.size 1 (exponentiate input output greatest total)
  forRange 0 output.size 1 fun index => do
    let power ← output.element index
    power.assign (← power.binary .div total)

end TensorGraph.Kernel

/-
Dense layers.

A dense layer multiplies the elements of its input, taken as one row, by a
matrix of weights.
-/

import TensorGraph.Kernel.Layer.Activation
import TensorGraph.Kernel.Matrix

namespace TensorGraph.Kernel

variable {m : Type → Type} [Kernel m]

/-- A contiguous value as a vector of all its elements. -/
def row (value : Value) : m Vector := do
  let flat ← read value.flatten
  ofExcept (Vector.ofValue flat)

/-- `output = weights * input`. -/
def multiply (weights : Matrix) (input output : Value) : m Unit := do
  let x ← row input
  let y ← ofExcept (Vector.ofValue output)
  weights.multiply x y

/-- `output = function (weights * input + bias)`. -/
def dense (weights : Matrix) (bias : Vector) (function : ActivationFunction)
    (input output : Value) : m Unit := do
  let x ← row input
  let y ← ofExcept (Vector.ofValue output)
  weights.multiply x y
  Vector.combine .add y bias
  forEach (← ofExcept output.layout) fun coordinates => do
    let sum ← element output coordinates
    sum.assign (← function.apply sum)

end TensorGraph.Kernel

/-
Activation functions.

`apply` is the function as a kernel, on a scalar of any numeric type.  `eval` is
the same function on a plain number.
-/

import TensorGraph.Kernel.Elementwise

namespace TensorGraph

/-- A pointwise nonlinear function. -/
inductive ActivationFunction where
  | relu
  /-- `x` for positive inputs and `alpha * x` for all others. -/
  | leakyRelu (alpha : Float)
  | sigmoid
  | tanh
  /-- `0.2 * x + 0.5`, held between zero and one. -/
  | hardSigmoid
  deriving DecidableEq, Repr, Inhabited

namespace ActivationFunction

def eval : ActivationFunction → Float → Float
  | relu, x => if x > 0.0 then x else 0.0
  | leakyRelu alpha, x => if x > 0.0 then x else alpha * x
  | sigmoid, x => 1.0 / (1.0 + (-x).exp)
  | tanh, x => x.tanh
  | hardSigmoid, x =>
      let y := 0.2 * x + 0.5
      if y < 0.0 then 0.0 else if y > 1.0 then 1.0 else y

variable {m : Type → Type} [Kernel m]

/-- `1 / (1 + exp (-x))`. -/
def logistic (x : Scalar) : m Scalar := do
  let negated ← x.unary .neg
  let power ← negated.unary .exp
  let one ← x.like 1.0
  one.binary .div (← one.binary .add power)

/-- The leaky form is the greater of `x` and `alpha * x` as long as `alpha` is at most
one, and the lesser beyond. -/
def apply (function : ActivationFunction) (x : Scalar) : m Scalar := do
  match function with
  | relu => x.binary .max (← x.like 0.0)
  | leakyRelu alpha =>
      let scaled ← x.binary .mul (← x.like alpha)
      x.binary (if alpha ≤ 1.0 then .max else .min) scaled
  | sigmoid => logistic x
  | tanh => x.unary .tanh
  | hardSigmoid =>
      let scaled ← x.binary .mul (← x.like 0.2)
      let shifted ← scaled.binary .add (← x.like 0.5)
      let raised ← shifted.binary .max (← x.like 0.0)
      raised.binary .min (← x.like 1.0)

end ActivationFunction

namespace Kernel

variable {m : Type → Type} [Kernel m]

/-- Every element of `output` becomes the function of that of `input`. -/
def activate (function : ActivationFunction) (input output : Value) : m Unit := do
  forEach (← ofExcept output.layout) fun coordinates => do
    let x ← element input coordinates
    let y ← function.apply x
    (← element output coordinates).assign y

end Kernel
end TensorGraph

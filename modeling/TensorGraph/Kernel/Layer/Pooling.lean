/-
Pooling.

A window slides over the rows and columns of each channel and is reduced to its
greatest element or to its mean.  Windows never reach past the input.
-/

import TensorGraph.Kernel.Layer.Softmax

namespace TensorGraph

inductive PoolingKind where
  | max
  | mean
  deriving DecidableEq, Repr, Inhabited

/-- The reduction of an empty window. -/
def PoolingKind.initial : PoolingKind → Float
  | max => Kernel.negativeInfinity
  | mean => 0.0

def PoolingKind.op : PoolingKind → BinaryOp
  | max => .max
  | mean => .add

namespace Kernel

variable {m : Type → Type} [Kernel m]

/-- Takes the element at one place of a window into `reduced`. -/
def poolTerm (kind : PoolingKind) (input : Value) (row column channel reduced : Scalar) :
    List Scalar → m Unit
  | [a, b] => do
      let r ← row.binary .add a
      let c ← column.binary .add b
      let x ← element input [r, c, channel]
      reduced.assign (← reduced.binary kind.op x)
  | _ => pure ()

/-- What becomes of the reduction of a window. -/
def poolResult (kind : PoolingKind) (window : Nat) (reduced : Scalar) : m Scalar :=
  match kind with
  | .max => pure reduced
  | .mean => do reduced.binary .div (← reduced.like (Float.ofNat (window * window)))

/-- The element of the output at some coordinates. -/
def poolAt (kind : PoolingKind) (window : Nat) (dtype : DType) (step : Scalar)
    (input output : Value) (coordinates : List Scalar) : m Unit :=
  match coordinates with
  | [i, j, channel] => do
      let reduced ← cell dtype
      reduced.assign (← reduced.like kind.initial)
      let row ← i.binary .mul step
      let column ← j.binary .mul step
      forEach (Layout.packed [window, window]) (poolTerm kind input row column channel reduced)
      let result ← poolResult kind window reduced
      (← element output coordinates).assign result
  | _ => pure ()

/-- `output[i, j, c]` is the reduction of `input[i * stride + a, j * stride + b, c]` over
`a` and `b` below `window`, in row-major order. -/
def pool (kind : PoolingKind) (window stride : Nat) (input output : Value) : m Unit := do
  let dtype ← ofExcept input.dtype
  let step ← Scalar.index stride
  forEach (← ofExcept output.layout) (poolAt kind window dtype step input output)

end Kernel
end TensorGraph

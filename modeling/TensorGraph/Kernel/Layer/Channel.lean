/-
Kernels with one parameter a channel.

The channel of an element is its last logical coordinate; a rank-zero value has
the single channel zero.
-/

import TensorGraph.Kernel.Elementwise

namespace TensorGraph.Kernel

variable {m : Type → Type} [Kernel m]

def channelOf (coordinates : List Scalar) : m Scalar :=
  match coordinates.getLast? with
  | some channel => pure channel
  | none => Scalar.index 0

/-- `output[.., c] = input[.., c] op parameter[c]`. -/
def perChannel (op : BinaryOp) (parameter input output : Value) : m Unit := do
  forEach (← ofExcept output.layout) fun coordinates => do
    let channel ← channelOf coordinates
    let factor ← element parameter [channel]
    let x ← element input coordinates
    let y ← x.binary op factor
    (← element output coordinates).assign y

/-- `output[.., c] = (input[.., c] - mean[c]) * scale[c]`. -/
def normalize (mean scale input output : Value) : m Unit := do
  forEach (← ofExcept output.layout) fun coordinates => do
    let channel ← channelOf coordinates
    let center ← element mean [channel]
    let factor ← element scale [channel]
    let x ← element input coordinates
    let centered ← x.binary .sub center
    let y ← centered.binary .mul factor
    (← element output coordinates).assign y

end TensorGraph.Kernel

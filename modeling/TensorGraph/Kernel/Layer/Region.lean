/-
Region detection.

Each cell of the input holds a run of channels for every anchor: the box centre
`x` and `y`, its size `w` and `h`, a confidence, and a score for each class.
They are decoded in place on a copy of the input: centre and confidence by the
logistic function, the size by exponentials, and the classes by a softmax.
-/

import TensorGraph.Kernel.Layer.Activation
import TensorGraph.Kernel.Layer.Softmax

namespace TensorGraph.Kernel

variable {m : Type → Type} [Kernel m]

/-- Channels of an anchor before its classes. -/
def boxChannels : Nat := 5

def each {α : Type} (items : List α) (action : α → m Unit) : m Unit :=
  match items with
  | [] => pure ()
  | item :: rest => do
      action item
      each rest action

/-- Decodes the anchor whose channels start at `first`, in one cell. -/
def decodeAnchor (classes first : Nat) (output : Value) (row column : Scalar) :
    m Unit := do
  let channel (position : Nat) : m Scalar := do
    element output [row, column, ← Scalar.index (first + position)]
  each [0, 1, 4] fun position => do
    let score ← channel position
    score.assign (← ActivationFunction.logistic score)
  each [2, 3] fun position => do
    let score ← channel position
    score.assign (← score.unary .exp)
  if classes > 0 then
    let start ← offset output [row, column, ← Scalar.index (first + boxChannels)]
    let run ← ofExcept (Vector.ofValue (← withLayout start (Layout.packed [classes])))
    softmax run run

/-- Decodes all anchors of one cell. -/
def decodeCell (anchors classes : Nat) (output : Value) : List Scalar → m Unit
  | [row, column] =>
      each (List.range anchors) fun anchor =>
        decodeAnchor classes (anchor * (boxChannels + classes)) output row column
  | _ => pure ()

def decodeRegions (anchors classes : Nat) (input output : Value) : m Unit := do
  assign output input
  let layout ← ofExcept output.layout
  let increment ← ofExcept (layout.logicalIncrement 2)
  if increment ≠ 1 then
    fail (.invalidArgument "region detection needs contiguous channels")
  forEach (Layout.packed (layout.logicalSizes.take 2)) (decodeCell anchors classes output)

end TensorGraph.Kernel

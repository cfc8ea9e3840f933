/-
Ports.

A node is named by its position in the model, and an output port by its node
and its number there.  Every port is stored compactly, so its shape is a list of
sizes and nothing more.
-/

import TensorGraph.DType

namespace TensorGraph

/-- The position of a node in its model. -/
abbrev NodeId := Nat

def nodeText (node : NodeId) : String :=
  "n" ++ toString node

/-- The name of an output port. -/
structure Port where
  node : NodeId
  output : Nat
  deriving DecidableEq, Repr, Inhabited

def Port.text (port : Port) : String :=
  nodeText port.node ++ "." ++ toString port.output

/-- Number of elements of a shape; one for rank zero. -/
def elementCount (sizes : List Nat) : Nat :=
  sizes.foldl (· * ·) 1

structure OutputPort where
  name : String
  dtype : DType
  sizes : List Nat
  deriving DecidableEq, Repr

def OutputPort.size (port : OutputPort) : Nat :=
  elementCount port.sizes

/-- An input, bound to one output port whose type and shape it repeats. -/
structure InputPort where
  name : String
  source : Port
  dtype : DType
  sizes : List Nat
  deriving DecidableEq, Repr

def InputPort.size (port : InputPort) : Nat :=
  elementCount port.sizes

/-- The channels of an input are the positions of its last dimension. -/
def InputPort.channels (port : InputPort) : Nat :=
  port.sizes.getLastD 1

end TensorGraph

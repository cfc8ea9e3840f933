/-
Models.

A model is a graph of nodes in the order in which they were added.  A node is
named by its position, and reads only from nodes before it; so the order of the
nodes is an order in which they can be run.
-/

import TensorGraph.Graph.Operation
import TensorGraph.Graph.Port

namespace TensorGraph

/-- An operation with its ports and with the memory that it keeps between runs. -/
structure Node where
  operation : Operation
  inputs : List InputPort
  outputs : List OutputPort
  state : List Storage
  deriving DecidableEq

namespace Node

def kind (node : Node) : Kind :=
  node.operation.kind

def hasState (node : Node) : Bool :=
  node.kind.hasState

/-- The node with its memory cleared. -/
def reset (node : Node) : Node :=
  { node with state := node.state.map Storage.cleared }

def restoreBuffer (kept data : Storage) : Except Error Storage :=
  if data.dtype ≠ kept.dtype then
    .error (.dtypes kept.dtype data.dtype)
  else if data.size ≠ kept.size then
    .error (.sizeMismatch [kept.size] [data.size])
  else
    .ok data

/-- The node with other memory of the same types and sizes.  A node that keeps none
takes none. -/
def restore (node : Node) (buffers : List Storage) : Except Error Node := do
  if !node.hasState then
    return node
  if buffers.length ≠ node.state.length then
    throw (.archive (node.kind.name ++ " node keeps " ++ toString node.state.length ++
      " state buffers, archive has " ++ toString buffers.length))
  let state ← (node.state.zip buffers).mapM fun (kept, data) => restoreBuffer kept data
  return { node with state := state }

/-- The node reading from other ports. -/
def reconnect {ε : Type} (node : Node) (move : Port → Except ε Port) : Except ε Node := do
  let inputs ← node.inputs.mapM fun input => do
    return { input with source := ← move input.source }
  return { node with inputs := inputs }

end Node

structure Model where
  nodes : List Node
  deriving DecidableEq

namespace Model

def empty : Model :=
  { nodes := [] }

instance : Inhabited Model where
  default := empty

/-- Number of nodes; also the name that the next node will have. -/
def size (model : Model) : Nat :=
  model.nodes.length

def node? (model : Model) (id : NodeId) : Option Node :=
  model.nodes[id]?

def node (model : Model) (id : NodeId) : Except Error Node :=
  match model.node? id with
  | some node => .ok node
  | none => .error (.invalidArgument ("no node " ++ nodeText id))

def outputPort? (model : Model) (port : Port) : Option OutputPort := do
  (← model.node? port.node).outputs[port.output]?

def outputPort (model : Model) (port : Port) : Except Error OutputPort :=
  match model.node? port.node with
  | none => .error (.invalidArgument ("port " ++ port.text ++ " refers to a missing node"))
  | some node =>
      match node.outputs[port.output]? with
      | some output => .ok output
      | none =>
          .error (.invalidArgument ("node " ++ nodeText port.node ++ " (" ++ node.kind.name ++
            ") has no output " ++ toString port.output))

/-- The output ports of a node, with their names. -/
def portsOf (id : NodeId) (node : Node) : List (Port × OutputPort) :=
  node.outputs.zipIdx.map fun (output, number) =>
    ({ node := id
       output := number },
      output)

/-- All output ports in order. -/
def ports (model : Model) : List (Port × OutputPort) :=
  model.nodes.zipIdx.flatMap fun (node, id) => portsOf id node

/-! ### Growing -/

/-- An input agrees with the port that it names. -/
def checkInput (model : Model) (input : InputPort) : Except Error Unit := do
  let source ← model.outputPort input.source
  if source.dtype ≠ input.dtype then
    throw (.dtypes source.dtype input.dtype)
  if source.sizes ≠ input.sizes then
    throw (.sizeMismatch input.sizes source.sizes)

/-- The model with a node at its end, and the name of that node. -/
def insert (model : Model) (node : Node) : Except Error (Model × NodeId) := do
  node.inputs.forM model.checkInput
  return ({ nodes := model.nodes ++ [node] }, model.size)

/-- The model with the memory of one node replaced. -/
def restoreNode (model : Model) (id : NodeId) (buffers : List Storage) : Except Error Model := do
  let node ← model.node id
  return { nodes := model.nodes.set id (← node.restore buffers) }

/-! ### Memory -/

def hasState (model : Model) : Bool :=
  model.nodes.any Node.hasState

def reset (model : Model) : Model :=
  { nodes := model.nodes.map Node.reset }

/-- The memory of every node. -/
def memory (model : Model) : List (List Storage) :=
  model.nodes.map Node.state

/-- The model with other memory in its nodes. -/
def withMemory (model : Model) (memory : List (List Storage)) : Model :=
  { nodes := List.zipWith (fun node state => { node with state := state }) model.nodes memory }

end Model
end TensorGraph

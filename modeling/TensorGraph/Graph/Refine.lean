/-
Refining a model.

A refinement rebuilds a model node by node.  Most nodes are copied with their
memory; a batch normalization becomes a scaling and a bias, and a dense layer
becomes its product, its bias and its function.  Every output port of the model
has a counterpart that carries the same data.
-/

import TensorGraph.Graph.Connect

namespace TensorGraph

/-- Counterparts of ports, the latest first. -/
abbrev PortMap := List (Port × Port)

namespace PortMap

def follow (map : PortMap) (port : Port) : Except Error Port :=
  match map.lookup port with
  | some counterpart => .ok counterpart
  | none =>
      .error (.invalidArgument ("port " ++ port.text ++ " has no counterpart in the new model"))

/-- Every counterpart followed through another map. -/
def compose (first second : PortMap) : Except Error PortMap :=
  first.mapM fun (old, port) =>
    match second.lookup port with
    | some counterpart => .ok (old, counterpart)
    | none => .error (.other ("refinement dropped port " ++ port.text))

end PortMap

/-- A model that is being rebuilt. -/
structure Rebuilding where
  target : Model
  ports : PortMap

namespace Rebuilding

def start : Rebuilding :=
  { target := Model.empty
    ports := [] }

/-- Adds a copy of a node; its outputs are mapped one to one. -/
def copy (state : Rebuilding) (id : NodeId) (node : Node) : Except Error Rebuilding := do
  let node ← node.reconnect state.ports.follow
  let (target, newId) ← state.target.insert node
  let mapped := (Model.portsOf id node).map fun (port, _) => (port, { port with node := newId })
  return { target := target
           ports := mapped.reverse ++ state.ports }

/-- Adds a chain of operations, each on the first output of the one before. -/
def chain (target : Model) : List Operation → Port → Except Error (Model × Port)
  | [], source => .ok (target, source)
  | operation :: rest, source => do
      let (target, id) ← target.add operation [source]
      chain target rest
        { node := id
          output := 0 }

/-- Adds a chain of operations in the place of a node. -/
def expand (state : Rebuilding) (id : NodeId) (node : Node) (operations : List Operation) :
    Except Error Rebuilding := do
  match node.inputs with
  | [] => state.copy id node
  | input :: _ => do
      let source ← state.ports.follow input.source
      let (target, port) ← chain state.target operations source
      let old : Port :=
        { node := id
          output := 0 }
      return { target := target
               ports := (old, port) :: state.ports }

end Rebuilding

/-- The simpler operations that an operation stands for. -/
def Operation.expansion? : Operation → Option (List Operation)
  | batchNormalization statistics =>
      some [scaling statistics.scale, bias statistics.shift]
  | denseLayer parameters =>
      some
        [fullyConnected parameters.units parameters.weights, bias parameters.bias,
          activation parameters.function]
  | _ => none

namespace Model

def copyNodes : List (Node × NodeId) → Rebuilding → Except Error Rebuilding
  | [], state => .ok state
  | (node, id) :: rest, state => do copyNodes rest (← state.copy id node)

/-- A copy of the model, node for node. -/
def copy (model : Model) : Except Error (Model × PortMap) := do
  let state ← copyNodes model.nodes.zipIdx Rebuilding.start
  return (state.target, state.ports)

def refineNodes : List (Node × NodeId) → Rebuilding → Except Error Rebuilding
  | [], state => .ok state
  | (node, id) :: rest, state => do
      let state ←
        match node.operation.expansion? with
        | some operations => state.expand id node operations
        | none => state.copy id node
      refineNodes rest state

def canExpand (model : Model) : Bool :=
  model.nodes.any fun node => node.operation.expansion?.isSome

/-- One pass over the nodes. -/
def refineOnce (model : Model) : Except Error (Model × PortMap) := do
  let state ← refineNodes model.nodes.zipIdx Rebuilding.start
  return (state.target, state.ports)

/-- Passes until one expands nothing, and at most `passes`. -/
def refineUpTo : Nat → Model → PortMap → Except Error (Model × PortMap)
  | 0, model, ports => .ok (model, ports)
  | passes + 1, model, ports => do
      let (next, step) ← model.refineOnce
      let ports ← ports.compose step
      if model.canExpand then
        refineUpTo passes next ports
      else
        return (next, ports)

/-- The model with its nodes expanded, and the counterparts of its ports. -/
def refine (model : Model) (passes : Nat) : Except Error (Model × PortMap) := do
  let (start, ports) ← model.copy
  refineUpTo passes start ports

end Model
end TensorGraph

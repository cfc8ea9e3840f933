/-
Maps in shared memory.

The nodes of a map keep their numbers and what they remember in host memory.  A
copy of a node shares the numbers with the node that it was copied from and has
memory of its own, so that several maps stand in one heap.  A model is rebuilt
there as it is elsewhere; the handles of its nodes go along.
-/

import TensorGraph.Archive.Map

namespace TensorGraph

/-- The handles of one node. -/
structure Holding where
  parameters : List Value
  memory : List Value

namespace Holding

/-- Puts a node into the heap. -/
def settle (node : Node) : Action Heap Holding := do
  return { parameters := ← placeParameters node.parameters
           memory := ← placeAll node.state }

/-- The handles of a copy: parameters are shared, memory is not. -/
def clone (holding : Holding) : Action Heap Holding := do
  return { holding with memory := ← holding.memory.mapM Value.duplicate }

def reset (holding : Holding) : Action Heap Unit :=
  holding.memory.forM Value.fillZero

end Holding

/-- The operation with the payload that stands in its memory. -/
def Operation.recall (operation : Operation) (heap : Heap) (parameters : List Value) :
    Operation :=
  match operation, parameters with
  | .constant _ sizes, payload :: _ => .constant (contents heap payload) sizes
  | operation, _ => operation

/-- The node with what stands in its memory. -/
def Node.recall (node : Node) (heap : Heap) (holding : Holding) : Node :=
  { node with
    operation := node.operation.recall heap holding.parameters
    state := holding.memory.map (contents heap) }

def Model.recall (model : Model) (heap : Heap) (holdings : List Holding) : Model :=
  { nodes := List.zipWith (fun node holding => node.recall heap holding) model.nodes holdings }

/-! ### Rebuilding -/

/-- A model that is being rebuilt, with the handles of its nodes. -/
structure Resettling where
  rebuilt : Rebuilding
  holdings : List Holding

namespace Resettling

def start : Resettling :=
  { rebuilt := Rebuilding.start
    holdings := [] }

/-- Adds a copy of a node. -/
def copy (state : Resettling) (id : NodeId) (node : Node) (holding : Holding) :
    Action Heap Resettling := do
  let own ← holding.clone
  let rebuilt ← Action.ofExcept (state.rebuilt.copy id node)
  return { rebuilt := rebuilt
           holdings := state.holdings ++ [own] }

/-- Adds a chain of new nodes in the place of a node. -/
def expand (state : Resettling) (id : NodeId) (node : Node) (operations : List Operation) :
    Action Heap Resettling := do
  let rebuilt ← Action.ofExcept (state.rebuilt.expand id node operations)
  let added ← (rebuilt.target.nodes.drop state.rebuilt.target.size).mapM Holding.settle
  return { rebuilt := rebuilt
           holdings := state.holdings ++ added }

def copyNodes : List ((Node × NodeId) × Holding) → Resettling → Action Heap Resettling
  | [], state => pure state
  | ((node, id), holding) :: rest, state => do copyNodes rest (← state.copy id node holding)

def refineNodes : List ((Node × NodeId) × Holding) → Resettling → Action Heap Resettling
  | [], state => pure state
  | ((node, id), holding) :: rest, state => do
      let state ←
        match node.operation.expansion? with
        | some operations => state.expand id node operations
        | none => state.copy id node holding
      refineNodes rest state

/-- Passes until one expands nothing, and at most `passes`. -/
def refineUpTo : Nat → Resettling → Action Heap Resettling
  | 0, state => pure state
  | passes + 1, state => do
      let next ← refineNodes (state.rebuilt.target.nodes.zipIdx.zip state.holdings) start
      let ports ← Action.ofExcept (state.rebuilt.ports.compose next.rebuilt.ports)
      let next := { next with rebuilt := { next.rebuilt with ports := ports } }
      if state.rebuilt.target.canExpand then
        refineUpTo passes next
      else
        return next

/-- The model with its nodes expanded. -/
def refine (model : Model) (holdings : List Holding) (passes : Nat) : Action Heap Resettling := do
  refineUpTo passes (← copyNodes (model.nodes.zipIdx.zip holdings) start)

end Resettling

/-! ### Maps -/

/-- A map whose nodes hold their numbers in the heap.  What stood in them when the map was
made is in `map` as well, but only the heap counts. -/
structure HostedMap where
  map : Map
  holdings : List Holding

namespace HostedMap

/-- Puts a map into the heap. -/
def settle (map : Map) : Action Heap HostedMap := do
  return { map := map
           holdings := ← map.model.nodes.mapM Holding.settle }

/-- The map with what stands in its memory. -/
def current (hosted : HostedMap) (heap : Heap) : Map :=
  { hosted.map with model := hosted.map.model.recall heap hosted.holdings }

def clone (hosted : HostedMap) : Action Heap HostedMap := do
  let map := hosted.current (← get)
  return { map := map
           holdings := ← hosted.holdings.mapM Holding.clone }

/-- The map over the refined model. -/
def refine (hosted : HostedMap) (passes : Nat) : Action Heap HostedMap := do
  let map := hosted.current (← get)
  let refined ← Resettling.refine map.model hosted.holdings passes
  let map ← Action.ofExcept (map.rebase refined.rebuilt.target refined.rebuilt.ports)
  return { map := map
           holdings := refined.holdings }

/-- The map written to an archive and read back. -/
def reload (hosted : HostedMap) (registry : Registry) : Action Heap HostedMap := do
  let map ← Action.ofExcept (Map.ofArchive registry (hosted.current (← get)).archive)
  settle map

/-! ### Computing -/

/-- How a node runs on its handles. -/
def work {m : Type → Type} [Kernel m] : Work m Holding := fun id node holding inputs outputs =>
  node.runOn id holding.parameters holding.memory inputs outputs

/-- The nodes with what they hold. -/
def nodes (hosted : HostedMap) : List (Node × Holding) :=
  hosted.map.model.nodes.zip hosted.holdings

/-- Runs every node once. -/
def run (hosted : HostedMap) (feeds : FeedValues) : Host Unit PortValues :=
  runEach work feeds 0 hosted.nodes []

/-- Runs every node once on some feeds, in the heap where the map stands. -/
def evaluate (hosted : HostedMap) (feeds : List Feed) : Action Heap Evaluation := fun heap =>
  match placeFeeds feeds [] heap with
  | .error fault heap => .error fault heap
  | .ok known heap =>
      let start : HostState Unit :=
        { heap := heap
          operations := 0
          scratch := () }
      match (hosted.run known).run start with
      | .error fault final => .error fault final.heap
      | .ok values final =>
          .ok
            { values := values
              heap := final.heap
              operations := final.operations }
            final.heap

/-- One step on the host. -/
def compute (hosted : HostedMap) (rows : List (List Float)) :
    Action Heap (List (List Float)) := do
  let feeds ← Action.ofExcept (hosted.map.feeds rows)
  let evaluation ← hosted.evaluate feeds
  Action.ofExcept (hosted.map.outputs.mapM fun (name, port) => Map.rowOf evaluation name port)

/-- Samples one after the other; only a map that remembers nothing takes them. -/
def computeBatch (hosted : HostedMap) (batch : List (List (List Float))) :
    Action Heap (List (List (List Float))) :=
  if hosted.map.hasState then
    Action.fail (.invalidArgument "batch evaluation requires a stateless map")
  else
    batch.mapM hosted.compute

def reset (hosted : HostedMap) : Action Heap Unit :=
  hosted.holdings.forM Holding.reset

end HostedMap
end TensorGraph

/-
Maps.

A map is a model with named inputs and outputs.  It takes a row of numbers for
each input and answers with a row of numbers for each output, in the order in
which they were declared.  What its nodes remember goes on from one computation
to the next.  Rows that do not depend on each other may be spread over the
threads of a pool.
-/

import TensorGraph.Graph.Evaluate
import TensorGraph.Graph.Refine

namespace TensorGraph

/-! ### Pools -/

/-- A pool spreads independent items over its threads.  The results stand in the order of the
items, so the number of threads is not seen in them. -/
structure WorkerPool where
  threads : Nat
  positive : 0 < threads

namespace WorkerPool

def ofThreads (threads : Nat) : Except Error WorkerPool :=
  if positive : 0 < threads then
    .ok
      { threads := threads
        positive := positive }
  else
    .error (.invalidArgument "worker pool needs at least one thread")

def map {α β : Type} (_ : WorkerPool) (work : α → β) (items : List α) : List β :=
  items.map work

/-- The results of all items, or the failure of one of them. -/
def tryMap {ε α β : Type} (_ : WorkerPool) (work : α → Except ε β) (items : List α) :
    Except ε (List β) :=
  items.mapM work

end WorkerPool
/-! ### Maps -/

/-- Name, type and shape of an input or output of a map. -/
structure PortSpec where
  name : String
  dtype : DType
  shape : List Nat
  deriving DecidableEq, Repr

def PortSpec.size (spec : PortSpec) : Nat :=
  elementCount spec.shape

structure Map where
  model : Model
  inputs : List (String × NodeId)
  outputs : List (String × Port)
  deriving DecidableEq

namespace Map

/-- Type and shape of an input node. -/
def inputNode? (model : Model) (id : NodeId) : Option (DType × List Nat) := do
  match (← model.node? id).operation with
  | .input dtype sizes => some (dtype, sizes)
  | _ => none

def inputSpec (model : Model) (name : String) (id : NodeId) : Except Error PortSpec :=
  match inputNode? model id with
  | some (dtype, sizes) =>
      .ok
        { name := name
          dtype := dtype
          shape := sizes }
  | none =>
      .error (.invalidArgument ("map input '" ++ name ++ "' (" ++ nodeText id ++
        ") is not an input node"))

def outputSpec (model : Model) (name : String) (port : Port) : Except Error PortSpec := do
  let output ← model.outputPort port
  return { name := name
           dtype := output.dtype
           shape := output.sizes }

/-- A map whose inputs are input nodes of the model and whose outputs are its ports. -/
def ofModel (model : Model) (inputs : List (String × NodeId)) (outputs : List (String × Port)) :
    Except Error Map := do
  inputs.forM fun (name, id) => do let _ ← inputSpec model name id
  outputs.forM fun (name, port) => do let _ ← outputSpec model name port
  return { model := model
           inputs := inputs
           outputs := outputs }

def inputSpecs (map : Map) : Except Error (List PortSpec) :=
  map.inputs.mapM fun (name, id) => inputSpec map.model name id

def outputSpecs (map : Map) : Except Error (List PortSpec) :=
  map.outputs.mapM fun (name, port) => outputSpec map.model name port

def hasState (map : Map) : Bool :=
  map.model.hasState

def reset (map : Map) : Map :=
  { map with model := map.model.reset }

/-! ### Computing -/

/-- A row of numbers for each declared port, each as long as the port. -/
def checkRows : List PortSpec → List (List Float) → Except Error Unit
  | spec :: specs, row :: rows =>
      if row.length ≠ spec.size then
        .error (.sizeMismatch spec.shape [row.length])
      else
        checkRows specs rows
  | _, _ => .ok ()

def feedOf (id : NodeId) (spec : PortSpec) (row : List Float) : Feed :=
  { node := id
    data := Storage.ofFloats spec.dtype row.toArray
    layout := Layout.packed spec.shape }

def feeds (map : Map) (rows : List (List Float)) : Except Error (List Feed) := do
  if rows.length ≠ map.inputs.length then
    throw (.invalidArgument ("map takes " ++ toString map.inputs.length ++ " inputs, got " ++
      toString rows.length))
  let specs ← map.inputSpecs
  checkRows specs rows
  return List.zipWith (fun (_, id) (spec, row) => feedOf id spec row) map.inputs (specs.zip rows)

def rowOf (evaluation : Evaluation) (name : String) (port : Port) :
    Except Error (List Float) :=
  match evaluation.floats? port with
  | some row => row
  | none => .error (.invalidArgument ("output '" ++ name ++ "' was not computed"))

/-- One step on the host. -/
def compute (rows : List (List Float)) : Action Map (List (List Float)) := do
  let map ← get
  let feeds ← Action.ofExcept (map.feeds rows)
  let evaluation ← Action.within Map.model (fun model map => { map with model := model })
    (Model.compute feeds)
  Action.ofExcept (map.outputs.mapM fun (name, port) => rowOf evaluation name port)

def sample (map : Map) (rows : List (List Float)) : Except Fault (List (List Float)) :=
  match compute rows map with
  | .ok result _ => .ok result
  | .error fault _ => .error fault

/-- Independent samples, each from the map as it stands; only a map that remembers
nothing takes them. -/
def computeBatch (map : Map) (pool : WorkerPool) (batch : List (List (List Float))) :
    Except Fault (List (List (List Float))) :=
  if map.hasState then
    .error (.error (.invalidArgument "batch evaluation requires a stateless map"))
  else
    pool.tryMap map.sample batch

/-! ### Refining -/

def counterpart (ports : PortMap) (port : Port) : Except Error Port :=
  match ports.lookup port with
  | some found => .ok found
  | none => .error (.other ("refinement lost port " ++ port.text))

/-- The map with its names moved to another model. -/
def rebase (map : Map) (model : Model) (ports : PortMap) : Except Error Map := do
  let inputs ← map.inputs.mapM fun (name, id) => do
    let first : Port :=
      { node := id
        output := 0 }
    return (name, (← counterpart ports first).node)
  let outputs ← map.outputs.mapM fun (name, port) => do
    return (name, ← counterpart ports port)
  ofModel model inputs outputs

/-- The map over the refined model. -/
def refine (map : Map) (passes : Nat) : Except Error Map := do
  let (model, ports) ← map.model.refine passes
  map.rebase model ports

/-! ### Calls -/

/-- A map is used by calls: it computes, or it forgets.  A failing computation is a call like
every other one, and what the nodes had remembered by then counts. -/
inductive Call where
  | compute (rows : List (List Float))
  | reset

/-- What a call answers; forgetting answers with nothing. -/
def answer (map : Map) : Call → Except Fault (List (List Float))
  | .compute rows => map.sample rows
  | .reset => .ok []

/-- The map after a call. -/
def next (map : Map) : Call → Map
  | .compute rows => Action.last (compute rows map)
  | .reset => map.reset

/-- The map after some calls. -/
def after (map : Map) (calls : List Call) : Map :=
  calls.foldl next map

/-- What some calls answer. -/
def answers (map : Map) : List Call → List (Except Fault (List (List Float)))
  | [] => []
  | call :: rest => map.answer call :: (map.next call).answers rest

end Map
end TensorGraph

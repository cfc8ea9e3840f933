/-
Scripts run at once.

Named buffers are put into host memory, and the steps run one after another.  A
step that fails is reported and the next one still runs; what it did before it
failed stays done.
-/

import TensorGraph.Script.Run
import TensorGraph.Kernel.Host

namespace TensorGraph.Script

/-- A buffer that a script works on. -/
structure Buffer where
  name : String
  storage : Storage
  layout : Layout

/-- What is left after a run. -/
structure HostOutcome where
  answers : List (Except Fault Answer)
  buffers : List Storage
  operations : Nat

/-- Puts buffers into host memory and binds their names. -/
def bindBuffers : List Buffer → Host Environment Unit
  | [] => pure ()
  | buffer :: rest => do
      let value ← Host.onHeap (Value.ofStorage buffer.storage buffer.layout)
      modifyThe Environment fun environment => environment.bind buffer.name (.value value)
      bindBuffers rest

/-- Runs the steps; only an abort ends the run. -/
def runSteps : List Step → HostState Environment →
    Except Fault (List (Except Fault Answer) × HostState Environment)
  | [], state => .ok ([], state)
  | step :: rest, state =>
      match (run step : Host Environment Answer).run state with
      | .ok answer state => do
          let (answers, state) ← runSteps rest state
          return (.ok answer :: answers, state)
      | .error (.abort message) _ => .error (.abort message)
      | .error fault state => do
          let (answers, state) ← runSteps rest state
          return (.error fault :: answers, state)

def runOnHost (buffers : List Buffer) (steps : List Step) : Except Fault HostOutcome :=
  let initial : HostState Environment :=
    { heap := Heap.empty
      operations := 0
      scratch := Environment.empty }
  match (bindBuffers buffers).run initial with
  | .error fault _ => .error fault
  | .ok _ state => do
      let (answers, state) ← runSteps steps state
      return { answers := answers
               buffers := (List.range buffers.length).map state.heap.storage
               operations := state.operations }

end TensorGraph.Script

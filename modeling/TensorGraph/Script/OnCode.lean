/-
Scripts written down as code.

The steps are emitted into one function with a pointer parameter for each
buffer.  The finished module may be optimized; then its functions are called on
the buffers, which keep their contents from call to call.
-/

import TensorGraph.Code.ModuleBuilder
import TensorGraph.Kernel.Emission
import TensorGraph.Machine.Engine
import TensorGraph.Optimize.Pipeline
import TensorGraph.Script.OnHost

namespace TensorGraph.Script

open Code

/-- A call of the emitted code. -/
inductive Invocation where
  | run
  | reset

/-- How a script is emitted and called. -/
structure CodeOptions where
  hint : LoopHint
  optimizer? : Option Optimize.Optimizer
  invocations : List Invocation
  stepLimit : Nat
  /-- A parameter bound once more before the steps. -/
  extraParameter? : Option Nat

/-- What a call left in the buffers; a reset leaves nothing to see. -/
inductive CallResult where
  | buffers (contents : List Storage)
  | wasReset
  | failed (fault : Fault)

/-- The code of a script, and what its calls did. -/
structure CodeOutcome where
  states : List StateGlobal
  stats? : Option Optimize.Stats
  module : Module
  calls : List CallResult

private def kernelName : String := "kernel"

private def resetName : String := "kernel_reset"

private def bindParameters : Nat → List Buffer → Emission Environment Unit
  | _, [] => pure ()
  | position, buffer :: rest => do
      let value ← Emission.parameter position buffer.storage.dtype buffer.layout
      modifyThe Environment fun environment => environment.bind buffer.name (.value value)
      bindParameters (position + 1) rest

/-- Emits steps up to the first that fails. -/
def emitSteps : List Step → EmissionState Environment →
    Except Fault (List (Except Fault Answer) × Option (EmissionState Environment))
  | [], state => .ok ([], some state)
  | step :: rest, state =>
      match (run step : Emission Environment Answer).run state with
      | .ok answer state => do
          let (answers, state?) ← emitSteps rest state
          return (.ok answer :: answers, state?)
      | .error (.abort message) _ => .error (.abort message)
      | .error fault _ => .ok ([.error fault], none)

private def resultOf {σ α : Type} : EStateM.Result Fault σ α → Except Fault (α × σ)
  | .ok answer state => .ok (answer, state)
  | .error fault _ => .error fault

private def finishModule (builder : FunctionBuilder) : Except Fault ModuleBuilder := do
  let building : Action ModuleBuilder Unit := do
    ModuleBuilder.endFunction builder
    ModuleBuilder.emitReset resetName
  return (← resultOf (building (ModuleBuilder.start "kernels"))).2

private def storageOf? : Argument → Option Storage
  | .buffer storage => some storage
  | .scalar _ => none

private def callAll : List Invocation → List Argument → Engine → List CallResult
  | [], _, _ => []
  | .run :: rest, arguments, engine =>
      match Engine.call kernelName arguments engine with
      | .ok arguments engine =>
          .buffers (arguments.filterMap storageOf?) :: callAll rest arguments engine
      | .error fault engine => .failed fault :: callAll rest arguments engine
  | .reset :: rest, arguments, engine =>
      match Engine.call resetName [] engine with
      | .ok _ engine => .wasReset :: callAll rest arguments engine
      | .error fault engine => .failed fault :: callAll rest arguments engine

/-- The emitted module and what its calls do. -/
private def complete (buffers : List Buffer) (options : CodeOptions) (builder : FunctionBuilder) :
    Except Fault CodeOutcome := do
  let building ← finishModule builder
  let (module, stats?) ←
    match options.optimizer? with
    | none => pure (building.module, none)
    | some optimizer => do
        let ((module, _), optimizer) ← resultOf (Optimize.Optimizer.optimize building.module optimizer)
        pure (module, some optimizer.stats)
  let engine ←
    match Engine.ofModule module with
    | .ok engine => pure (engine.withLimit options.stepLimit)
    | .error cause => throw (.error cause)
  return { states := building.states
           stats? := stats?
           module := module
           calls :=
             callAll options.invocations (buffers.map fun buffer => .buffer buffer.storage)
               engine }

/-- Emits a script and calls it; there is no outcome when a step fails. -/
def runOnCode (buffers : List Buffer) (steps : List Step) (options : CodeOptions) :
    Except Fault (List (Except Fault Answer) × Option CodeOutcome) := do
  let builder :=
    FunctionBuilder.start kernelName (buffers.map fun buffer => .pointer buffer.storage.dtype)
  let initial := EmissionState.start Heap.empty builder options.hint Environment.empty
  let prepare : Emission Environment Unit := do
    bindParameters 0 buffers
    if let some position := options.extraParameter? then
      let _ ← Emission.parameter position .f32 Layout.scalar
  let (_, state) ← resultOf (prepare.run initial)
  let (answers, state?) ← emitSteps steps state
  match state? with
  | none => return (answers, none)
  | some state => return (answers, some (← complete buffers options state.builder))

end TensorGraph.Script

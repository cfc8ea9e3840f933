/-
Compiled maps.

A map is refined and written down as one function with a pointer parameter for
each input and each output.  The memory of its nodes becomes state of the code,
seeded with what they remember, and a second function puts it back.  The engine
that runs the code keeps that state from one computation to the next.
-/

import TensorGraph.Code.ModuleBuilder
import TensorGraph.Graph.Map
import TensorGraph.Kernel.Emission
import TensorGraph.Machine.Engine
import TensorGraph.Optimize.Pipeline

namespace TensorGraph

open Code

structure CompilerOptions where
  functionName : String
  optimize : Bool
  config : Optimize.Config
  /-- The hint on every loop. -/
  hint : LoopHint
  /-- Passes of refinement before the code is written. -/
  refinePasses : Nat
  deriving DecidableEq, Repr

namespace CompilerOptions

def standard : CompilerOptions :=
  { functionName := "predict"
    optimize := true
    config := Optimize.Config.standard
    hint := LoopHint.none
    refinePasses := 8 }

def resetName (options : CompilerOptions) : String :=
  options.functionName ++ "_reset"

end CompilerOptions

/-- The code of a map. -/
structure EmittedMap where
  module : Module
  inputs : List PortSpec
  outputs : List PortSpec

namespace Map

def bindSpecs : Nat → List PortSpec → Emission Unit (List Value)
  | _, [] => pure []
  | position, spec :: rest => do
      let value ← Emission.parameter position spec.dtype (Layout.packed spec.shape)
      return value :: (← bindSpecs (position + 1) rest)

def writeOutputs (values : PortValues) :
    Nat → List (PortSpec × Port) → Emission Unit Unit
  | _, [] => pure ()
  | position, (spec, port) :: rest => do
      let target ← Emission.parameter position spec.dtype (Layout.packed spec.shape)
      match values.lookup port with
      | some value => Kernel.assign target value
      | none =>
          Emission.fail (.invalidArgument ("output '" ++ spec.name ++ "' was not emitted"))
      writeOutputs values (position + 1) rest

/-- Writes down one step of the map. -/
def emitStep (map : Map) (inputs outputs : List PortSpec) : Emission Unit Unit := do
  let state ← Emission.onHeap (placeMemory map.model.memory)
  let parameters ← bindSpecs 0 inputs
  let feeds := ((map.inputs.map Prod.snd).zip parameters).reverse
  let values ← map.model.run state feeds
  writeOutputs values inputs.length (outputs.zip (map.outputs.map Prod.snd))

def finished {σ α : Type} : EStateM.Result Fault σ α → Except Fault (α × σ)
  | .ok answer state => .ok (answer, state)
  | .error fault _ => .error fault

def optimized (options : CompilerOptions) (module : Module) : Except Fault Module := do
  if options.optimize then
    let optimizer := Optimize.Optimizer.ofConfig options.config
    let ((module, _), _) ← finished (Optimize.Optimizer.optimize module optimizer)
    return module
  else
    return module

/-- The code of the refined map. -/
def emit (map : Map) (options : CompilerOptions) : Except Fault EmittedMap := do
  let lift {α : Type} (result : Except Error α) : Except Fault α := result.mapError .error
  let map ← lift (map.refine options.refinePasses)
  let inputs ← lift map.inputSpecs
  let outputs ← lift map.outputSpecs
  let types := (inputs ++ outputs).map fun spec => RegisterType.pointer spec.dtype
  let builder := FunctionBuilder.start options.functionName types
  let start := EmissionState.start Heap.empty builder options.hint ()
  let (_, state) ← finished ((map.emitStep inputs outputs).run start)
  let assemble : Action ModuleBuilder Unit := do
    ModuleBuilder.endFunction state.builder
    ModuleBuilder.emitReset options.resetName
  let (_, assembled) ← finished (assemble (ModuleBuilder.start "wren"))
  return { module := ← optimized options assembled.module
           inputs := inputs
           outputs := outputs }

end Map

/-- A map that runs as code. -/
structure CompiledMap where
  engine : Engine
  functionName : String
  resetName : String
  inputs : List PortSpec
  outputs : List PortSpec

namespace CompiledMap

def ofEmitted (emitted : EmittedMap) (options : CompilerOptions) : Except Error CompiledMap := do
  return { engine := ← Engine.ofModule emitted.module
           functionName := options.functionName
           resetName := options.resetName
           inputs := emitted.inputs
           outputs := emitted.outputs }

def onEngine {α : Type} (action : Action Engine α) : Action CompiledMap α :=
  Action.within CompiledMap.engine (fun engine map => { map with engine := engine }) action

def outputRow? : Argument → Option (List Float)
  | .buffer storage => some storage.toFloats.toList
  | .scalar _ => none

/-- One step of the code. -/
def compute (rows : List (List Float)) : Action CompiledMap (List (List Float)) := do
  let map ← get
  if rows.length ≠ map.inputs.length then
    Action.fail (.invalidArgument ("compiled map takes " ++ toString map.inputs.length ++
      " inputs, got " ++ toString rows.length))
  Action.ofExcept (Map.checkRows map.inputs rows)
  let taken := List.zipWith (fun (spec : PortSpec) row =>
    Argument.buffer (Storage.ofFloats spec.dtype row.toArray)) map.inputs rows
  let wanted := map.outputs.map fun spec => Argument.buffer (Storage.zeros spec.dtype spec.size)
  let results ← onEngine (Engine.call map.functionName (taken ++ wanted))
  return (results.drop map.inputs.length).filterMap outputRow?

/-- Puts the state back. -/
def reset : Action CompiledMap Unit := do
  let map ← get
  let _ ← onEngine (Engine.call map.resetName [])

end CompiledMap

def Map.compile (map : Map) (options : CompilerOptions) : Except Fault CompiledMap := do
  let emitted ← map.emit options
  (CompiledMap.ofEmitted emitted options).mapError .error

end TensorGraph

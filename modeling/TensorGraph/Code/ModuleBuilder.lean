/-
Building modules.

Finished functions are collected with their globals.  The functions keep the
order in which they were finished, and their states can be reset together.
-/

import TensorGraph.Code.FunctionBuilder

namespace TensorGraph.Code

structure ModuleBuilder where
  module : Module
  states : List StateGlobal

namespace ModuleBuilder

def start (name : String) : ModuleBuilder :=
  { module := Module.empty name
    states := [] }

def pushFunction (function : Function) : Action ModuleBuilder Unit :=
  modify fun builder =>
    { builder with
      module := { builder.module with functions := builder.module.functions ++ [function] } }

def mergeGlobals : List Global → Action ModuleBuilder Unit
  | [] => pure ()
  | global :: rest => do
      if ((← get).module.global? global.name).isSome then
        Action.fail (.other ("global '" ++ global.name ++ "' defined twice"))
      modify fun builder =>
        { builder with
          module := { builder.module with globals := insertGlobal global builder.module.globals } }
      mergeGlobals rest

/-- Finishes a function and takes over its globals, one after the other. -/
def endFunction (building : FunctionBuilder) : Action ModuleBuilder Unit := do
  match Building.finish building with
  | .error fault _ => throw fault
  | .ok function building =>
      if ((← get).module.function? function.name).isSome then
        Action.fail (.other ("function '" ++ function.name ++ "' emitted twice"))
      mergeGlobals building.globals
      modify fun builder => { builder with states := builder.states ++ building.states }
      pushFunction function

/-- The globals of every state, with the number of bytes to restore. -/
def stateGlobals (module : Module) :
    List StateGlobal → Except Error (List (Global × Global × Nat))
  | [] => .ok []
  | entry :: rest => do
      let state ←
        match module.global? entry.state with
        | some global => .ok global
        | none => .error (.other ("unknown state global '" ++ entry.state ++ "'"))
      let image ←
        match module.global? entry.image with
        | some global => .ok global
        | none => .error (.other ("unknown reset image '" ++ entry.image ++ "'"))
      return (state, image, entry.bytes) :: (← stateGlobals module rest)

def restoreAll : List (Global × Global × Nat) → Building Unit
  | [] => pure ()
  | (state, image, bytes) :: rest => do
      let destination ← Building.globalAddress state.name
      let source ← Building.globalAddress image.name
      Building.move destination source bytes
      restoreAll rest

def importAll : List (Global × Global × Nat) → Building Unit
  | [] => pure ()
  | (state, image, _) :: rest => do
      Building.importGlobal state.name state.dtype
      Building.importGlobal image.name image.dtype
      importAll rest

/-- Adds a function without parameters that restores every state from its image. -/
def emitReset (name : String) : Action ModuleBuilder Unit := do
  let builder ← get
  let globals ← Action.ofExcept (stateGlobals builder.module builder.states)
  let building : Building Function := do
    importAll globals
    restoreAll globals
    Building.leave
    Building.finish
  match building (FunctionBuilder.start name []) with
  | .ok function _ => pushFunction function
  | .error fault _ => throw fault

end ModuleBuilder
end TensorGraph.Code

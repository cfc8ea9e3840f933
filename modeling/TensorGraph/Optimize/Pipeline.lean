/-
Pipelines of passes.

Function passes run in rounds over one function, inside a session, until a round
changes nothing or the rounds are used up.  Module passes run once.  Only one
session can be open.
-/

import TensorGraph.Optimize.ConstantFolding
import TensorGraph.Optimize.ControlFlow
import TensorGraph.Optimize.DeadCode

namespace TensorGraph.Optimize

open Code

inductive FunctionPass where
  | constantFolding
  | deadCode
  | controlFlow
  deriving DecidableEq, Repr

inductive ModulePass where
  | deadFunctions
  | unusedGlobals
  deriving DecidableEq, Repr

namespace FunctionPass

def name : FunctionPass → String
  | constantFolding => "constant-folding"
  | deadCode => "dead-code-elimination"
  | controlFlow => "simplify-cfg"

def ofName? (text : String) : Option FunctionPass :=
  [constantFolding, deadCode, controlFlow].find? fun pass => pass.name == text

/-- The function after the pass, and whether it changed. -/
def run : FunctionPass → Function → Function × Bool
  | constantFolding => foldConstants
  | deadCode => removeDeadCode
  | controlFlow => simplifyControlFlow

end FunctionPass

namespace ModulePass

def name : ModulePass → String
  | deadFunctions => "remove-dead-functions"
  | unusedGlobals => "remove-unused-globals"

def ofName? (text : String) : Option ModulePass :=
  [deadFunctions, unusedGlobals].find? fun pass => pass.name == text

def run : ModulePass → Module → Module × Bool
  | deadFunctions => removeDeadFunctions
  | unusedGlobals => removeUnusedGlobals

end ModulePass

/-- Which standard passes run, and for how many rounds. -/
structure Config where
  constantFolding : Bool
  deadCode : Bool
  controlFlow : Bool
  deadFunctions : Bool
  unusedGlobals : Bool
  maxIterations : Nat
  deriving DecidableEq, Repr

namespace Config

def standard : Config :=
  { constantFolding := true
    deadCode := true
    controlFlow := true
    deadFunctions := true
    unusedGlobals := true
    maxIterations := 8 }

/-- No standard pass, and one round. -/
def none : Config :=
  { constantFolding := false
    deadCode := false
    controlFlow := false
    deadFunctions := false
    unusedGlobals := false
    maxIterations := 1 }

/-- At least one round always runs. -/
def withMaxIterations (config : Config) (rounds : Nat) : Config :=
  { config with maxIterations := max rounds 1 }

def functionPasses (config : Config) : List FunctionPass :=
  (if config.constantFolding then [.constantFolding] else []) ++
    (if config.deadCode then [.deadCode] else []) ++
    (if config.controlFlow then [.controlFlow] else [])

def modulePasses (config : Config) : List ModulePass :=
  (if config.deadFunctions then [.deadFunctions] else []) ++
    (if config.unusedGlobals then [.unusedGlobals] else [])

end Config

/-- Counters of what an optimizer did. -/
structure Stats where
  functionsOptimized : Nat
  functionPassChanges : Nat
  modulePassChanges : Nat
  deriving DecidableEq, Repr

structure Optimizer where
  config : Config
  functionPasses : List FunctionPass
  modulePasses : List ModulePass
  sessionOpen : Bool
  stats : Stats
  deriving DecidableEq, Repr

namespace Optimizer

def ofConfig (config : Config) : Optimizer :=
  { config := config
    functionPasses := config.functionPasses
    modulePasses := config.modulePasses
    sessionOpen := false
    stats :=
      { functionsOptimized := 0
        functionPassChanges := 0
        modulePassChanges := 0 } }

def addFunctionPass (optimizer : Optimizer) (pass : FunctionPass) : Optimizer :=
  { optimizer with functionPasses := optimizer.functionPasses ++ [pass] }

def addModulePass (optimizer : Optimizer) (pass : ModulePass) : Optimizer :=
  { optimizer with modulePasses := optimizer.modulePasses ++ [pass] }

/-! ### Sessions -/

def openSession : Action Optimizer Unit := do
  if (← get).sessionOpen then
    Action.abort "begin_function_session: a function session is already open"
  modify fun optimizer => { optimizer with sessionOpen := true }

def closeSession : Action Optimizer Unit :=
  modify fun optimizer => { optimizer with sessionOpen := false }

/-- One round of passes: the function and the number of passes that changed it. -/
def round (passes : List FunctionPass) (function : Function) : Function × Nat :=
  passes.foldl (fun (function, changes) pass =>
    let (function, changed) := pass.run function
    (function, if changed then changes + 1 else changes)) (function, 0)

/-- Rounds until one changes nothing; the number of changes over all of them. -/
def rounds (passes : List FunctionPass) : Nat → Function → Function × Nat
  | 0, function => (function, 0)
  | left + 1, function =>
      let (next, changes) := round passes function
      if changes = 0 then
        (next, 0)
      else
        let (result, more) := rounds passes left next
        (result, changes + more)

/-- Optimizes one function inside a session, and says whether it changed. -/
def optimizeFunction (function : Function) : Action Optimizer (Function × Bool) :=
  modifyGet fun optimizer =>
    let (result, changes) :=
      rounds optimizer.functionPasses optimizer.config.maxIterations function
    ((result, changes != 0),
      { optimizer with
        stats :=
          { optimizer.stats with
            functionsOptimized := optimizer.stats.functionsOptimized + 1
            functionPassChanges := optimizer.stats.functionPassChanges + changes } })

def optimizeEach : List Function → Action Optimizer (List (Function × Bool))
  | [] => pure []
  | function :: rest => do
      let first ← optimizeFunction function
      return first :: (← optimizeEach rest)

/-- One session over all functions of a module; which of them changed. -/
def optimizeFunctions (module : Module) : Action Optimizer (Module × List Bool) := do
  openSession
  let results ← optimizeEach module.functions
  closeSession
  return ({ module with functions := results.map Prod.fst }, results.map Prod.snd)

/-- The module passes once, and whether any of them changed the module. -/
def optimizeModule (module : Module) : Action Optimizer (Module × Bool) :=
  modifyGet fun optimizer =>
    let (result, changes) :=
      optimizer.modulePasses.foldl (fun (module, changes) pass =>
        let (module, changed) := pass.run module
        (module, if changed then changes + 1 else changes)) (module, 0)
    ((result, changes != 0),
      { optimizer with
        stats :=
          { optimizer.stats with
            modulePassChanges := optimizer.stats.modulePassChanges + changes } })

/-- A session over all functions, then the module passes. -/
def optimize (module : Module) : Action Optimizer (Module × List Bool × Bool) := do
  let (module, functions) ← optimizeFunctions module
  let (module, changed) ← optimizeModule module
  return (module, functions, changed)

end Optimizer
end TensorGraph.Optimize

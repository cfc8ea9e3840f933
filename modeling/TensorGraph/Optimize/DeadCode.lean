/-
Dead code.

An instruction without side effects goes when nothing reads its result.  That
can leave other results unread, so the removal repeats until nothing goes.  A
function goes when it is neither exported nor called, and a global when no
function takes its address.
-/

import TensorGraph.Code.Syntax

namespace TensorGraph.Optimize

open Code

def keepCalled (functions : List Function) : List Function :=
  let called := functions.flatMap Function.callees
  functions.filter fun function => function.exported || called.contains function.name

/-- The functions that are left when no unused one remains, and whether any went. -/
def usedFunctions (functions : List Function) : List Function × Bool :=
  let kept := keepCalled functions
  if kept.length < functions.length then
    ((usedFunctions kept).1, true)
  else
    (kept, false)
termination_by functions.length

/-- Removes the functions that are neither exported nor called. -/
def removeDeadFunctions (module : Module) : Module × Bool :=
  let (functions, changed) := usedFunctions module.functions
  ({ module with functions := functions }, changed)

/-- Removes the globals whose address is never taken. -/
def removeUnusedGlobals (module : Module) : Module × Bool :=
  let referenced := module.functions.flatMap Function.referencedGlobals
  let kept := module.globals.filter fun global => referenced.contains global.name
  ({ module with globals := kept }, kept.length != module.globals.length)

/-- The register that a terminator reads. -/
def conditionRegister? : Terminator → Option Register
  | .branch condition _ _ _ => condition.register?
  | _ => none

/-- The registers that are read anywhere in a function. -/
def usedRegisters (function : Function) : List Register :=
  function.blocks.flatMap fun block =>
    block.instructions.flatMap Instruction.uses ++
      (block.terminator?.bind conditionRegister?).toList

/-- Which registers of a list occur, as a table for quick questions. -/
def tableOf (registers : List Register) : Array Bool :=
  registers.foldl (fun table register => table.setIfInBounds register true)
    (Array.replicate ((registers.foldl max 0) + 1) false)

def isNeeded (used : Array Bool) (instruction : Instruction) : Bool :=
  instruction.hasSideEffects ||
    match instruction.target? with
    | some target => used.getD target false
    | none => true

/-- One round of removal. -/
def sweep (function : Function) : Function :=
  let used := tableOf (usedRegisters function)
  { function with
    blocks := function.blocks.map fun block =>
      { block with instructions := block.instructions.filter (isNeeded used) } }

/-- Removes dead code, and says whether anything was removed. -/
def removeDeadCode (function : Function) : Function × Bool :=
  let next := sweep function
  if next.instructionCount < function.instructionCount then
    ((removeDeadCode next).1, true)
  else
    (next, false)
termination_by function.instructionCount

end TensorGraph.Optimize

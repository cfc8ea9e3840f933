/-
Drafts as text would give them, and how they are carried out.

A draft is a function under construction whose registers, blocks and loops have
names.  It is written as a list of steps, and a plan is a function with its
parameters and steps.  A failed step is reported and the next one still runs;
what the failed step did before it failed stays, as in any use of a builder.  An
abort ends everything.
-/

import TensorGraph.Code.Loop
import TensorGraph.Code.ModuleBuilder

namespace TensorGraph.Draft

open Code

/-- An operand: a named register, a register by number, or a constant. -/
inductive OperandRef where
  | name (name : String)
  | register (register : Register)
  | constant (value : Literal)

inductive BlockRef where
  | name (name : String)
  | number (block : BlockId)

/-- One step.  `target` is the name that a result is bound to. -/
inductive Step where
  | functionName
  | setExported (exported : Bool)
  | parameter (target : String) (index : Nat)
  | newRegister (target : String) (type : RegisterType)
  | operandType (operand : OperandRef)
  | alloca (target : String) (dtype : DType) (count : Nat)
  | global (hint : String) (data : Storage) (isMutable : Bool)
  | stateGlobal (hint : String) (data : Storage)
  | importGlobal (name : String) (dtype : DType)
  | globalAddress (target name : String)
  | offset (target base : String) (index : OperandRef)
  | load (target pointer : String)
  | store (pointer : String) (value : OperandRef)
  | move (destination source : String) (bytes : Nat)
  | call (function : String) (arguments : List OperandRef)
  | binary (target : String) (op : BinaryOp) (left right : OperandRef)
  | unary (target : String) (op : UnaryOp) (operand : OperandRef)
  | compare (target : String) (op : CompareOp) (left right : OperandRef)
  | cast (target : String) (operand : OperandRef) (dtype : DType)
  | block (target label : String)
  | setInsertPoint (block : BlockRef)
  | current
  | jump (target : BlockRef)
  | branch (condition : OperandRef) (onTrue onFalse : BlockRef) (hint? : Option LoopHint)
  | leave
  | forLoop (target label : String) (hint : LoopHint)
  | forRepeat (target loop : String) (count : Nat)
  | forRepeatValue (target loop : String) (count : OperandRef)
  | forRange (target loop : String) (first limit step : Int64)
  | forRangeValues (target loop : String) (first limit step : OperandRef)
  | forCounter (loop : String)
  | forLoad (target loop : String)
  | forFinish (loop : String)
  | forPhase (loop : String)
  | whileLoop (target label : String)
  | whileFlag (loop flag : String)
  | whileWith (loop : String) (condition : List Step) (result : OperandRef)
  | whileFinish (loop : String)
  | whilePhase (loop : String)

/-- A function to be built. -/
structure Plan where
  name : String
  parameters : List RegisterType
  steps : List Step

/-- A builder with the names that were given out. -/
structure Sheet where
  builder : FunctionBuilder
  registers : List (String × Register)
  blocks : List (String × BlockId)
  forLoops : List (String × ForLoop)
  whileLoops : List (String × WhileLoop)

def Sheet.start (plan : Plan) : Sheet :=
  { builder := FunctionBuilder.start plan.name plan.parameters
    registers := []
    blocks := []
    forLoops := []
    whileLoops := [] }

/-- What a step answers with. -/
inductive Answer where
  | done
  | text (text : String)
  | register (register : Register)
  | register? (register? : Option Register)
  | type (type : RegisterType)
  | block (block : BlockId)
  | current (block : BlockId) (isTerminated : Bool)
  | phase (phase : LoopPhase)

abbrev Drafting := Action Sheet

private def building {α : Type} (action : Building α) : Drafting α :=
  Action.within Sheet.builder (fun builder draft => { draft with builder := builder }) action

/-! ### Names -/

private def unboundName {α : Type} (name : String) : Drafting α :=
  throw (.unbound name)

private def registerNamed (name : String) : Drafting Register := do
  match (← get).registers.lookup name with
  | some register => return register
  | none => unboundName name

private def operand : OperandRef → Drafting Operand
  | .name name => do return .register (← registerNamed name)
  | .register register => return .register register
  | .constant value => return .constant value

private def operandList : List OperandRef → Drafting (List Operand)
  | [] => return []
  | reference :: rest => do
      let first ← operand reference
      return first :: (← operandList rest)

private def blockNamed : BlockRef → Drafting BlockId
  | .number block => return block
  | .name name => do
      match (← get).blocks.lookup name with
      | some block => return block
      | none => unboundName name

private def bound (target : String) (action : Building Register) : Drafting Answer := do
  let register ← building action
  modify fun draft => { draft with registers := (target, register) :: draft.registers }
  return .register register

/-! ### Loops -/

private def onFor {α : Type} (loop : String) (action : ForBuilding α) : Drafting α := fun draft =>
  match draft.forLoops.lookup loop with
  | none => .error (.unbound loop) draft
  | some forLoop =>
      let replaced (state : ForLoop × FunctionBuilder) : Sheet :=
        { draft with
          builder := state.2
          forLoops := (loop, state.1) :: draft.forLoops }
      match action (forLoop, draft.builder) with
      | .ok answer state => .ok answer (replaced state)
      | .error fault state => .error fault (replaced state)

private def onWhile {α : Type} (loop : String) (action : WhileBuilding α) : Drafting α :=
  fun draft =>
    match draft.whileLoops.lookup loop with
    | none => .error (.unbound loop) draft
    | some whileLoop =>
        let replaced (state : WhileLoop × FunctionBuilder) : Sheet :=
          { draft with
            builder := state.2
            whileLoops := (loop, state.1) :: draft.whileLoops }
        match action (whileLoop, draft.builder) with
        | .ok answer state => .ok answer (replaced state)
        | .error fault state => .error fault (replaced state)

private def boundCounter (target loop : String) (action : ForBuilding Register) :
    Drafting Answer := do
  let register ← onFor loop action
  modify fun draft => { draft with registers := (target, register) :: draft.registers }
  return .register register

private def forLoopNamed (loop : String) : Drafting ForLoop := do
  return (← onFor loop get).1

private def whileLoopNamed (loop : String) : Drafting WhileLoop := do
  return (← onWhile loop get).1

/-! ### Steps -/

mutual

/-- Carries out one step and answers it. -/
def run : Step → Drafting Answer
  | .functionName => do return .text (← get).builder.function.name
  | .setExported exported => do
      building (Building.setExported exported)
      return .done
  | .parameter target index => do
      let register? := (← get).builder.parameter? index
      if let some register := register? then
        modify fun draft => { draft with registers := (target, register) :: draft.registers }
      return .register? register?
  | .newRegister target type => bound target (Building.newRegister type)
  | .operandType reference => do
      let operand ← operand reference
      return .type (← building (Building.query fun builder => builder.operandType operand))
  | .alloca target dtype count => bound target (Building.alloca dtype count)
  | .global hint data isMutable => do
      return .text (← building (Building.global hint data isMutable))
  | .stateGlobal hint data => do return .text (← building (Building.stateGlobal hint data))
  | .importGlobal name dtype => do
      building (Building.importGlobal name dtype)
      return .done
  | .globalAddress target name => bound target (Building.globalAddress name)
  | .offset target base index => do
      let base ← registerNamed base
      let index ← operand index
      bound target (Building.offset base index)
  | .load target pointer => do bound target (Building.load (← registerNamed pointer))
  | .store pointer value => do
      let pointer ← registerNamed pointer
      let value ← operand value
      building (Building.store pointer value)
      return .done
  | .move destination source bytes => do
      let destination ← registerNamed destination
      let source ← registerNamed source
      building (Building.move destination source bytes)
      return .done
  | .call function arguments => do
      let arguments ← operandList arguments
      building (Building.call function arguments)
      return .done
  | .binary target op left right => do
      let left ← operand left
      let right ← operand right
      bound target (Building.binary op left right)
  | .unary target op reference => do bound target (Building.unary op (← operand reference))
  | .compare target op left right => do
      let left ← operand left
      let right ← operand right
      bound target (Building.compare op left right)
  | .cast target reference dtype => do
      bound target (Building.cast (← operand reference) dtype)
  | .block target label => do
      let block ← building (Building.appendBlock label)
      modify fun draft => { draft with blocks := (target, block) :: draft.blocks }
      return .block block
  | .setInsertPoint reference => do
      let block ← blockNamed reference
      building (Building.setInsertPoint block)
      return .done
  | .current => do
      let builder := (← get).builder
      return .current builder.current builder.isTerminated
  | .jump reference => do
      let block ← blockNamed reference
      building (Building.jump block)
      return .done
  | .branch condition onTrue onFalse hint? => do
      let condition ← operand condition
      let onTrue ← blockNamed onTrue
      let onFalse ← blockNamed onFalse
      building (Building.branch condition onTrue onFalse hint?)
      return .done
  | .leave => do
      building Building.leave
      return .done
  | .forLoop target label hint => do
      modify fun draft =>
        { draft with forLoops := (target, ForLoop.start label hint) :: draft.forLoops }
      return .done
  | .forRepeat target loop count => boundCounter target loop (ForLoop.beginRepeat count)
  | .forRepeatValue target loop count => do
      let _ ← forLoopNamed loop
      boundCounter target loop (ForLoop.beginRepeatValue (← operand count))
  | .forRange target loop first limit step =>
      boundCounter target loop (ForLoop.beginRange first limit step)
  | .forRangeValues target loop first limit step => do
      let _ ← forLoopNamed loop
      let first ← operand first
      let limit ← operand limit
      let step ← operand step
      boundCounter target loop (ForLoop.beginValues first limit step)
  | .forCounter loop => do return .register? (← forLoopNamed loop).counter?
  | .forLoad target loop => boundCounter target loop ForLoop.loadCounter
  | .forFinish loop => do
      onFor loop ForLoop.finish
      return .done
  | .forPhase loop => do return .phase (← forLoopNamed loop).phase
  | .whileLoop target label => do
      modify fun draft =>
        { draft with whileLoops := (target, WhileLoop.start label) :: draft.whileLoops }
      return .done
  | .whileFlag loop flag => do
      let _ ← whileLoopNamed loop
      let flag ← registerNamed flag
      onWhile loop (WhileLoop.beginFlag flag)
      return .done
  | .whileWith loop condition result => do
      let blocks ← onWhile loop WhileLoop.enter
      runAll condition
      let result ← operand result
      onWhile loop (WhileLoop.test blocks result)
      return .done
  | .whileFinish loop => do
      onWhile loop WhileLoop.finish
      return .done
  | .whilePhase loop => do return .phase (← whileLoopNamed loop).phase

/-- Carries out steps for their effect; the first that fails ends the run. -/
def runAll : List Step → Drafting Unit
  | [] => return
  | step :: rest => do
      let _ ← run step
      runAll rest

end

/-- The answers of some steps, one after the other, up to an abort. -/
def answers : List Step → Sheet → Except Fault (List (Except Fault Answer) × Sheet)
  | [], draft => .ok ([], draft)
  | step :: rest, draft =>
      match run step draft with
      | .ok answer draft => do
          let (later, draft) ← answers rest draft
          return (.ok answer :: later, draft)
      | .error (.abort message) _ => .error (.abort message)
      | .error fault draft => do
          let (later, draft) ← answers rest draft
          return (.error fault :: later, draft)

/-! ### Modules -/

/-- How the building of one function went. -/
structure Outcome where
  answers : List (Except Fault Answer)
  ending : Except Fault Unit

/-- An action whose failure is a result, unless it aborts. -/
private def attempt (action : Action ModuleBuilder Unit) (builder : ModuleBuilder) :
    Except Fault (Except Fault Unit × ModuleBuilder) :=
  match action builder with
  | .ok () builder => .ok (.ok (), builder)
  | .error (.abort message) _ => .error (.abort message)
  | .error fault builder => .ok (.error fault, builder)

/-- Builds the planned functions one after the other. -/
def buildAll : List Plan → ModuleBuilder → Except Fault (List Outcome × ModuleBuilder)
  | [], builder => .ok ([], builder)
  | plan :: rest, builder => do
      let (results, draft) ← answers plan.steps (Sheet.start plan)
      let (ending, builder) ← attempt (ModuleBuilder.endFunction draft.builder) builder
      let outcome : Outcome :=
        { answers := results
          ending := ending }
      let (later, builder) ← buildAll rest builder
      return (outcome :: later, builder)

/-- Adds the function that resets all states. -/
def buildReset (name : String) (builder : ModuleBuilder) :
    Except Fault (Except Fault Unit × ModuleBuilder) :=
  attempt (ModuleBuilder.emitReset name) builder

end TensorGraph.Draft

/-
Documents of code.

A module is written with numbered registers and blocks; an instruction is an
array that starts with the name of the instruction.
-/

import TensorGraph.Document.Tensor
import TensorGraph.Machine.Engine
import TensorGraph.Optimize.Pipeline

namespace TensorGraph.Document

def asRegisterType (document : Json) : Reading Code.RegisterType := do
  let text ← asString document
  let (name, isPointer) :=
    if text.endsWith "*" then ((text.dropEnd 1).toString, true) else (text, false)
  match DType.ofName? name with
  | some dtype => return if isPointer then .pointer dtype else .element dtype
  | none => malformed ("type " ++ text)

def asOperand : Json → Reading Code.Operand
  | .integer value => do return .register (← asNat (.integer value))
  | document => do return .constant (← asLiteral document)

def asLoopHint (document : Json) : Reading Code.LoopHint := do
  return { unroll := ← flag document "unroll"
           parallel := ← flag document "parallel" }

def asInstruction (document : Json) : Reading Code.Instruction := do
  match document with
  | .array [.string "alloca", target, dtype, count] =>
      return .alloca (← asNat target) (← asDType dtype) (← asNat count)
  | .array [.string "addr", target, name] => return .address (← asNat target) (← asString name)
  | .array [.string "gep", target, base, index] =>
      return .offset (← asNat target) (← asNat base) (← asOperand index)
  | .array [.string "load", target, pointer] => return .load (← asNat target) (← asNat pointer)
  | .array [.string "store", pointer, value] =>
      return .store (← asNat pointer) (← asOperand value)
  | .array [.string "bin", target, op, left, right] =>
      return .binary (← asNat target) (← asBinaryOp op) (← asOperand left) (← asOperand right)
  | .array [.string "un", target, op, operand] =>
      return .unary (← asNat target) (← asUnaryOp op) (← asOperand operand)
  | .array [.string "cmp", target, op, left, right] =>
      return .compare (← asNat target) (← asCompareOp op) (← asOperand left) (← asOperand right)
  | .array [.string "cast", target, operand, dtype] =>
      return .cast (← asNat target) (← asOperand operand) (← asDType dtype)
  | .array [.string "move", destination, source, bytes] =>
      return .move (← asNat destination) (← asNat source) (← asNat bytes)
  | .array [.string "call", name, .array arguments] =>
      return .call (← asString name) (← arguments.mapM asOperand)
  | _ => malformed "instruction"

def asTerminator? (document : Json) : Reading (Option Code.Terminator) := do
  match document with
  | .null => return none
  | .array [.string "br", target] => return some (.jump (← asNat target))
  | .array [.string "cbr", condition, onTrue, onFalse] =>
      return some (.branch (← asOperand condition) (← asNat onTrue) (← asNat onFalse) none)
  | .array [.string "cbr", condition, onTrue, onFalse, .null] =>
      return some (.branch (← asOperand condition) (← asNat onTrue) (← asNat onFalse) none)
  | .array [.string "cbr", condition, onTrue, onFalse, hint] =>
      return some (.branch (← asOperand condition) (← asNat onTrue) (← asNat onFalse)
        (some (← asLoopHint hint)))
  | .array [.string "ret"] => return some .leave
  | _ => malformed "terminator"

def asBlock (document : Json) : Reading Code.Block := do
  let terminator? ←
    match document.get? "term" with
    | some terminator => asTerminator? terminator
    | none => .ok none
  return { id := ← natField document "id"
           label := ← stringField document "label"
           instructions := ← (← arrayField document "inst").mapM asInstruction
           terminator? := terminator? }

def asFunction (document : Json) : Reading Code.Function := do
  let parameters ← (← arrayOr document "params").mapM asRegisterType
  let registers ← (← arrayOr document "regs").mapM asRegisterType
  let numbers? ← option document "param_regs" natList
  return { name := ← stringField document "name"
           parameters := numbers?.getD (List.range parameters.length)
           registerTypes := (parameters ++ registers).toArray
           blocks := ← (← arrayOr document "blocks").mapM asBlock
           exported := (← option document "exported" asBool).getD true }

def asGlobal (document : Json) : Reading Code.Global := do
  return { name := ← stringField document "name"
           data := ← asBuffer document
           isMutable := ← flag document "mutable" }

def asModule (document : Json) : Reading Code.Module := do
  let globals ← (← arrayOr document "globals").mapM asGlobal
  return { name := ← stringField document "name"
           globals := globals.foldl (fun globals global => Code.insertGlobal global globals) []
           functions := ← (← arrayOr document "functions").mapM asFunction }

/-- An optimizer configuration and the passes added at its end. -/
def asOptimizer (document : Json) : Reading Optimize.Optimizer := do
  let base :=
    if ← flag document "none" then Optimize.Config.none else Optimize.Config.standard
  let chosenPass (key : String) (start : Bool) : Reading Bool := do
    return (← option document key asBool).getD start
  let chosen : Optimize.Config :=
    { constantFolding := ← chosenPass "constant_folding" base.constantFolding
      deadCode := ← chosenPass "dead_code_elimination" base.deadCode
      controlFlow := ← chosenPass "simplify_cfg" base.controlFlow
      deadFunctions := ← chosenPass "dead_functions" base.deadFunctions
      unusedGlobals := ← chosenPass "unused_globals" base.unusedGlobals
      maxIterations := base.maxIterations }
  let config :=
    match ← option document "max_iterations" asNat with
    | some rounds => chosen.withMaxIterations rounds
    | none => chosen
  (← arrayOr document "extra").foldlM (fun optimizer pass => do
    let name ← asString pass
    match Optimize.FunctionPass.ofName? name, Optimize.ModulePass.ofName? name with
    | some pass, _ => return optimizer.addFunctionPass pass
    | none, some pass => return optimizer.addModulePass pass
    | none, none => malformed ("pass " ++ name)) (Optimize.Optimizer.ofConfig config)

def asArgument : Json → Reading Argument
  | .string text => do return .scalar (← asLiteral (.string text))
  | document => do return .buffer (← asBuffer document)

/-! ### Writing -/

def ofRegister (register : Code.Register) : Json :=
  .string (Code.registerText register)

def ofRegister? (register? : Option Code.Register) : Json :=
  (register?.map ofRegister).getD .null

def boolText (value : Bool) : String :=
  if value then "true" else "false"

def ofFunction (function : Code.Function) : Json :=
  let typeText (type : Code.RegisterType) : Json :=
    .string (type.text ++ "/" ++ type.dtype.name ++ "/" ++ boolText type.isPointer)
  let instructionJson (instruction : Code.Instruction) : Json :=
    .array
      [ofRegister? instruction.target?,
       .bool instruction.hasSideEffects,
       .array (instruction.uses.map ofRegister)]
  let blockJson (block : Code.Block) : Json :=
    let next := (block.terminator?.map Code.Terminator.successors).getD []
    .object
      [("block", .string (Code.blockText block.id)),
       ("inst", .array (block.instructions.map instructionJson)),
       ("next", Json.strings (next.map Code.blockText))]
  .object
    [("count", .nat function.instructionCount),
     ("entry", (function.entry?.map fun block => Json.string (Code.blockText block)).getD .null),
     ("callees", Json.strings function.callees),
     ("globals", Json.strings function.referencedGlobals),
     ("types", .array (function.registerTypes.toList.map typeText)),
     ("blocks", .array (function.blocks.map blockJson))]

def ofGlobal (floats : FloatText) (global : Code.Global) : Json :=
  .array
    [.string global.name,
     .string global.dtype.name,
     .nat global.byteSize,
     .bool global.isMutable,
     ofElements floats global.data]

def ofGlobals (floats : FloatText) (module : Code.Module) : Json :=
  .object (module.globals.map fun global => (global.name, ofElements floats global.data))

def ofStats (stats : Optimize.Stats) : Json :=
  .nats [stats.functionsOptimized, stats.functionPassChanges, stats.modulePassChanges]

end TensorGraph.Document

/-
Documents of drafts.

An operand is a number for a register, a name after a percent sign, or a literal.
-/

import TensorGraph.Document.Code
import TensorGraph.Draft.Run

namespace TensorGraph.Document

def asOperandRef : Json → Reading Draft.OperandRef
  | .integer value => do return .register (← asNat (.integer value))
  | document => do
      let text ← asString document
      if text.startsWith "%" then
        return .name (text.drop 1).toString
      else
        return .constant (← asLiteral document)

def asBlockRef : Json → Reading Draft.BlockRef
  | .integer value => do return .number (← asNat (.integer value))
  | document => do return .name (← asString document)

def asInt64 : Json → Reading Int64
  | .integer value => .ok (Int64.ofInt value)
  | _ => malformed "integer"

/-- A step whose conditions nest fewer than `depth` deep. -/
private def readDraftStep : Nat → Json → Reading Draft.Step
  | 0, _ => malformed "nesting"
  | depth + 1, step => do
      let text := stringField step
      let operand (key : String) : Reading Draft.OperandRef := do asOperandRef (← field step key)
      let block (key : String) : Reading Draft.BlockRef := do asBlockRef (← field step key)
      let integer (key : String) : Reading Int64 := do asInt64 (← field step key)
      let hint? : Reading (Option Code.LoopHint) := option step "metadata" asLoopHint
      match ← text "do" with
      | "name" => return .functionName
      | "exported" => return .setExported (← asBool (← field step "on"))
      | "param" => return .parameter (← text "to") (← natField step "i")
      | "new_reg" => return .newRegister (← text "to") (← asRegisterType (← field step "type"))
      | "type" => return .operandType (← operand "v")
      | "alloca" =>
          return .alloca (← text "to") (← asDType (← field step "dtype")) (← natField step "count")
      | "global" => return .global (← text "hint") (← asBuffer step) (← flag step "mutable")
      | "state_global" => return .stateGlobal (← text "hint") (← asBuffer step)
      | "import_global" => return .importGlobal (← text "name") (← asDType (← field step "dtype"))
      | "global_addr" => return .globalAddress (← text "to") (← text "name")
      | "gep" => return .offset (← text "to") (← text "base") (← operand "index")
      | "load" => return .load (← text "to") (← text "ptr")
      | "store" => return .store (← text "ptr") (← operand "v")
      | "mem_move" => return .move (← text "dst") (← text "src") (← natField step "bytes")
      | "call" => return .call (← text "function") (← (← arrayOr step "args").mapM asOperandRef)
      | "binary" =>
          return .binary (← text "to") (← asBinaryOp (← field step "op")) (← operand "a")
            (← operand "b")
      | "unary" => return .unary (← text "to") (← asUnaryOp (← field step "op")) (← operand "a")
      | "compare" =>
          return .compare (← text "to") (← asCompareOp (← field step "op")) (← operand "a")
            (← operand "b")
      | "cast" => return .cast (← text "to") (← operand "a") (← asDType (← field step "dtype"))
      | "block" => return .block (← text "to") (← text "label")
      | "at" => return .setInsertPoint (← block "block")
      | "current" => return .current
      | "branch" => return .jump (← block "block")
      | "cond_branch" =>
          return .branch (← operand "cond") (← block "then") (← block "else") (← hint?)
      | "ret" => return .leave
      | "for" =>
          return .forLoop (← text "to") (← text "label") ((← hint?).getD Code.LoopHint.none)
      | "for.repeat" => return .forRepeat (← text "to") (← text "loop") (← natField step "n")
      | "for.repeat_value" => return .forRepeatValue (← text "to") (← text "loop") (← operand "n")
      | "for.range" =>
          return .forRange (← text "to") (← text "loop") (← integer "start") (← integer "max")
            (← integer "step")
      | "for.range_values" =>
          return .forRangeValues (← text "to") (← text "loop") (← operand "start") (← operand "max")
            (← operand "step")
      | "for.var" => return .forCounter (← text "loop")
      | "for.load" => return .forLoad (← text "to") (← text "loop")
      | "for.end" => return .forFinish (← text "loop")
      | "for.state" => return .forPhase (← text "loop")
      | "while" => return .whileLoop (← text "to") (← text "label")
      | "while.flag" => return .whileFlag (← text "loop") (← text "flag")
      | "while.with" =>
          let condition ← (← arrayOr step "condition").mapM (readDraftStep depth)
          return .whileWith (← text "loop") condition (← operand "result")
      | "while.end" => return .whileFinish (← text "loop")
      | "while.state" => return .whilePhase (← text "loop")
      | name => malformed ("step " ++ name)

def asDraftStep (step : Json) : Reading Draft.Step :=
  readDraftStep (step.height + 1) step

def asPlan (document : Json) : Reading Draft.Plan := do
  return { name := ← stringField document "name"
           parameters := ← (← arrayOr document "params").mapM asRegisterType
           steps := ← (← arrayOr document "steps").mapM asDraftStep }

/-! ### Writing -/

def phaseName : Code.LoopPhase → String
  | .uninitialized => "Uninitialized"
  | .initialized => "Initialized"
  | .bodyOpen => "BodyOpen"
  | .closed => "Closed"

def ofDraftAnswer : Draft.Answer → Json
  | .done => .string "ok"
  | .text text => .string text
  | .register register => ofRegister register
  | .register? register? => ofRegister? register?
  | .type type => .string type.text
  | .block block => .string (Code.blockText block)
  | .current block isTerminated =>
      .array [.string (Code.blockText block), .bool isTerminated]
  | .phase phase => .string (phaseName phase)

def ofStateGlobal (state : Code.StateGlobal) : Json :=
  .array [.string state.state, .string state.image, .nat state.bytes]

end TensorGraph.Document

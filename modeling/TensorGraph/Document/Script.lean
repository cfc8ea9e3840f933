/-
Documents of kernel scripts.

A step is an object whose `do` names the step; its other fields are the operands
in the order in which the step looks at them.
-/

import TensorGraph.Document.Code
import TensorGraph.Script.OnCode

namespace TensorGraph.Document

def asScalarRef : Json → Reading Script.ScalarRef
  | .integer value => do return .index (← asNat (.integer value))
  | .string name => return .name name
  | document => do return .literal (← asLiteral (← field document "lit"))

/-- A layout whose failure belongs to the step that uses it. -/
def asLayoutRef (document : Json) : Reading Script.LayoutRef :=
  match asLayout document with
  | .ok layout => .ok (.ok layout)
  | .error (.fault (.error cause)) => .ok (.error cause)
  | .error failure => .error failure

def binaryOps : List (String × BinaryOp) :=
  [("add", .add), ("sub", .sub), ("mul", .mul), ("div", .div)]

/-- The operation of a step such as `v.add_assign` or `m.mul_scalar`. -/
def suffixOp? (name family suffix : String) : Option BinaryOp :=
  binaryOps.findSome? fun (word, op) =>
    if name = family ++ word ++ suffix then some op else none

def newVectorOp? (name : String) : Option BinaryOp :=
  [("v.add", .add), ("v.sub_new", .sub), ("v.mul", .mul), ("v.div", .div)].lookup name

def asExpression? (name : String) (step : Json) : Reading (Option Script.Expression) := do
  let text := stringField step
  let number := natField step
  let scalar (key : String) : Reading Script.ScalarRef := do asScalarRef (← field step key)
  let scalars (key : String) : Reading (List Script.ScalarRef) := do
    (← arrayField step key).mapM asScalarRef
  let dtype : Reading DType := do asDType (← field step "dtype")
  let layout : Reading Script.LayoutRef := do asLayoutRef (← field step "layout")
  let binaryOp : Reading BinaryOp := do asBinaryOp (← field step "op")
  let unaryOp : Reading UnaryOp := do asUnaryOp (← field step "op")
  let compareOp : Reading CompareOp := do asCompareOp (← field step "op")
  if let some op := newVectorOp? name then
    return some (.vectorCombined op (← text "a") (← text "b"))
  match name with
  | "scalar" => return some (.scalarOf (← text "of"))
  | "vector" => return some (.vectorOf (← text "of"))
  | "matrix" => return some (.matrixOf (← text "of"))
  | "const" => return some (.constant (← asLiteral (← field step "v")))
  | "host" => return some (.storage (← asBuffer step) (← layout))
  | "value" =>
      match ← text "how" with
      | "wrap" => return some (.storage (← asBuffer step) (← layout))
      | "slice" => return some (.row (← asBuffer step))
      | _ =>
          let data ← asNumbers (← field step "data")
          return some (.storage (Storage.ofFloats (← dtype) data.toArray) (← layout))
  | "empty" => return some .undefined
  | "view" => return some (.view (← text "of") (← number "offset") (← layout))
  | "with_layout" => return some (.withLayout (← text "of") (← layout))
  | "clear_layout" => return some (.clearLayout (← text "of"))
  | "advanced" => return some (.advanced (← text "of") (← number "n"))
  | "duplicate" => return some (.duplicate (← text "of"))
  | "flatten" => return some (.flatten (← text "of"))
  | "allocate" => return some (.allocate (← dtype) (← layout))
  | "state" => return some (.state (← text "name") (← text "of"))
  | "offset" => return some (.offset (← text "of") (← scalars "i"))
  | "c.binary" => return some (.binary (← binaryOp) (← text "a") (← text "b"))
  | "c.unary" => return some (.unary (← unaryOp) (← text "a"))
  | "c.compare" => return some (.compare (← compareOp) (← text "a") (← text "b"))
  | "c.cast" => return some (.cast (← text "a") (← dtype))
  | "element" => return some (.element (← text "of") (← scalars "i"))
  | "copy" => return some (.copy (← text "of"))
  | "s.binary" => return some (.scalarBinary (← binaryOp) (← scalar "a") (← scalar "b"))
  | "s.unary" => return some (.scalarUnary (← unaryOp) (← scalar "a"))
  | "s.compare" => return some (.scalarCompare (← compareOp) (← scalar "a") (← scalar "b"))
  | "s.cast" => return some (.scalarCast (← scalar "a") (← dtype))
  | "s.like" => return some (.scalarLike (← scalar "a") (← asNumber (← field step "x")))
  | "v.at" => return some (.vectorElement (← text "v") (← scalar "i"))
  | "v.sub" => return some (.vectorPart (← text "v") (← scalar "i") (← number "n"))
  | "v.copy" => return some (.vectorCopy (← text "v"))
  | "v.dot" => return some (.dot (← text "a") (← text "b"))
  | "m.allocate" =>
      return some (.matrixAllocate (← dtype) (← number "rows") (← number "cols"))
  | "m.from_rows" =>
      return some (.matrixOfRows (← dtype) (← number "rows") (← number "cols")
        (← asNumbers (← field step "data")))
  | "m.at" => return some (.matrixElement (← text "m") (← scalar "row") (← scalar "col"))
  | "m.row" => return some (.matrixRow (← text "m") (← scalar "i"))
  | "m.column" => return some (.matrixColumn (← text "m") (← scalar "i"))
  | "m.sub" =>
      return some (.matrixPart (← text "m") (← number "row") (← number "col") (← number "rows")
        (← number "cols"))
  | "m.copy" => return some (.matrixCopy (← text "m"))
  | "m.add" => return some (.matrixAdded (← text "a") (← text "b"))
  | _ => return none

def asCommand? (name : String) (step : Json) : Reading (Option Script.Command) := do
  let text := stringField step
  let number := natField step
  let scalar (key : String) : Reading Script.ScalarRef := do asScalarRef (← field step key)
  let literal : Reading Literal := do asLiteral (← field step "v")
  if let some op := suffixOp? name "v." "_scalar" then
    return some (.vectorCombineScalar op (← text "dst") (← scalar "s"))
  if let some op := suffixOp? name "v." "_assign" then
    return some (.vectorCombine op (← text "dst") (← text "src"))
  if let some op := suffixOp? name "m." "_scalar" then
    return some (.matrixCombineScalar op (← text "dst") (← scalar "s"))
  if let some op := suffixOp? name "m." "_assign" then
    return some (.matrixCombine op (← text "dst") (← text "src"))
  match name with
  | "set" => return some (.set (← text "of") (← natList (← field step "i")) (← literal))
  | "set_flat" => return some (.setFlat (← text "of") (← number "n") (← literal))
  | "copy_from_storage" => return some (.copyFromStorage (← text "of") (← asBuffer step))
  | "copy_from_f64" =>
      return some (.copyFromFloats (← text "of") (← asNumbers (← field step "data")))
  | "fill_zero" => return some (.fillZero (← text "of"))
  | "store" => return some (.store (← text "dst") (← text "src"))
  | "move" =>
      return some (.move (← text "dst") (← number "dst_offset") (← text "src")
        (← number "src_offset") (← number "count"))
  | "elementwise" =>
      return some (.elementwise (← text "dst") (← text "src") (← asBinaryOp (← field step "op")))
  | "elementwise_scalar" =>
      return some (.elementwiseScalar (← text "dst") (← scalar "s")
        (← asBinaryOp (← field step "op")))
  | "map_unary" => return some (.mapUnary (← text "dst") (← asUnaryOp (← field step "op")))
  | "assign" => return some (.assign (← text "dst") (← text "src"))
  | "fill" => return some (.fill (← text "dst") (← scalar "s"))
  | "shift" =>
      return some (.shift (← text "buffer") (← text "new") (← option step "out" asString))
  | "s.assign" => return some (.scalarAssign (← scalar "dst") (← scalar "src"))
  | "v.fill" => return some (.vectorFill (← text "dst") (← scalar "s"))
  | "v.assign" => return some (.vectorAssign (← text "dst") (← text "src"))
  | "m.assign" => return some (.matrixAssign (← text "dst") (← text "src"))
  | "m.gemv" => return some (.multiply (← text "m") (← text "x") (← text "y"))
  | _ => return none

def asQuery (name : String) (step : Json) : Reading Script.Query := do
  let text := stringField step
  let number := natField step
  match name with
  | "show" => return .shown (← text "of")
  | "info" => return .info (← text "of")
  | "get" => return .get (← text "of") (← natList (← field step "i"))
  | "get_flat" => return .getFlat (← text "of") (← number "n")
  | "literal" => return .literal (← text "of")
  | "to_f64" => return .toFloats (← text "of")
  | "to_vec" => return .toElements (← text "of") (← asDType (← field step "dtype"))
  | "to_storage" => return .toStorage (← text "of")
  | "same_storage" => return .sameStorage (← text "a") (← text "b")
  | "known" => return .known (← text "of")
  | "check_compatible" => return .checkCompatible (← text "dst") (← text "src")
  | "s.known" => return .scalarKnown (← asScalarRef (← field step "a"))
  | "s.get" => return .scalarGet (← asScalarRef (← field step "a"))
  | "v.info" => return .vectorInfo (← text "v")
  | "m.info" => return .matrixInfo (← text "m")
  | "m.get" => return .matrixGet (← text "m") (← number "row") (← number "col")
  | _ => malformed ("step " ++ name)

/-- A step whose bodies nest fewer than `depth` deep. -/
private def readScriptStep : Nat → Json → Reading Script.Step
  | 0, _ => malformed "nesting"
  | depth + 1, step => do
      let steps (key : String) : Reading (List Script.Step) := do
        (← arrayOr step key).mapM (readScriptStep depth)
      let name ← stringField step "do"
      match name with
      | "for" =>
          let step? ← option step "step" asNat
          return .forRange (← natField step "start") (← natField step "stop") (step?.getD 1)
            (← stringField step "var") (← steps "body")
      | "for_each" =>
          return .forEach (← asLayoutRef (← field step "layout")) (← stringField step "var")
            (← steps "body")
      | "if" => return .branch (← stringField step "cond") (← steps "then") (← steps "else")
      | _ =>
          if let some expression ← asExpression? name step then
            return .bind (← stringField step "to") expression
          if let some command ← asCommand? name step then
            return .command command
          return .query (← asQuery name step)

def asScriptStep (step : Json) : Reading Script.Step :=
  readScriptStep (step.height + 1) step

def asScriptBuffer (document : Json) : Reading Script.Buffer := do
  let storage ← asBuffer document
  let layout? ← option document "layout" asLayout
  return { name := ← stringField document "name"
           storage := storage
           layout := layout?.getD (Layout.packed [storage.size]) }

/-- How a script is written down and called. -/
def asCodeOptions (request : Json) : Reading Script.CodeOptions := do
  let optimizer? ←
    if ← flag request "optimize" then
      some <$> asOptimizer ((← option request "config" pure).getD (.object []))
    else
      pure none
  let invocations ← (← option request "calls" asArray).mapM fun calls => calls.mapM fun call => do
    match ← asString call with
    | "run" => return Script.Invocation.run
    | _ => return Script.Invocation.reset
  return { hint := ← asLoopHint request
           optimizer? := optimizer?
           invocations := invocations.getD [.run]
           stepLimit := (← option request "step_limit" asNat).getD 1000000
           extraParameter? := ← option request "bind_extra" asNat }

/-! ### Writing -/

def ofSizes? (sizes? : Option (List Nat)) : Json :=
  match sizes? with
  | some sizes => .nats sizes
  | none => .null

/-- A value, or the form that a failure is given. -/
def ofResult {α : Type} (failed : Error → Json) (encode : α → Json) : Except Error α → Json
  | .ok value => encode value
  | .error cause => failed cause

def ofPicture (failed : Error → Json) (floats : FloatText) :
    Script.Picture → Json
  | .literal value => ofLiteral floats value
  | .elements dtype sizes data =>
      .object
        [("dtype", .string dtype.name),
         ("sizes", .nats sizes),
         ("data", ofResult failed (ofElements floats) data)]
  | .unconstrained dtype => .object [("dtype", .string dtype.name), ("sizes", .null)]
  | .emitted dtype register sizes? =>
      .object
        [("dtype", .string dtype.name),
         ("at", .string ("%" ++ toString register)),
         ("sizes", ofSizes? sizes?)]
  | .unbound sizes? => .object [("empty", .bool true), ("sizes", ofSizes? sizes?)]

def ofValue (failed : Error → Json) (value : Value) : Json :=
  .object
    [("defined", .bool value.isDefined),
     ("constrained", .bool value.isConstrained),
     ("host", .bool value.isHost),
     ("emitted", .bool value.register?.isSome),
     ("dtype", ofResult failed (fun dtype : DType => .string dtype.name) value.dtype),
     ("layout", ofResult failed (fun layout : Layout => .nats layout.sizes) value.layout),
     ("ready", ofResult failed (fun layout : Layout => .nat layout.rank) value.ready)]

def ofScriptAnswer (failed : Error → Json) (floats : FloatText) :
    Script.Answer → Json
  | .done => .string "ok"
  | .picture picture => ofPicture failed floats picture
  | .literal value => ofLiteral floats value
  | .literal? value? => (value?.map (ofLiteral floats)).getD .null
  | .numbers values => .array (values.map (ofNumber floats))
  | .elements values => .array (values.map fun value => .string (value.elementText floats))
  | .storage storage => ofStorage floats storage
  | .truth value => .bool value
  | .info value => ofValue failed value
  | .vector size dtype increment =>
      .array [.nat size, .string dtype.name, .nat increment]
  | .matrix rows columns dtype => .array [.nat rows, .nat columns, .string dtype.name]
  | .shifted buffer dropped? =>
      .array [ofPicture failed floats buffer, (dropped?.map (ofPicture failed floats)).getD .null]

end TensorGraph.Document

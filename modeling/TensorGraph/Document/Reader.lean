/-
Reading documents.

A reader takes a value out of a document.  It fails when the document has
another form than expected, or when the document asks for something that is
refused, such as a layout that does not fit.
-/

import TensorGraph.Error
import TensorGraph.Json.Basic
import TensorGraph.Literal.Text

namespace TensorGraph.Document

/-- Why a document has no value. -/
inductive Failure where
  | malformed (reason : String)
  | fault (fault : Fault)
  deriving DecidableEq, Repr

abbrev Reading := Except Failure

/-- A pure result inside a reader. -/
def lift {α : Type} (result : Except Error α) : Reading α :=
  match result with
  | .ok value => .ok value
  | .error cause => .error (.fault (.error cause))

def liftFault {α : Type} (result : Except Fault α) : Reading α :=
  match result with
  | .ok value => .ok value
  | .error fault => .error (.fault fault)

def malformed {α : Type} (reason : String) : Reading α :=
  .error (.malformed reason)

def field (document : Json) (key : String) : Reading Json :=
  match document.get? key with
  | some value => .ok value
  | none => malformed ("missing " ++ key)

def asNat : Json → Reading Nat
  | .integer value => if value ≥ 0 then .ok value.toNat else malformed "natural number"
  | _ => malformed "natural number"

def asString : Json → Reading String
  | .string value => .ok value
  | _ => malformed "string"

def asBool : Json → Reading Bool
  | .bool value => .ok value
  | _ => malformed "boolean"

def asArray : Json → Reading (List Json)
  | .array items => .ok items
  | _ => malformed "array"

def natField (document : Json) (key : String) : Reading Nat := do
  asNat (← field document key)

def stringField (document : Json) (key : String) : Reading String := do
  asString (← field document key)

def arrayField (document : Json) (key : String) : Reading (List Json) := do
  asArray (← field document key)

/-- An optional field; `null` counts as missing. -/
def option {α : Type} (document : Json) (key : String) (read : Json → Reading α) :
    Reading (Option α) :=
  match document.get? key with
  | none => .ok none
  | some .null => .ok none
  | some value => some <$> read value

def arrayOr (document : Json) (key : String) : Reading (List Json) := do
  return (← option document key asArray).getD []

/-- An optional truth value; a missing one is false. -/
def flag (document : Json) (key : String) : Reading Bool := do
  return (← option document key asBool).getD false

def natList (document : Json) : Reading (List Nat) := do
  (← asArray document).mapM asNat

/-- The text of an element or number given as a string, a number or a boolean. -/
def scalarText : Json → Reading String
  | .string value => .ok value
  | .bool value => .ok (if value then "true" else "false")
  | .integer value => .ok (toString value)
  | .real value => .ok (FloatText.shortest.double value)
  | _ => malformed "element"

end TensorGraph.Document

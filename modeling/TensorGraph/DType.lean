/-
Element types.

A tensor holds elements of one of six types.  Width, numeric class and the
written name of a type are fixed here and nowhere else.
-/

namespace TensorGraph

/-- The type of one element. -/
inductive DType where
  | bool
  | u8
  | i32
  | i64
  | f32
  | f64
  deriving DecidableEq, Repr, Inhabited

namespace DType

/-- Bytes that one element takes in a memory image. -/
def width : DType → Nat
  | bool | u8 => 1
  | i32 | f32 => 4
  | i64 | f64 => 8

def isFloat : DType → Bool
  | f32 | f64 => true
  | _ => false

/-- The integer types; a truth value is not a number. -/
def isInteger : DType → Bool
  | u8 | i32 | i64 => true
  | _ => false

def name : DType → String
  | bool => "bool"
  | u8 => "u8"
  | i32 => "i32"
  | i64 => "i64"
  | f32 => "f32"
  | f64 => "f64"

def all : List DType := [bool, u8, i32, i64, f32, f64]

def ofName? (text : String) : Option DType :=
  all.find? fun dtype => dtype.name == text

theorem width_pos (dtype : DType) : 0 < dtype.width := by
  cases dtype <;> decide

theorem ofName?_name (dtype : DType) : ofName? dtype.name = some dtype := by
  cases dtype <;> decide

end DType
end TensorGraph

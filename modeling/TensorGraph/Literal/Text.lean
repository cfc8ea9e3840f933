/-
Written literals.

A literal is written as its element followed by the name of its type; the two
truth values carry no type name.  A `FloatText` says how the floats among them
are written.
-/

import TensorGraph.Literal
import TensorGraph.Decimal.Notation
import TensorGraph.Decimal.Numeral

namespace TensorGraph

/-- How floats are written: the fewest digits that read back, or a fixed count of
significant digits. -/
inductive FloatText where
  | shortest
  | significant (digits : Nat)
  deriving DecidableEq, Repr

namespace FloatText

def double (text : FloatText) (value : Float) : String :=
  match text with
  | shortest => Decimal.Style.shown.write (Decimal.ofDouble value)
  | significant digits => Decimal.Style.shown.writeRounded digits (Decimal.ofDouble value)

def single (text : FloatText) (value : Float32) : String :=
  match text with
  | shortest => Decimal.Style.shown.write (Decimal.ofSingle value)
  | significant digits => Decimal.Style.shown.writeRounded digits (Decimal.ofSingle value)

end FloatText

namespace Literal

/-- The element without its type. -/
def elementText (text : FloatText) : Literal → String
  | bool value => if value then "true" else "false"
  | u8 value => toString value.toNat
  | i32 value => toString value.toInt
  | i64 value => toString value.toInt
  | f32 value => text.single value
  | f64 value => text.double value

def text (floats : FloatText) (literal : Literal) : String :=
  match literal with
  | bool _ => literal.elementText floats
  | other => other.elementText floats ++ other.dtype.name

private def floatChars? (chars : List Char) : Option (Decimal.Numeral ⊕ String) :=
  let (negative, unsigned) := Decimal.takeSign chars
  let name := (String.ofList unsigned).toLower
  if name = "nan" then some (.inr "nan")
  else if name = "inf" || name = "infinity" then some (.inr (if negative then "-inf" else "inf"))
  else (Decimal.Numeral.ofChars? chars).map .inl

/-- The nearest wide float to a written number. -/
def readDouble? (chars : List Char) : Option Float :=
  match floatChars? chars with
  | none => none
  | some (.inl numeral) => some numeral.toFloat
  | some (.inr "nan") => some (0.0 / 0.0)
  | some (.inr "inf") => some (1.0 / 0.0)
  | some (.inr _) => some (-1.0 / 0.0)

/-- The nearest narrow float to a written number. -/
def readSingle? (chars : List Char) : Option Float32 :=
  match floatChars? chars with
  | none => none
  | some (.inl numeral) => some numeral.toFloat32
  | some (.inr "nan") => some (0.0 / 0.0)
  | some (.inr "inf") => some (1.0 / 0.0)
  | some (.inr _) => some (-1.0 / 0.0)

private def boundedInt? (least greatest : Int) (chars : List Char) : Option Int :=
  (Decimal.intOfChars? chars).filter fun value => least ≤ value && value ≤ greatest

/-- The element of the given type that a text stands for. -/
def readElement? (dtype : DType) (source : String) : Option Literal :=
  let chars := source.toList
  match dtype with
  | .bool =>
      if source = "true" then some (bool true)
      else if source = "false" then some (bool false)
      else none
  | .u8 => (boundedInt? 0 255 chars).map fun value => u8 (UInt8.ofNat value.toNat)
  | .i32 =>
      (boundedInt? (-2147483648) 2147483647 chars).map fun value => i32 (Int32.ofInt value)
  | .i64 =>
      (boundedInt? (-9223372036854775808) 9223372036854775807 chars).map
        fun value => i64 (Int64.ofInt value)
  | .f32 => (readSingle? chars).map f32
  | .f64 => (readDouble? chars).map f64

/-- The literal that a text stands for: a truth value, or an element followed by
the name of its type. -/
def read? (source : String) : Option Literal :=
  match readElement? .bool source with
  | some truth => some truth
  | none =>
      [DType.u8, .i32, .i64, .f32, .f64].findSome? fun dtype =>
        if source.endsWith dtype.name then
          readElement? dtype (source.dropEnd dtype.name.length).toString
        else
          none

end Literal
end TensorGraph

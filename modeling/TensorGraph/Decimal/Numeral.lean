/-
Reading decimal numbers.

A numeral is an exact decimal number.  It is read from text and rounded once,
to the nearest float of either width.
-/

import TensorGraph.Decimal.Binary

namespace TensorGraph.Decimal

/-- The number `± coefficient * 10 ^ exponent`. -/
structure Numeral where
  negative : Bool
  coefficient : Nat
  exponent : Int
  deriving DecidableEq, Repr

/-- The longest run of decimal digits at the front, and the rest. -/
def spanDigits (chars : List Char) : List Char × List Char :=
  (chars.takeWhile Char.isDigit, chars.dropWhile Char.isDigit)

def natOfDigits (digits : List Char) : Nat :=
  digits.foldl (fun total digit => total * 10 + (digit.toNat - '0'.toNat)) 0

/-- A sign at the front, if there is one: whether it is a minus, and the rest. -/
def takeSign : List Char → Bool × List Char
  | '-' :: rest => (true, rest)
  | '+' :: rest => (false, rest)
  | rest => (false, rest)

/-- An exponent such as `e-7` at the end of a numeral; no exponent is zero. -/
private def exponentOf? : List Char → Option Int
  | [] => some 0
  | mark :: rest =>
      if mark = 'e' || mark = 'E' then
        let (negative, digits) := takeSign rest
        match spanDigits digits with
        | ([], _) => none
        | (run, []) => some (if negative then -(natOfDigits run : Int) else natOfDigits run)
        | _ => none
      else
        none

/-- Digits with an optional point and an optional exponent. -/
def Numeral.ofChars? (chars : List Char) : Option Numeral :=
  let (negative, unsigned) := takeSign chars
  let (whole, afterWhole) := spanDigits unsigned
  let (fraction, afterFraction) :=
    match afterWhole with
    | '.' :: rest => spanDigits rest
    | rest => ([], rest)
  if whole.isEmpty && fraction.isEmpty then
    none
  else
    (exponentOf? afterFraction).map fun exponent =>
      { negative := negative
        coefficient := natOfDigits (whole ++ fraction)
        exponent := exponent - fraction.length }

/-- Beyond this many places from the point every float is zero or infinite. -/
private def farExponent : Int := 400

/-- The exponent brought into the range that matters, so that rounding never
builds a number much longer than the numeral. -/
private def Numeral.nearExponent (numeral : Numeral) : Int :=
  let length : Int := (numeral.coefficient.log2 : Int) + 1
  if numeral.exponent > farExponent then farExponent
  else if numeral.exponent < -(farExponent + length) then -(farExponent + length)
  else numeral.exponent

def Numeral.toFloat (numeral : Numeral) : Float :=
  let exponent := numeral.nearExponent
  let size := Float.ofScientific numeral.coefficient (exponent < 0) exponent.natAbs
  if numeral.negative then -size else size

def Numeral.toFloat32 (numeral : Numeral) : Float32 :=
  let exponent := numeral.nearExponent
  let size := Float32.ofScientific numeral.coefficient (exponent < 0) exponent.natAbs
  if numeral.negative then -size else size

/-- The integer that a text of digits with an optional sign stands for. -/
def intOfChars? (chars : List Char) : Option Int :=
  let (negative, unsigned) := takeSign chars
  match spanDigits unsigned with
  | ([], _) => none
  | (digits, []) => some (if negative then -(natOfDigits digits : Int) else natOfDigits digits)
  | _ => none

end TensorGraph.Decimal

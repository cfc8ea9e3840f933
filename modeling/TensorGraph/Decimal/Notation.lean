/-
Written forms of floats.

`shortest` finds the fewest digits that read back as the same binary number,
and `rounded` a fixed count of digits.  Both work in exact arithmetic on
naturals.  A `Style` says when a number is written positionally, how its
exponent is written, how a tie between two shortest forms goes, and what the
special values are called.
-/

import TensorGraph.Decimal.Binary

namespace TensorGraph.Decimal

/-! ### Digits -/

/-- The number `0.d₁d₂… * 10 ^ point`, where `d₁d₂…` are the digits of
`coefficient` written with `count` places. -/
structure Digits where
  coefficient : Nat
  count : Nat
  point : Int
  deriving DecidableEq, Repr

/-- `ratio < 10 ^ power`. -/
private def Ratio.belowPower (ratio : Ratio) : Int → Bool
  | .ofNat power => ratio.numerator < ratio.denominator * Nat.pow 10 power
  | .negSucc power => ratio.numerator * Nat.pow 10 (power + 1) < ratio.denominator

/-- The power `e` with `10 ^ (e - 1) ≤ ratio < 10 ^ e`.  The binary lengths give
an estimate that is at most a few places too low. -/
def Ratio.decimalPoint (ratio : Ratio) : Int :=
  let estimate := (((ratio.numerator.log2 : Int) - ratio.denominator.log2 - 1) * 30103) / 100000 - 1
  (((List.range 6).map fun (step : Nat) => estimate + (step : Int)).find? ratio.belowPower).getD estimate

/-- `ratio / 10 ^ power`, as a ratio. -/
def Ratio.scaled (ratio : Ratio) : Int → Ratio
  | .ofNat power => { ratio with denominator := ratio.denominator * Nat.pow 10 power }
  | .negSucc power => { ratio with numerator := ratio.numerator * Nat.pow 10 (power + 1) }

/-- Which of two equally near neighbours is taken. -/
inductive Tie where
  | up
  | toEven
  deriving DecidableEq, Repr

/-- The grid points next to `ratio` among multiples of the unit: whether the
upper one is nearer, a tie decided as `tie` says. -/
private def Ratio.roundsUp (ratio : Ratio) (tie : Tie) : Bool :=
  let rest := ratio.numerator % ratio.denominator
  if 2 * rest == ratio.denominator then
    match tie with
    | .up => true
    | .toEven => ratio.numerator / ratio.denominator % 2 == 1
  else
    2 * rest > ratio.denominator

/-- `point` lies in the interval of numbers that round to `magnitude`, all three
measured in the unit `10 ^ power`. -/
private def Magnitude.admits (magnitude : Magnitude) (power : Int) (point : Nat) : Bool :=
  let low := magnitude.lowest.scaled power
  let high := magnitude.highest.scaled power
  if magnitude.keepsEnds then
    low.numerator ≤ point * low.denominator && point * high.denominator ≤ high.numerator
  else
    low.numerator < point * low.denominator && point * high.denominator < high.numerator

/-- The nearer of the two neighbours of `magnitude` on the grid of `count`
digits, among those that read back. -/
private def Magnitude.onGrid? (magnitude : Magnitude) (tie : Tie) (point : Int) (count : Nat) :
    Option Digits :=
  let power := point - count
  let value := magnitude.value.scaled power
  let below := value.numerator / value.denominator
  let fits := magnitude.admits power
  let chosen :=
    match fits below, fits (below + 1) with
    | true, true => some (if value.roundsUp tie then below + 1 else below)
    | true, false => some below
    | false, true => some (below + 1)
    | false, false => none
  chosen.map fun coefficient =>
    if coefficient = Nat.pow 10 count then
      { coefficient := Nat.pow 10 (count - 1)
        count := count
        point := point + 1 }
    else
      { coefficient := coefficient
        count := count
        point := point }

/-- The fewest digits that read back as `magnitude`, and of those the nearest.
Seventeen digits always read back. -/
def Magnitude.shortest (magnitude : Magnitude) (tie : Tie) : Digits :=
  let point := magnitude.value.decimalPoint
  (((List.range 17).map (· + 1)).findSome? (magnitude.onGrid? tie point)).getD
    { coefficient := 0
      count := 1
      point := 1 }

/-- Exactly `count` digits, a half going to the even neighbour. -/
def Magnitude.rounded (magnitude : Magnitude) (count : Nat) : Digits :=
  let point := magnitude.value.decimalPoint
  let value := magnitude.value.scaled (point - count)
  let below := value.numerator / value.denominator
  let coefficient := if value.roundsUp .toEven then below + 1 else below
  if coefficient = Nat.pow 10 count then
    { coefficient := Nat.pow 10 (count - 1)
      count := count
      point := point + 1 }
  else
    { coefficient := coefficient
      count := count
      point := point }

/-- The digit characters, padded on the left to `count`. -/
def Digits.chars (digits : Digits) : List Char :=
  let written := (toString digits.coefficient).toList
  List.replicate (digits.count - written.length) '0' ++ written

/-! ### Written forms -/

/-- The choices that a written form of floats makes. -/
structure Style where
  /-- The scientific exponents that are written positionally, both ends included. -/
  leastPositional : Int
  greatestPositional : Int
  tie : Tie
  /-- A positive exponent carries a plus sign. -/
  signedExponent : Bool
  nan : String
  infinity : String

/-- How values are shown: positional from `0.0001` to below `1e16`. -/
def Style.shown : Style :=
  { leastPositional := -4
    greatestPositional := 15
    tie := .up
    signedExponent := false
    nan := "NaN"
    infinity := "inf" }

/-- How documents write numbers: positional from `0.00001` to below `1e+16`, and
no form for what is not finite. -/
def Style.document : Style :=
  { leastPositional := -5
    greatestPositional := 15
    tie := .toEven
    signedExponent := true
    nan := "null"
    infinity := "null" }

private def signText (negative : Bool) : String :=
  if negative then "-" else ""

/-- Digits with a point after the first, and the exponent. -/
private def Style.exponential (style : Style) (chars : List Char) (exponent : Int) : String :=
  let mantissa :=
    match chars with
    | [] => "0"
    | [digit] => digit.toString
    | digit :: rest => digit.toString ++ "." ++ String.ofList rest
  let sign := if style.signedExponent && exponent > 0 then "+" else ""
  mantissa ++ "e" ++ sign ++ toString exponent

/-- Digits with the point where it belongs; a whole number ends in `.0`. -/
private def positional (chars : List Char) (point : Int) : String :=
  match point with
  | .negSucc zeros => "0." ++ String.ofList (List.replicate (zeros + 1) '0' ++ chars)
  | .ofNat whole =>
      if whole = 0 then
        "0." ++ String.ofList chars
      else if chars.length ≤ whole then
        String.ofList (chars ++ List.replicate (whole - chars.length) '0') ++ ".0"
      else
        String.ofList (chars.take whole) ++ "." ++ String.ofList (chars.drop whole)

/-- The shortest text of a datum that reads back as the same number. -/
def Style.write (style : Style) : Datum → String
  | .nan => style.nan
  | .infinite negative => signText negative ++ style.infinity
  | .finite negative magnitude =>
      if magnitude.significand = 0 then
        signText negative ++ "0.0"
      else
        let digits := magnitude.shortest style.tie
        let exponent := digits.point - 1
        signText negative ++
          if style.leastPositional ≤ exponent && exponent ≤ style.greatestPositional then
            positional digits.chars digits.point
          else
            style.exponential digits.chars exponent

/-- The text of a datum with exactly `count` significant digits, always with an
exponent. -/
def Style.writeRounded (style : Style) (count : Nat) : Datum → String
  | .nan => style.nan
  | .infinite negative => signText negative ++ style.infinity
  | .finite negative magnitude =>
      signText negative ++
        if magnitude.significand = 0 then
          style.exponential (List.replicate count '0') 0
        else
          let digits := magnitude.rounded count
          style.exponential digits.chars (digits.point - 1)

def ofSingle (value : Float32) : Datum :=
  Format.single.decode value.toBits.toNat

def ofDouble (value : Float) : Datum :=
  Format.double.decode value.toBits.toNat

end TensorGraph.Decimal

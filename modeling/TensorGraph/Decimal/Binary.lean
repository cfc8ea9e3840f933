/-
Binary floating-point data as exact numbers.

A format is a number of fraction bits and a number of exponent bits.  The bits
of a datum decode to a sign and a `Magnitude`, which knows its exact value and
the interval of reals that round to it.  No arithmetic on floats is involved.
-/

namespace TensorGraph.Decimal

/-- A binary interchange format. -/
structure Format where
  fractionBits : Nat
  exponentBits : Nat
  deriving DecidableEq, Repr

def Format.single : Format :=
  { fractionBits := 23
    exponentBits := 8 }

def Format.double : Format :=
  { fractionBits := 52
    exponentBits := 11 }

/-- The number `significand * 2 ^ exponent`.  `narrowBelow` marks a number whose
lower neighbour is half as far away as its upper one. -/
structure Magnitude where
  significand : Nat
  exponent : Int
  narrowBelow : Bool
  deriving DecidableEq, Repr

inductive Datum where
  | nan
  | infinite (negative : Bool)
  | finite (negative : Bool) (magnitude : Magnitude)
  deriving DecidableEq, Repr

/-- The datum that a bit pattern stands for. -/
def Format.decode (format : Format) (bits : Nat) : Datum :=
  let fraction := bits % Nat.pow 2 format.fractionBits
  let field := bits / Nat.pow 2 format.fractionBits % Nat.pow 2 format.exponentBits
  let negative := bits / Nat.pow 2 (format.fractionBits + format.exponentBits) % 2 == 1
  let bias : Int := (Nat.pow 2 (format.exponentBits - 1) : Nat) - 1
  if field + 1 == Nat.pow 2 format.exponentBits then
    if fraction == 0 then .infinite negative else .nan
  else if field == 0 then
    .finite negative
      { significand := fraction
        exponent := 1 - bias - format.fractionBits
        narrowBelow := false }
  else
    .finite negative
      { significand := Nat.pow 2 format.fractionBits + fraction
        exponent := field - bias - format.fractionBits
        narrowBelow := fraction == 0 && field != 1 }

/-- A nonnegative rational. -/
structure Ratio where
  numerator : Nat
  denominator : Nat
  deriving DecidableEq, Repr

/-- The number `quarters * 2 ^ (exponent - 2)`. -/
private def Magnitude.ofQuarters (magnitude : Magnitude) (quarters : Nat) : Ratio :=
  match magnitude.exponent - 2 with
  | .ofNat shift =>
      { numerator := quarters * Nat.pow 2 shift
        denominator := 1 }
  | .negSucc shift =>
      { numerator := quarters
        denominator := Nat.pow 2 (shift + 1) }

def Magnitude.value (magnitude : Magnitude) : Ratio :=
  magnitude.ofQuarters (4 * magnitude.significand)

/-- The lower end of the interval of reals that round to this number. -/
def Magnitude.lowest (magnitude : Magnitude) : Ratio :=
  magnitude.ofQuarters (4 * magnitude.significand - if magnitude.narrowBelow then 1 else 2)

/-- The upper end of the interval of reals that round to this number. -/
def Magnitude.highest (magnitude : Magnitude) : Ratio :=
  magnitude.ofQuarters (4 * magnitude.significand + 2)

/-- The ends of the interval round to an even significand. -/
def Magnitude.keepsEnds (magnitude : Magnitude) : Bool :=
  magnitude.significand % 2 == 0

end TensorGraph.Decimal

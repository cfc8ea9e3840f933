/-
Reading documents.

The reader accepts the strict form: no leading zeros, no control characters in
strings, nothing but white space around the value.
-/

import TensorGraph.Json.Basic
import TensorGraph.Decimal.Numeral

namespace TensorGraph.Json

/-! ### Numbers -/

/-- A number as it stands in a text. -/
private structure Lexeme where
  negative : Bool
  whole : List Char
  fraction : Option (List Char)
  exponent : Option (Bool × List Char)

private def wordLimit : Nat := Nat.pow 2 64

/-- Digits taken into `significand` as long as it fits a word of sixty-four bits:
the significand, and the number of digits that no longer fit. -/
private def accumulate (significand : Nat) : List Char → Nat × Nat
  | [] => (significand, 0)
  | digit :: rest =>
      let next := significand * 10 + (digit.toNat - '0'.toNat)
      if next < wordLimit then
        accumulate next rest
      else
        (significand, rest.length + 1)

private def powerOfTen (power : Nat) : Float :=
  Float.ofScientific 1 false power

/-- `value * 10 ^ exponent` by at most one multiplication, or by divisions; `none`
beyond the floats.  `rounds` bounds the number of divisions. -/
private def scaled? : Nat → Float → Int → Option Float
  | rounds, value, exponent =>
      if exponent.natAbs ≤ 308 then
        if exponent ≥ 0 then
          let product := value * powerOfTen exponent.natAbs
          if product.isInf then none else some product
        else
          some (value / powerOfTen exponent.natAbs)
      else if value == 0.0 then
        some value
      else if exponent ≥ 0 then
        none
      else
        match rounds with
        | 0 => some 0.0
        | rounds + 1 => scaled? rounds (value / powerOfTen 308) (exponent + 308)

private def exponentLimit : Int := 2147483647

private def clampExponent (exponent : Int) : Int :=
  max (-exponentLimit - 1) (min exponentLimit exponent)

/-- The value of a number: an integer where a word of sixty-four bits holds it, and
otherwise a float made from its leading digits. -/
private def Lexeme.read (lexeme : Lexeme) : Json :=
  let (whole, excess) := accumulate 0 lexeme.whole
  let signed (size : Float) : Json := real (if lexeme.negative then -size else size)
  match lexeme.fraction, lexeme.exponent with
  | none, none =>
      if excess = 0 then
        if lexeme.negative then
          if whole = 0 || whole > Nat.pow 2 63 then
            signed (Float.ofNat whole)
          else
            integer (-(whole : Int))
        else
          integer whole
      else
        match scaled? 8 (Float.ofNat whole) excess with
        | some size => signed size
        | none => unreadable
  | fraction, exponent =>
      let digits := fraction.getD []
      let (significand, dropped) := accumulate whole digits
      let start : Int := excess - (digits.length - dropped : Nat)
      let (negative, places) := exponent.getD (false, [])
      let size := Decimal.natOfDigits places
      if (size : Int) > exponentLimit then
        if significand != 0 && !negative then unreadable else signed 0.0
      else
        let power := clampExponent (if negative then start - size else start + size)
        match scaled? 8 (Float.ofNat significand) power with
        | some size => signed size
        | none => unreadable

/-- A number at the front of a text. -/
private def lexeme? (chars : List Char) : Option (Json × List Char) := do
  let (negative, unsigned) :=
    match chars with
    | '-' :: rest => (true, rest)
    | rest => (false, rest)
  let (whole, afterWhole) := Decimal.spanDigits unsigned
  if whole.isEmpty || (whole.length > 1 && whole.head? == some '0') then
    none
  let (fraction, afterFraction) ←
    match afterWhole with
    | '.' :: rest =>
        let (digits, rest) := Decimal.spanDigits rest
        if digits.isEmpty then none else some (some digits, rest)
    | rest => some (none, rest)
  let (exponent, rest) ←
    match afterFraction with
    | mark :: rest =>
        if mark = 'e' || mark = 'E' then
          let (negative, rest) := Decimal.takeSign rest
          let (digits, rest) := Decimal.spanDigits rest
          if digits.isEmpty then none else some (some (negative, digits), rest)
        else
          some (none, mark :: rest)
    | [] => some (none, [])
  return (Lexeme.read
    { negative := negative
      whole := whole
      fraction := fraction
      exponent := exponent }, rest)

/-! ### Strings -/

private def hexValue? (char : Char) : Option Nat :=
  if '0' ≤ char && char ≤ '9' then some (char.toNat - '0'.toNat)
  else if 'a' ≤ char && char ≤ 'f' then some (char.toNat - 'a'.toNat + 10)
  else if 'A' ≤ char && char ≤ 'F' then some (char.toNat - 'A'.toNat + 10)
  else none

private def hexQuad? : List Char → Option (Nat × List Char)
  | a :: b :: c :: d :: rest => do
      let a ← hexValue? a
      let b ← hexValue? b
      let c ← hexValue? c
      let d ← hexValue? d
      return (((a * 16 + b) * 16 + c) * 16 + d, rest)
  | _ => none

private def isLeading (unit : Nat) : Bool :=
  0xD800 ≤ unit && unit < 0xDC00

private def isTrailing (unit : Nat) : Bool :=
  0xDC00 ≤ unit && unit < 0xE000

private def simpleEscape? : Char → Option Char
  | '"' => some '"'
  | '\\' => some '\\'
  | '/' => some '/'
  | 'b' => some '\x08'
  | 'f' => some '\x0c'
  | 'n' => some '\n'
  | 'r' => some '\r'
  | 't' => some '\t'
  | _ => none

/-- The rest of a string after its opening quote.  The text is `none` when the string
holds half a surrogate pair.  `fuel` bounds the number of characters read. -/
private def stringRest? : Nat → List Char → Bool → List Char → Option (Option String × List Char)
  | 0, _, _, _ => none
  | fuel + 1, read, whole, chars =>
      match chars with
      | [] => none
      | '"' :: rest => some (if whole then some (String.ofList read.reverse) else none, rest)
      | '\\' :: 'u' :: rest =>
          match hexQuad? rest with
          | none => none
          | some (unit, rest) =>
              if isLeading unit then
                let trailing :=
                  match rest with
                  | '\\' :: 'u' :: after => (hexQuad? after).filter fun pair => isTrailing pair.1
                  | _ => none
                match trailing with
                | some (low, after) =>
                    let code := 0x10000 + (unit - 0xD800) * 0x400 + (low - 0xDC00)
                    stringRest? fuel (Char.ofNat code :: read) whole after
                | none => stringRest? fuel read false rest
              else if isTrailing unit then
                stringRest? fuel read false rest
              else
                stringRest? fuel (Char.ofNat unit :: read) whole rest
      | '\\' :: escape :: rest =>
          match simpleEscape? escape with
          | none => none
          | some char => stringRest? fuel (char :: read) whole rest
      | char :: rest =>
          if char.toNat < 0x20 || char = '\\' then
            none
          else
            stringRest? fuel (char :: read) whole rest

private def string? : List Char → Option (Option String × List Char)
  | '"' :: rest => stringRest? (rest.length + 1) [] true rest
  | _ => none

/-! ### Values -/

private def isBlank (char : Char) : Bool :=
  char = ' ' || char = '\n' || char = '\t' || char = '\r'

private def skipBlank (chars : List Char) : List Char :=
  chars.dropWhile isBlank

private def word? (word : String) (value : Json) (chars : List Char) :
    Option (Json × List Char) :=
  if word.toList.isPrefixOf chars then
    some (value, chars.drop word.length)
  else
    none

mutual

/-- A value at the front of a text, after white space. -/
private def value? : Nat → List Char → Option (Json × List Char)
  | 0, _ => none
  | fuel + 1, chars =>
      match skipBlank chars with
      | 'n' :: rest => word? "null" null ('n' :: rest)
      | 't' :: rest => word? "true" (bool true) ('t' :: rest)
      | 'f' :: rest => word? "false" (bool false) ('f' :: rest)
      | '"' :: rest =>
          (string? ('"' :: rest)).map fun (text, rest) =>
            ((text.map string).getD unreadable, rest)
      | '[' :: rest =>
          match skipBlank rest with
          | ']' :: rest => some (array [], rest)
          | rest => (items? fuel rest []).map fun (items, rest) => (array items, rest)
      | '\x7b' :: rest =>
          match skipBlank rest with
          | '\x7d' :: rest => some (object [], rest)
          | rest =>
              (entries? fuel rest [] true).map fun (entries, rest) =>
                ((entries.map object).getD unreadable, rest)
      | rest => lexeme? rest

/-- The items of an array up to its closing bracket. -/
private def items? : Nat → List Char → List Json → Option (List Json × List Char)
  | 0, _, _ => none
  | fuel + 1, chars, found =>
      match value? fuel chars with
      | none => none
      | some (item, rest) =>
          match skipBlank rest with
          | ',' :: rest => items? fuel rest (item :: found)
          | ']' :: rest => some ((item :: found).reverse, rest)
          | _ => none

/-- The entries of an object up to its closing brace; `none` in the place of the
entries when a key has no text. -/
private def entries? : Nat → List Char → List (String × Json) → Bool →
    Option (Option (List (String × Json)) × List Char)
  | 0, _, _, _ => none
  | fuel + 1, chars, found, whole =>
      match string? (skipBlank chars) with
      | none => none
      | some (key, rest) =>
          match skipBlank rest with
          | ':' :: rest =>
              match value? fuel rest with
              | none => none
              | some (value, rest) =>
                  let found := (key.getD "", value) :: found
                  let whole := whole && key.isSome
                  match skipBlank rest with
                  | ',' :: rest => entries? fuel rest found whole
                  | '\x7d' :: rest =>
                      some (if whole then some found.reverse else none, rest)
                  | _ => none
          | _ => none

end

/-- The document that a text holds; `none` when the text is not well formed. -/
def parse? (text : String) : Option Json :=
  let chars := text.toList
  match value? (2 * chars.length + 2) chars with
  | some (value, rest) => if (skipBlank rest).isEmpty then some value else none
  | none => none

end TensorGraph.Json

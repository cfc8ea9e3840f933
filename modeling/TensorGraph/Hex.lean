/-
Bytes as text.

A byte is written as two hexadecimal digits in lower case.  The reader takes
the bytes of a text in pairs; a pair is two digits of either case, or one digit
after a plus sign.
-/

import TensorGraph.Error

namespace TensorGraph.Hex

/-- The digit of a number below sixteen. -/
def digit (value : Nat) : Char :=
  Char.ofNat (if value < 10 then '0'.toNat + value else 'a'.toNat + (value - 10))

def encode (bytes : List UInt8) : String :=
  String.ofList (bytes.flatMap fun byte => [digit (byte.toNat / 16), digit (byte.toNat % 16)])

/-- The number that the code of a hexadecimal digit stands for. -/
def digitValue? (code : UInt8) : Option Nat :=
  let code := code.toNat
  if '0'.toNat ≤ code && code ≤ '9'.toNat then some (code - '0'.toNat)
  else if 'a'.toNat ≤ code && code ≤ 'f'.toNat then some (code - 'a'.toNat + 10)
  else if 'A'.toNat ≤ code && code ≤ 'F'.toNat then some (code - 'A'.toNat + 10)
  else none

/-- The byte that a pair of codes stands for. -/
def pairValue? (first second : UInt8) : Option UInt8 :=
  match digitValue? second with
  | none => none
  | some low =>
      if first.toNat = '+'.toNat then
        some (UInt8.ofNat low)
      else
        (digitValue? first).map fun high => UInt8.ofNat (high * 16 + low)

private def unknownChar : Char := Char.ofNat 0xFFFD

/-- Two bytes of a text as characters: bytes that are no character of their own are
shown as one replacement character for each broken sequence. -/
private def shown (first second : UInt8) : List Char :=
  let ascii (code : UInt8) : Bool := code < 0x80
  let single (code : UInt8) : Char := if ascii code then Char.ofNat code.toNat else unknownChar
  if first < 0xC0 || ascii second || second ≥ 0xC0 then
    [single first, single second]
  else if first < 0xE0 then
    [Char.ofNat ((first.toNat - 0xC0) * 64 + (second.toNat - 0x80))]
  else
    [unknownChar]

private def badPair (first second : UInt8) : Error :=
  .archive ("invalid hex byte '" ++ String.ofList (shown first second) ++ "'")

/-- The bytes that successive pairs of codes stand for. -/
def decodePairs : List UInt8 → Except Error (List UInt8)
  | first :: second :: rest =>
      match pairValue? first second with
      | some byte => (byte :: ·) <$> decodePairs rest
      | none => .error (badPair first second)
  | _ => .ok []

/-- The bytes that a text stands for.  Its length is counted in bytes. -/
def decode (text : String) : Except Error (List UInt8) :=
  let codes := text.toUTF8.data.toList
  if codes.length % 2 = 0 then
    decodePairs codes
  else
    .error (.archive ("hex data has odd length " ++ toString codes.length))

end TensorGraph.Hex

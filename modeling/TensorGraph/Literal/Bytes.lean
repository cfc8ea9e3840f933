/-
Memory images of literals.

An element is stored with its least significant byte first.  The bytes of a
natural number are the domain of `littleEndian` and `ofLittleEndian`.
-/

import TensorGraph.Literal

namespace TensorGraph

/-- The `count` low bytes of a number, the least significant first. -/
def littleEndian : Nat → Nat → List UInt8
  | 0, _ => []
  | count + 1, number => UInt8.ofNat number :: littleEndian count (number / 256)

def ofLittleEndian : List UInt8 → Nat
  | [] => 0
  | byte :: rest => byte.toNat + 256 * ofLittleEndian rest

@[simp]
theorem length_littleEndian (count number : Nat) : (littleEndian count number).length = count := by
  induction count generalizing number with
  | zero => rfl
  | succ count ih => simp [littleEndian, ih]

theorem ofLittleEndian_littleEndian (count number : Nat) :
    ofLittleEndian (littleEndian count number) = number % Nat.pow 256 count := by
  induction count generalizing number with
  | zero => simp [littleEndian, ofLittleEndian, Nat.mod_one]
  | succ count ih =>
      have split : Nat.pow 256 (count + 1) = 256 * Nat.pow 256 count := Nat.mul_comm _ _
      rw [littleEndian, ofLittleEndian, ih, split, Nat.mod_mul, UInt8.toNat_ofNat']

namespace Literal

/-- The image of an element, as long as its type is wide. -/
def bytes : Literal → List UInt8
  | bool value => [if value then 1 else 0]
  | u8 value => [value]
  | i32 value => littleEndian 4 value.toUInt32.toNat
  | i64 value => littleEndian 8 value.toUInt64.toNat
  | f32 value => littleEndian 4 value.toBits.toNat
  | f64 value => littleEndian 8 value.toBits.toNat

@[simp]
theorem length_bytes (literal : Literal) : literal.bytes.length = literal.dtype.width := by
  cases literal <;> simp [bytes, dtype, DType.width]

/-- The element whose image is exactly these bytes. -/
def ofImage (dtype : DType) (image : List UInt8) : Literal :=
  let number := ofLittleEndian image
  match dtype with
  | .bool => bool (number != 0)
  | .u8 => u8 (UInt8.ofNat number)
  | .i32 => i32 (Int32.ofNat number)
  | .i64 => i64 (Int64.ofNat number)
  | .f32 => f32 (Float32.ofBits (UInt32.ofNat number))
  | .f64 => f64 (Float.ofBits (UInt64.ofNat number))

@[simp]
theorem dtype_ofImage (dtype : DType) (image : List UInt8) :
    (ofImage dtype image).dtype = dtype := by
  cases dtype <;> rfl

/-- The element at the front of some bytes; bytes after it are not looked at. -/
def ofBytes (dtype : DType) (source : List UInt8) : Except Error Literal :=
  if source.length < dtype.width then
    .error (.execution ("need " ++ toString dtype.width ++ " bytes to decode " ++ dtype.name ++
      ", have " ++ toString source.length))
  else
    .ok (ofImage dtype (source.take dtype.width))

end Literal
end TensorGraph

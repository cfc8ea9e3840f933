/-
Literals.

A literal is one typed element, the unit of all arithmetic: the interpreter,
the constant folder and the machine combine elements only through `binary`,
`unary`, `compare` and `cast`.  Integer arithmetic wraps; a quotient that does
not exist or does not fit is an execution error.
-/

import TensorGraph.Error
import TensorGraph.Op
import TensorGraph.Decimal.Binary

namespace TensorGraph

inductive Literal where
  | bool (value : Bool)
  | u8 (value : UInt8)
  | i32 (value : Int32)
  | i64 (value : Int64)
  | f32 (value : Float32)
  | f64 (value : Float)
  deriving DecidableEq

namespace Literal

def dtype : Literal → DType
  | bool _ => .bool
  | u8 _ => .u8
  | i32 _ => .i32
  | i64 _ => .i64
  | f32 _ => .f32
  | f64 _ => .f64

def zero : DType → Literal
  | .bool => bool false
  | .u8 => u8 0
  | .i32 => i32 0
  | .i64 => i64 0
  | .f32 => f32 0.0
  | .f64 => f64 0.0

def one : DType → Literal
  | .bool => bool true
  | .u8 => u8 1
  | .i32 => i32 1
  | .i64 => i64 1
  | .f32 => f32 1.0
  | .f64 => f64 1.0

@[simp]
theorem dtype_zero (dtype : DType) : (zero dtype).dtype = dtype := by
  cases dtype <;> rfl

@[simp]
theorem dtype_one (dtype : DType) : (one dtype).dtype = dtype := by
  cases dtype <;> rfl

/-! ### Conversion -/

/-- The integer part of a float, held between `least` and `greatest`.  NaN has
the integer part zero. -/
def truncate (least greatest : Int) (value : Float) : Int :=
  match Decimal.Format.double.decode value.toBits.toNat with
  | .nan => 0
  | .infinite negative => if negative then least else greatest
  | .finite negative magnitude =>
      let size := magnitude.value.numerator / magnitude.value.denominator
      let signed : Int := if negative then -(size : Int) else size
      max least (min greatest signed)

/-- The literal of the given type nearest to a number from the side of zero; any
number but zero counts as true. -/
def ofFloat (dtype : DType) (value : Float) : Literal :=
  match dtype with
  | .bool => bool (value != 0.0)
  | .u8 => u8 (UInt8.ofNat (truncate 0 255 value).toNat)
  | .i32 => i32 (Int32.ofInt (truncate (-2147483648) 2147483647 value))
  | .i64 => i64 (Int64.ofInt (truncate (-9223372036854775808) 9223372036854775807 value))
  | .f32 => f32 value.toFloat32
  | .f64 => f64 value

def toFloat : Literal → Float
  | bool value => if value then 1.0 else 0.0
  | u8 value => value.toFloat
  | i32 value => Float.ofInt value.toInt
  | i64 value => Float.ofInt value.toInt
  | f32 value => value.toFloat
  | f64 value => value

def toInt64 : Literal → Int64
  | bool value => if value then 1 else 0
  | u8 value => Int64.ofNat value.toNat
  | i32 value => value.toInt64
  | i64 value => value
  | f32 value =>
      Int64.ofInt (truncate (-9223372036854775808) 9223372036854775807 value.toFloat)
  | f64 value => Int64.ofInt (truncate (-9223372036854775808) 9223372036854775807 value)

def isTrue : Literal → Bool
  | bool value => value
  | other => other.toFloat != 0.0

/-- Conversion to another type: between integers the low bits are kept, and every
other conversion goes through the widest float. -/
def cast (literal : Literal) (dtype : DType) : Literal :=
  if literal.dtype = dtype then
    literal
  else
    match literal, dtype with
    | i64 value, .i32 => i32 value.toInt32
    | i64 value, .u8 => u8 value.toUInt64.toUInt8
    | i32 value, .i64 => i64 value.toInt64
    | i32 value, .u8 => u8 value.toUInt32.toUInt8
    | u8 value, .i32 => i32 (Int32.ofNat value.toNat)
    | u8 value, .i64 => i64 (Int64.ofNat value.toNat)
    | other, _ => ofFloat dtype other.toFloat

@[simp]
theorem dtype_ofFloat (dtype : DType) (value : Float) : (ofFloat dtype value).dtype = dtype := by
  cases dtype <;> rfl

@[simp]
theorem dtype_cast (literal : Literal) (dtype : DType) : (literal.cast dtype).dtype = dtype := by
  unfold cast
  split
  · assumption
  · cases literal <;> cases dtype <;> rfl

/-! ### Arithmetic -/

private def undefinedOn (opName : String) (dtype : DType) : Error :=
  .invalidArgument ("operation '" ++ opName ++ "' is not defined on " ++ dtype.name)

/-- The quotient does not exist or does not fit. -/
def noQuotient : Error := .execution "integer division by zero"

@[inline]
private def integerBinary {α : Type} [Add α] [Sub α] [Mul α] [Div α] [LE α] [DecidableLE α]
    (hasQuotient : α → α → Bool) (op : BinaryOp) (left right : α) : Except Error α :=
  match op with
  | .add => .ok (left + right)
  | .sub => .ok (left - right)
  | .mul => .ok (left * right)
  | .div => if hasQuotient left right then .ok (left / right) else .error noQuotient
  | .min => .ok (if left ≤ right then left else right)
  | .max => .ok (if left ≤ right then right else left)

/-- Of a number and NaN the lesser and the greater are both the number. -/
@[inline]
private def floatBinary {α : Type} [Add α] [Sub α] [Mul α] [Div α] [LT α] [DecidableLT α]
    (isNaN : α → Bool) (op : BinaryOp) (left right : α) : α :=
  match op with
  | .add => left + right
  | .sub => left - right
  | .mul => left * right
  | .div => left / right
  | .min => if isNaN left then right else if right < left then right else left
  | .max => if isNaN left then right else if left < right then right else left

def binary (op : BinaryOp) : Literal → Literal → Except Error Literal
  | bool left, bool right =>
      match op with
      | .min => .ok (bool (left && right))
      | .max => .ok (bool (left || right))
      | _ => .error (undefinedOn op.name .bool)
  | u8 left, u8 right => u8 <$> integerBinary (fun _ right => right != 0) op left right
  | i32 left, i32 right =>
      i32 <$> integerBinary
        (fun left right => right != 0 && !(left == Int32.minValue && right == -1)) op left right
  | i64 left, i64 right =>
      i64 <$> integerBinary
        (fun left right => right != 0 && !(left == Int64.minValue && right == -1)) op left right
  | f32 left, f32 right => .ok (f32 (floatBinary Float32.isNaN op left right))
  | f64 left, f64 right => .ok (f64 (floatBinary Float.isNaN op left right))
  | left, right => .error (.dtypes left.dtype right.dtype)

private def notOnNumbers : Error :=
  .invalidArgument "operation 'not' is only defined on bool"

def unary (op : UnaryOp) : Literal → Except Error Literal
  | bool value =>
      match op with
      | .not => .ok (bool (!value))
      | _ => .error (undefinedOn op.name .bool)
  | u8 value =>
      match op with
      | .neg => .ok (u8 (0 - value))
      | .abs => .ok (u8 value)
      | _ => .error (undefinedOn op.name .u8)
  | i32 value =>
      match op with
      | .neg => .ok (i32 (-value))
      | .abs => .ok (i32 (if value < 0 then -value else value))
      | _ => .error (undefinedOn op.name .i32)
  | i64 value =>
      match op with
      | .neg => .ok (i64 (-value))
      | .abs => .ok (i64 (if value < 0 then -value else value))
      | _ => .error (undefinedOn op.name .i64)
  | f32 value =>
      match op with
      | .neg => .ok (f32 (-value))
      | .abs => .ok (f32 value.abs)
      | .exp => .ok (f32 value.exp)
      | .log => .ok (f32 value.log)
      | .sqrt => .ok (f32 value.sqrt)
      | .tanh => .ok (f32 value.tanh)
      | .not => .error notOnNumbers
  | f64 value =>
      match op with
      | .neg => .ok (f64 (-value))
      | .abs => .ok (f64 value.abs)
      | .exp => .ok (f64 value.exp)
      | .log => .ok (f64 value.log)
      | .sqrt => .ok (f64 value.sqrt)
      | .tanh => .ok (f64 value.tanh)
      | .not => .error notOnNumbers

/-! ### Comparison -/

@[inline]
private def floatOrder {α : Type} [LT α] [DecidableLT α] [BEq α] (left right : α) :
    Option Ordering :=
  if left < right then some .lt
  else if left == right then some .eq
  else if right < left then some .gt
  else none

/-- The order of two elements of one type.  NaN is in no order with anything. -/
def order : Literal → Literal → Option Ordering
  | bool left, bool right => some (compareOfLessAndEq left.toNat right.toNat)
  | u8 left, u8 right => some (compareOfLessAndEq left right)
  | i32 left, i32 right => some (compareOfLessAndEq left right)
  | i64 left, i64 right => some (compareOfLessAndEq left right)
  | f32 left, f32 right => floatOrder left right
  | f64 left, f64 right => floatOrder left right
  | _, _ => none

def compare (op : CompareOp) (left right : Literal) : Except Error Bool :=
  if left.dtype = right.dtype then
    .ok (op.holds (left.order right))
  else
    .error (.dtypes left.dtype right.dtype)

/-- Two elements of one type that compare as equal; NaN equals nothing. -/
def same (left right : Literal) : Bool :=
  left.order right == some .eq

end Literal
end TensorGraph

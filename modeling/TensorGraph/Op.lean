/-
Operation tags.

The interpreter, the emitter and the machine name an operation by the same
tag, and all three evaluate it with the same arithmetic of literals.
-/

namespace TensorGraph

/-- Arithmetic on two operands.  On truth values `min` is conjunction and `max`
is disjunction. -/
inductive BinaryOp where
  | add
  | sub
  | mul
  | div
  | min
  | max
  deriving DecidableEq, Repr, Inhabited

/-- Arithmetic on one operand.  Only `not` is defined on truth values. -/
inductive UnaryOp where
  | neg
  | abs
  | exp
  | log
  | sqrt
  | tanh
  | not
  deriving DecidableEq, Repr, Inhabited

/-- Comparisons; each answers with a truth value. -/
inductive CompareOp where
  | eq
  | ne
  | lt
  | le
  | gt
  | ge
  deriving DecidableEq, Repr, Inhabited

namespace BinaryOp

def name : BinaryOp → String
  | add => "add"
  | sub => "sub"
  | mul => "mul"
  | div => "div"
  | min => "min"
  | max => "max"

def all : List BinaryOp := [add, sub, mul, div, min, max]

def ofName? (text : String) : Option BinaryOp :=
  all.find? fun op => op.name == text

theorem ofName?_name (op : BinaryOp) : ofName? op.name = some op := by
  cases op <;> decide

end BinaryOp

namespace UnaryOp

def name : UnaryOp → String
  | neg => "neg"
  | abs => "abs"
  | exp => "exp"
  | log => "log"
  | sqrt => "sqrt"
  | tanh => "tanh"
  | not => "not"

def all : List UnaryOp := [neg, abs, exp, log, sqrt, tanh, not]

def ofName? (text : String) : Option UnaryOp :=
  all.find? fun op => op.name == text

end UnaryOp

namespace CompareOp

def name : CompareOp → String
  | eq => "eq"
  | ne => "ne"
  | lt => "lt"
  | le => "le"
  | gt => "gt"
  | ge => "ge"

def all : List CompareOp := [eq, ne, lt, le, gt, ge]

def ofName? (text : String) : Option CompareOp :=
  all.find? fun op => op.name == text

/-- The answer of a comparison from the order of its operands; unordered
operands (one is NaN) are different and in no order. -/
def holds : CompareOp → Option Ordering → Bool
  | ne, none => true
  | _, none => false
  | eq, some order => order == .eq
  | ne, some order => order != .eq
  | lt, some order => order == .lt
  | le, some order => order != .gt
  | gt, some order => order == .gt
  | ge, some order => order != .lt

end CompareOp
end TensorGraph

/-
Kernels.

A kernel is a computation written once against a few primitives: memory,
scalar arithmetic, counted loops and branches.  An instance of `Kernel` gives
the primitives a meaning.  One runs them at once on host memory, another writes
them down as code; a kernel cannot tell which.

`offset` takes one index for each logical dimension and answers with a value
without layout at the addressed element.  `store` and the arithmetic work on
rank-zero values.  `move` counts elements from the base of each value, and its
ranges may overlap.
-/

import TensorGraph.Value

namespace TensorGraph

/-- A rank-zero value of a known type. -/
structure Scalar where
  value : Value
  dtype : DType
  typed : value.dtype? = some dtype
  rankZero : value.layout?.map Layout.rank = some 0

/-- The meaning of the primitives that kernels are made of. -/
class Kernel (m : Type → Type) extends Monad m where
  /-- Works directly on host memory, whatever the strategy. -/
  onHost {α : Type} (action : Action Heap α) : m α
  /-- Fresh memory filled with zeros. -/
  allocate (dtype : DType) (layout : Layout) : m Value
  /-- Memory that outlives the run, seeded from a value. -/
  state (name : String) (value : Value) : m Value
  offset (value : Value) (indices : List Scalar) : m Value
  /-- The element of a rank-zero value, where it is known already. -/
  known (value : Value) : m (Option Literal)
  store (target source : Value) : m Unit
  move (target : Value) (targetOffset : Nat) (source : Value) (sourceOffset count : Nat) : m Unit
  binary (op : BinaryOp) (left right : Value) : m Value
  unary (op : UnaryOp) (operand : Value) : m Value
  compare (op : CompareOp) (left right : Value) : m Value
  cast (operand : Value) (dtype : DType) : m Value
  /-- Runs `body` for `start`, `start + step`, … below `stop`. -/
  forRange (start stop step : Nat) (body : Scalar → m Unit) : m Unit
  ifElse (condition : Value) (onTrue onFalse : m Unit) : m Unit

namespace Kernel

variable {m : Type → Type} [Kernel m]

def fail {α : Type} (cause : Error) : m α :=
  onHost (throw (.error cause))

/-- Ends the run: the caller broke a rule that no input can break. -/
def abort {α : Type} (message : String) : m α :=
  onHost (throw (.abort message))

/-- A pure result inside a kernel. -/
def ofExcept {α : Type} (result : Except Error α) : m α :=
  onHost (Action.ofExcept result)

/-- A result that looks at host memory. -/
def read {α : Type} (view : Heap → Except Error α) : m α :=
  onHost (do Action.ofExcept (view (← get)))

end Kernel

namespace Scalar

/-- A value taken as a scalar: it has to be defined and of rank zero. -/
def ofValue (value : Value) : Except Error Scalar :=
  match value.ready with
  | .error cause => .error cause
  | .ok layout =>
      if rankZero : value.layout?.map Layout.rank = some 0 then
        match typed : value.dtype? with
        | some dtype =>
            .ok
              { value := value
                dtype := dtype
                typed := typed
                rankZero := rankZero }
        | none => .error (.invalidArgument "value has no element type")
      else
        .error (.invalidArgument ("scalar requires a rank-0 value, got rank " ++
          toString layout.rank))

/-- A scalar in fresh host memory. -/
def ofLiteral (literal : Literal) : Action Heap Scalar := fun heap =>
  .ok
    { value :=
        { dtype? := some literal.dtype
          layout? := some Layout.scalar
          place := .host heap.next 0 }
      dtype := literal.dtype
      typed := rfl
      rankZero := rfl }
    (heap.add (Storage.singleton literal))

/-- An index as a scalar; indices are counted in sixty-four bits. -/
def ofIndex (index : Nat) : Action Heap Scalar :=
  ofLiteral (.i64 (Int64.ofNat index))

variable {m : Type → Type} [Kernel m]

def constant (literal : Literal) : m Scalar :=
  Kernel.onHost (ofLiteral literal)

def index (position : Nat) : m Scalar :=
  Kernel.onHost (ofIndex position)

/-- A constant of the same type. -/
def like (scalar : Scalar) (number : Float) : m Scalar :=
  constant (.ofFloat scalar.dtype number)

def known (scalar : Scalar) : m (Option Literal) :=
  Kernel.known scalar.value

def checkType (left right : Scalar) : m Unit :=
  if left.dtype = right.dtype then
    pure ()
  else
    Kernel.fail (.dtypes left.dtype right.dtype)

def assign (target source : Scalar) : m Unit := do
  checkType target source
  Kernel.store target.value source.value

def binary (op : BinaryOp) (left right : Scalar) : m Scalar := do
  checkType left right
  Kernel.ofExcept (ofValue (← Kernel.binary op left.value right.value))

def unary (op : UnaryOp) (operand : Scalar) : m Scalar := do
  Kernel.ofExcept (ofValue (← Kernel.unary op operand.value))

def compare (op : CompareOp) (left right : Scalar) : m Scalar := do
  checkType left right
  Kernel.ofExcept (ofValue (← Kernel.compare op left.value right.value))

/-- The scalar in another type; in its own type it is itself. -/
def cast (operand : Scalar) (dtype : DType) : m Scalar := do
  if dtype = operand.dtype then
    return operand
  Kernel.ofExcept (ofValue (← Kernel.cast operand.value dtype))

/-- A literal taken as a position in a tensor. -/
def position (literal : Literal) : Except Error Nat :=
  let index := literal.toInt64.toInt
  if 0 ≤ index then
    .ok index.toNat
  else
    .error (.invalidArgument ("negative index " ++ toString index))

/-- The position that a scalar names, where it is known already. -/
def knownPosition (index : Scalar) : m (Option Nat) := do
  match ← known index with
  | none => return none
  | some literal => some <$> Kernel.ofExcept (position literal)

/-- An index that is known already is below `size`. -/
def checkBelow (index : Scalar) (size : Nat) : m Unit := do
  match ← index.knownPosition with
  | none => pure ()
  | some position =>
      if position ≥ size then
        Kernel.fail (.indexOutOfRange position size)
      else
        pure ()

end Scalar
end TensorGraph

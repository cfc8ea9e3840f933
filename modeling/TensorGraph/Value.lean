/-
Values.

A value is a handle to memory: an element type, a place, and a layout.  Copying
a value copies the handle, so both copies see the same memory.  The place is
host memory, memory of emitted code, or nothing yet.
-/

import TensorGraph.Heap
import TensorGraph.Layout.View

namespace TensorGraph

/-- Where the elements of a value live.  `base` is the element position in host
storage from which the layout counts. -/
inductive Place where
  | unbound
  | host (storage base : Nat)
  | emitted (register : Nat)
  deriving DecidableEq, Repr, Inhabited

structure Value where
  dtype? : Option DType
  layout? : Option Layout
  place : Place
  deriving DecidableEq

namespace Value

/-- A value that nothing is known of. -/
def undefined : Value :=
  { dtype? := none
    layout? := none
    place := .unbound }

instance : Inhabited Value where
  default := undefined

/-- A value in memory of emitted code. -/
def emitted (dtype : DType) (register : Nat) (layout? : Option Layout) : Value :=
  { dtype? := some dtype
    layout? := layout?
    place := .emitted register }

def dtype (value : Value) : Except Error DType :=
  match value.dtype? with
  | some dtype => .ok dtype
  | none => .error (.invalidArgument "value has no element type")

def layout (value : Value) : Except Error Layout :=
  match value.layout? with
  | some layout => .ok layout
  | none => .error (.invalidArgument "value has no layout")

def isDefined (value : Value) : Bool :=
  value.dtype?.isSome && value.place != .unbound

def isConstrained (value : Value) : Bool :=
  value.layout?.isSome

def isHost (value : Value) : Bool :=
  match value.place with
  | .host _ _ => true
  | _ => false

/-- The register that points at the elements, for a value of emitted code. -/
def register? (value : Value) : Option Nat :=
  match value.place with
  | .emitted register => some register
  | _ => none

/-- The storage and the base of a host value. -/
def host (value : Value) : Except Error (Nat × Nat) :=
  match value.place with
  | .host storage base => .ok (storage, base)
  | _ => .error (.invalidArgument "value is not bound to host memory")

/-- The layout of a value that is defined. -/
def ready (value : Value) : Except Error Layout :=
  if value.isDefined then
    value.layout
  else
    .error (.invalidArgument "value is undefined")

/-! ### Layouts -/

def checkFits (layout : Layout) (base size : Nat) : Except Error Unit :=
  if base + layout.span > size then
    .error (.invalidArgument ("layout spans " ++ toString layout.span ++ " elements from offset " ++
      toString base ++ ", storage holds " ++ toString size))
  else
    .ok ()

/-- The value with another layout.  In host memory the layout has to fit what the
storage holds from the base on. -/
def withLayout (value : Value) (layout : Layout) (heap : Heap) : Except Error Value := do
  if let .host storage base := value.place then
    checkFits layout base (heap.storage storage).size
  return { value with layout? := some layout }

def clearLayout (value : Value) : Value :=
  { value with layout? := none }

/-- The host value whose base is moved forward; it has no layout. -/
def advanced (value : Value) (elements : Nat) (heap : Heap) : Except Error Value := do
  let (storage, base) ← value.host
  let size := (heap.storage storage).size
  if base + elements > size then
    throw (.indexOutOfRange (base + elements) size)
  return { value with
    layout? := none
    place := .host storage (base + elements) }

/-- The same memory as one row; only a contiguous value has one. -/
def flatten (value : Value) (heap : Heap) : Except Error Value := do
  let layout ← value.ready
  if layout.isContiguous then
    value.withLayout (Layout.packed [layout.elementCount]) heap
  else
    throw (.invalidArgument "only contiguous values can be flattened")

/-! ### Construction -/

/-- A view of a storage that is in the heap. -/
def ofShared (storage base : Nat) (layout : Layout) (heap : Heap) : Except Error Value := do
  checkFits layout base (heap.storage storage).size
  return { dtype? := some (heap.storage storage).dtype
           layout? := some layout
           place := .host storage base }

/-- A value of fresh host memory that holds `storage`. -/
def ofStorage (storage : Storage) (layout : Layout) : Action Heap Value := do
  Action.ofExcept (checkFits layout 0 storage.size)
  let name ← Heap.allocate storage
  return { dtype? := some storage.dtype
           layout? := some layout
           place := .host name 0 }

/-- Fresh host memory filled with zeros. -/
def allocate (dtype : DType) (layout : Layout) : Action Heap Value := do
  let name ← Heap.allocate (Storage.zeros dtype layout.memorySize)
  return { dtype? := some dtype
           layout? := some layout
           place := .host name 0 }

/-- A rank-one value of fresh host memory. -/
def ofRow (storage : Storage) : Action Heap Value := do
  let name ← Heap.allocate storage
  return { dtype? := some storage.dtype
           layout? := some (Layout.packed [storage.size])
           place := .host name 0 }

/-- A rank-zero value of fresh host memory. -/
def ofLiteral (literal : Literal) : Action Heap Value := do
  let name ← Heap.allocate (Storage.singleton literal)
  return { dtype? := some literal.dtype
           layout? := some Layout.scalar
           place := .host name 0 }

/-- The same handle on a copy of the storage; outside host memory there is nothing
to copy. -/
def duplicate (value : Value) : Action Heap Value :=
  match value.place with
  | .host storage base => do
      let name ← Heap.allocate ((← get).storage storage)
      return { value with place := .host name base }
  | _ => return value

/-! ### Elements -/

/-- The element at a position relative to the base. -/
def getFlat (value : Value) (index : Nat) (heap : Heap) : Except Error Literal := do
  let (storage, base) ← value.host
  heap.cell storage (base + index)

def setFlat (value : Value) (index : Nat) (literal : Literal) : Action Heap Unit := do
  let (storage, base) ← Action.ofExcept value.host
  Heap.setCell storage (base + index) literal

/-- The element at logical coordinates. -/
def get (value : Value) (coordinates : List Nat) (heap : Heap) : Except Error Literal := do
  let layout ← value.layout
  value.getFlat (← layout.flatOffset coordinates) heap

def set (value : Value) (coordinates : List Nat) (literal : Literal) : Action Heap Unit := do
  let layout ← Action.ofExcept value.layout
  value.setFlat (← Action.ofExcept (layout.flatOffset coordinates)) literal

/-- The element of a rank-zero value. -/
def literal (value : Value) (heap : Heap) : Except Error Literal :=
  value.get [] heap

/-- The active elements in row-major order of the logical coordinates. -/
def literals (value : Value) (heap : Heap) : Except Error (List Literal) := do
  let layout ← value.ready
  let (storage, base) ← value.host
  layout.positions.mapM fun position => heap.cell storage (base + position)

def toFloats (value : Value) (heap : Heap) : Except Error (List Float) :=
  (List.map Literal.toFloat) <$> value.literals heap

/-- The active elements converted to a type. -/
def toElements (value : Value) (dtype : DType) (heap : Heap) : Except Error (List Literal) :=
  (List.map fun element => element.cast dtype) <$> value.literals heap

/-- The active elements as a storage of their own type. -/
def toStorage (value : Value) (heap : Heap) : Except Error Storage := do
  let layout ← value.ready
  let (storage, base) ← value.host
  let source := heap.storage storage
  source.gather 0 (layout.positions.map (base + ·)) (Storage.zeros source.dtype layout.elementCount)

/-- The elements written to successive active positions. -/
def overwrite (value : Value) (layout : Layout) (elements : List Literal) :
    Action Heap Unit := do
  let (storage, base) ← Action.ofExcept value.host
  Heap.setCells storage base (layout.positions.zip elements)

def checkCount (layout : Layout) (count : Nat) : Except Error Unit :=
  if count = layout.elementCount then
    .ok ()
  else
    .error (.sizeMismatch layout.logicalSizes [count])

/-- The active elements overwritten from a storage of the same type. -/
def copyFromStorage (value : Value) (data : Storage) : Action Heap Unit := do
  let layout ← Action.ofExcept value.ready
  let dtype ← Action.ofExcept value.dtype
  if data.dtype ≠ dtype then
    throw (.error (.dtypes dtype data.dtype))
  Action.ofExcept (checkCount layout data.size)
  value.overwrite layout data.cells.toList

/-- The active elements overwritten by numbers, converted to the element type. -/
def copyFromFloats (value : Value) (data : List Float) : Action Heap Unit := do
  let layout ← Action.ofExcept value.ready
  Action.ofExcept (checkCount layout data.length)
  let dtype ← Action.ofExcept value.dtype
  value.overwrite layout (data.map (Literal.ofFloat dtype))

/-- Zeros in the whole storage, whatever part of it the value shows. -/
def fillZero (value : Value) : Action Heap Unit := do
  let (storage, _) ← Action.ofExcept value.host
  modify fun heap => heap.replace storage (heap.storage storage).cleared

/-- Both values see the same host storage. -/
def sameStorage (left right : Value) : Bool :=
  match left.place, right.place with
  | .host first _, .host second _ => first == second
  | _, _ => false

end Value
end TensorGraph

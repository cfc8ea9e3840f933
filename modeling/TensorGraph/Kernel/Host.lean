/-
Kernels run at once.

The host strategy carries out every primitive on host memory as it is met, and
counts the scalar operations.  It is the meaning that all other strategies are
measured against.  `scratch` is room for whatever the caller keeps beside the
run.
-/

import TensorGraph.Kernel.Basic

namespace TensorGraph

structure HostState (ρ : Type) where
  heap : Heap
  /-- Scalar operations so far. -/
  operations : Nat
  scratch : ρ

/-- A kernel that runs at once. -/
def Host (ρ : Type) (α : Type) : Type :=
  Action (HostState ρ) α

namespace Host

variable {ρ α : Type}

instance : Monad (Host ρ) :=
  inferInstanceAs (Monad (EStateM Fault (HostState ρ)))

instance : MonadStateOf ρ (Host ρ) where
  get := fun state => .ok state.scratch state
  set scratch := fun state => .ok () { state with scratch := scratch }
  modifyGet change := fun state =>
    let (answer, scratch) := change state.scratch
    .ok answer { state with scratch := scratch }

def run (kernel : Host ρ α) (state : HostState ρ) : EStateM.Result Fault (HostState ρ) α :=
  kernel state

/-- An action on the heap alone. -/
def onHeap (action : Action Heap α) : Host ρ α := fun ⟨heap, operations, scratch⟩ =>
  match action heap with
  | .ok answer heap => .ok answer ⟨heap, operations, scratch⟩
  | .error fault heap => .error fault ⟨heap, operations, scratch⟩

def count (operations : Nat) : Host ρ Unit := fun state =>
  .ok () { state with operations := state.operations + operations }

def ofExcept (result : Except Error α) : Host ρ α :=
  onHeap (Action.ofExcept result)

def fail (cause : Error) : Host ρ α :=
  ofExcept (.error cause)

/-- The element of a rank-zero host value. -/
def literal (value : Value) (heap : Heap) : Except Error Literal :=
  if value.isHost then
    value.literal heap
  else
    .error (.invalidArgument "compute context can only read host values")

def readLiteral (value : Value) : Host ρ Literal :=
  onHeap (do Action.ofExcept (literal value (← get)))

def allocate (dtype : DType) (layout : Layout) : Host ρ Value :=
  onHeap (Value.allocate dtype layout)

def offset (value : Value) (indices : List Scalar) : Host ρ Value := do
  let layout ← ofExcept value.ready
  if indices.length ≠ layout.rank then
    fail (.invalidArgument ("offset needs " ++ toString layout.rank ++ " indices, got " ++
      toString indices.length))
  let coordinates ← indices.mapM fun index => do
    ofExcept (Scalar.position (← readLiteral index.value))
  let position ← ofExcept (layout.flatOffset coordinates)
  onHeap (do Action.ofExcept (value.advanced position (← get)))

def known (value : Value) : Host ρ (Option Literal) := fun state =>
  .ok (literal value state.heap).toOption state

def store (target source : Value) : Host ρ Unit := do
  let element ← readLiteral source
  let dtype ← ofExcept target.dtype
  if dtype ≠ element.dtype then
    fail (.dtypes dtype element.dtype)
  count 1
  onHeap (target.set [] element)

def movable (value : Value) (role : String) : Except Error (Nat × Nat) :=
  match value.place with
  | .host storage base => .ok (storage, base)
  | _ => .error (.invalidArgument ("move " ++ role ++ " is not host memory"))

def move (target : Value) (targetOffset : Nat) (source : Value) (sourceOffset elements : Nat) :
    Host ρ Unit := do
  let (targetStorage, targetBase) ← ofExcept (movable target "destination")
  let (sourceStorage, sourceBase) ← ofExcept (movable source "source")
  if elements = 0 then
    return
  count elements
  onHeap (Heap.move targetStorage (targetBase + targetOffset) sourceStorage
    (sourceBase + sourceOffset) elements)

def binary (op : BinaryOp) (left right : Value) : Host ρ Value := do
  count 1
  let left ← readLiteral left
  let right ← readLiteral right
  onHeap (Value.ofLiteral (← ofExcept (left.binary op right)))

def unary (op : UnaryOp) (operand : Value) : Host ρ Value := do
  count 1
  let operand ← readLiteral operand
  onHeap (Value.ofLiteral (← ofExcept (operand.unary op)))

def compare (op : CompareOp) (left right : Value) : Host ρ Value := do
  count 1
  let left ← readLiteral left
  let right ← readLiteral right
  onHeap (Value.ofLiteral (.bool (← ofExcept (left.compare op right))))

def cast (operand : Value) (dtype : DType) : Host ρ Value := do
  onHeap (Value.ofLiteral ((← readLiteral operand).cast dtype))

/-- The indices `start`, `start + step`, … below `stop`, for a positive step. -/
def indices (start stop step : Nat) : List Nat :=
  (List.range ((stop - start + (step - 1)) / step)).map fun turn => start + turn * step

/-- Runs `body` for each index in turn. -/
def runOver (body : Scalar → Host ρ Unit) : List Nat → Host ρ Unit
  | [] => pure ()
  | index :: rest => do
      body (← onHeap (Scalar.ofIndex index))
      runOver body rest

def forRange (start stop step : Nat) (body : Scalar → Host ρ Unit) : Host ρ Unit :=
  if step = 0 then
    onHeap (throw (.abort "for_range step must be positive"))
  else
    runOver body (indices start stop step)

def ifElse (condition : Value) (onTrue onFalse : Host ρ Unit) : Host ρ Unit := do
  if (← readLiteral condition).isTrue then onTrue else onFalse

instance : Kernel (Host ρ) where
  onHost := onHeap
  allocate := allocate
  state _ value := pure value
  offset := offset
  known := known
  store := store
  move := move
  binary := binary
  unary := unary
  compare := compare
  cast := cast
  forRange := forRange
  ifElse := ifElse

end Host
end TensorGraph

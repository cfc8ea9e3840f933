/-
Host memory.

A heap is a row of storages.  A storage is named by its position, which never
changes, so two handles share memory exactly when they name the same position.
-/

import TensorGraph.Storage

namespace TensorGraph

structure Heap where
  storages : Array Storage
  deriving DecidableEq, Inhabited

namespace Heap

def empty : Heap :=
  { storages := #[] }

/-- The storage of a name; a name that was never given out has an empty one. -/
def storage (heap : Heap) (name : Nat) : Storage :=
  heap.storages.getD name default

/-- The name that the next storage will have. -/
def next (heap : Heap) : Nat :=
  heap.storages.size

def add (heap : Heap) (storage : Storage) : Heap :=
  { storages := heap.storages.push storage }

/-- The storage of a name replaced. -/
def replace (heap : Heap) (name : Nat) (storage : Storage) : Heap :=
  { storages := heap.storages.setIfInBounds name storage }

/-- A storage put into the heap, answering with its name. -/
def allocate (storage : Storage) : Action Heap Nat := fun heap =>
  .ok heap.next (heap.add storage)

def cell (heap : Heap) (name index : Nat) : Except Error Literal :=
  (heap.storage name).get index

/-- One storage changed; when that fails the heap stays as it is. -/
def update (name : Nat) (change : Storage → Except Error Storage) : Action Heap Unit := fun heap =>
  match change (heap.storage name) with
  | .ok storage => .ok () (heap.replace name storage)
  | .error cause => .error (.error cause) heap

/-- One element of a storage replaced. -/
def setCell (name index : Nat) (literal : Literal) : Action Heap Unit :=
  update name fun storage => storage.set index literal

/-- Elements of a storage replaced one after the other, at positions from `base` on: when one
of them cannot be, those before it are. -/
def setCells (name base : Nat) (cells : List (Nat × Literal)) : Action Heap Unit :=
  cells.forM fun cell => setCell name (base + cell.1) cell.2

/-- `count` elements moved between two places, which may overlap. -/
def move (target targetIndex source sourceIndex count : Nat) : Action Heap Unit :=
  if target = source then
    update target fun storage => storage.copyWithin sourceIndex targetIndex count
  else do
    let other := (← get).storage source
    update target fun storage => storage.copyFrom targetIndex other sourceIndex count

@[simp]
theorem storage_add_self (heap : Heap) (storage : Storage) :
    (heap.add storage).storage heap.next = storage := by
  simp [Heap.storage, add, next]

theorem storage_add_of_lt {heap : Heap} {storage : Storage} {name : Nat}
    (known : name < heap.next) : (heap.add storage).storage name = heap.storage name := by
  have within : name < heap.storages.size := known
  simp [Heap.storage, add, Array.getD_eq_getD_getElem?, Array.getElem?_push_lt, within]

@[simp]
theorem next_replace (heap : Heap) (name : Nat) (storage : Storage) :
    (heap.replace name storage).next = heap.next := by
  simp [next, replace]

theorem storage_replace_self {heap : Heap} {name : Nat} (known : name < heap.next)
    (storage : Storage) : (heap.replace name storage).storage name = storage := by
  have within : name < heap.storages.size := known
  simp [Heap.storage, replace, Array.getD_eq_getD_getElem?, within]

theorem storage_replace_of_ne {heap : Heap} {name other : Nat} (different : other ≠ name)
    (storage : Storage) : (heap.replace name storage).storage other = heap.storage other := by
  simp [Heap.storage, replace, Array.getD_eq_getD_getElem?,
    Array.getElem?_setIfInBounds_ne different.symm]

end Heap
end TensorGraph

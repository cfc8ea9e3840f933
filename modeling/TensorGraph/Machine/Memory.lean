/-
Machine memory.

Memory is a row of allocations, and an allocation is a row of bytes whose length
never changes.  A pointer names an allocation and a byte in it.  An access is
checked against the allocation that it goes to, so it never reaches another.
-/

import TensorGraph.Storage

namespace TensorGraph.Machine

structure Pointer where
  allocation : Nat
  offset : Nat
  deriving DecidableEq, Repr

structure Memory where
  allocations : Array (Array UInt8)
  deriving DecidableEq, Repr

/-- Why an access was refused. -/
inductive AccessFault where
  | dangling
  | outside (bytes offset size : Nat)
  deriving DecidableEq, Repr

namespace Memory

/-- Number of allocations. -/
def size (memory : Memory) : Nat :=
  memory.allocations.size

def allocate (memory : Memory) (image : Array UInt8) : Memory :=
  { allocations := memory.allocations.push image }

/-- A pointer to the start of the allocation made next. -/
def nextPointer (memory : Memory) : Pointer :=
  { allocation := memory.size
    offset := 0 }

/-- Only the first `count` allocations are kept. -/
def release (memory : Memory) (count : Nat) : Memory :=
  { allocations := memory.allocations.shrink count }

/-- All `bytes` bytes from the pointer on lie inside its allocation. -/
def check (memory : Memory) (pointer : Pointer) (bytes : Nat) : Except AccessFault Unit :=
  match memory.allocations[pointer.allocation]? with
  | none => .error .dangling
  | some image =>
      if pointer.offset + bytes ≤ image.size then
        .ok ()
      else
        .error (.outside bytes pointer.offset image.size)

def read (memory : Memory) (pointer : Pointer) (bytes : Nat) : Except AccessFault (List UInt8) :=
  match memory.allocations[pointer.allocation]? with
  | none => .error .dangling
  | some image =>
      if pointer.offset + bytes ≤ image.size then
        .ok (image.extract pointer.offset (pointer.offset + bytes)).toList
      else
        .error (.outside bytes pointer.offset image.size)

/-- The bytes from `offset` on replaced by `bytes`. -/
def overwrite (image : Array UInt8) (offset : Nat) : List UInt8 → Array UInt8
  | [] => image
  | byte :: rest => overwrite (image.setIfInBounds offset byte) (offset + 1) rest

/-- Writes without a check; what does not fit is lost. -/
def put (memory : Memory) (pointer : Pointer) (bytes : List UInt8) : Memory :=
  { allocations :=
      memory.allocations.modify pointer.allocation fun image =>
        overwrite image pointer.offset bytes }

@[simp]
theorem size_overwrite (image : Array UInt8) (offset : Nat) (bytes : List UInt8) :
    (overwrite image offset bytes).size = image.size := by
  induction bytes generalizing image offset with
  | nil => rfl
  | cons byte rest ih => simp [overwrite, ih]

@[simp]
theorem size_put (memory : Memory) (pointer : Pointer) (bytes : List UInt8) :
    (memory.put pointer bytes).size = memory.size := by
  simp [put, size]

/-- A write changes the length of no allocation. -/
theorem map_size_put (memory : Memory) (pointer : Pointer) (bytes : List UInt8) :
    (memory.put pointer bytes).allocations.map Array.size =
      memory.allocations.map Array.size := by
  apply Array.ext
  · simp [put]
  · intro index _ _
    simp only [put, Array.getElem_map, Array.getElem_modify]
    split <;> simp

end Memory
end TensorGraph.Machine

/-
Storages and heaps.

An element is read wherever there is one.  A write leaves a storage its type and
its size, and it is refused only outside the storage or with elements of another
type.  Storages are only ever added to a
heap, so a name that was given out stays the name of one storage.
-/

import TensorGraph.Heap

namespace TensorGraph

namespace Storage

variable {storage other after : Storage} {element : Literal} {index source target count : Nat}

theorem size_zeros (dtype : DType) (count : Nat) : (zeros dtype count).size = count :=
  Array.size_replicate

theorem size_ofFloats (dtype : DType) (row : List Float) :
    (ofFloats dtype row.toArray).size = row.length := by
  rw [ofFloats, size, Array.size_map, List.size_toArray]

theorem get_eq_ok : storage.get index = .ok element ↔ storage.cells[index]? = some element := by
  unfold Storage.get
  split
  · rename_i within
    rw [Array.getElem?_eq_getElem within, Except.ok.injEq, Option.some.injEq]
  · rename_i outside
    rw [Array.getElem?_eq_none (Nat.le_of_not_lt outside)]
    exact ⟨nofun, nofun⟩

theorem dtype_of_get (found : storage.get index = .ok element) : element.dtype = storage.dtype :=
  storage.typed element (Array.mem_of_getElem? (get_eq_ok.mp found))

theorem exists_get (within : index < storage.size) : ∃ element, storage.get index = .ok element :=
  ⟨_, get_eq_ok.mpr (Array.getElem?_eq_getElem within)⟩

theorem set_keeps (changed : storage.set index element = .ok after) :
    after.dtype = storage.dtype ∧ after.size = storage.size := by
  unfold Storage.set at changed
  split at changed
  · split at changed
    · cases changed
      exact ⟨rfl, by simp only [Storage.size, Array.size_set]⟩
    · cases changed
  · cases changed

theorem set_done (within : index < storage.size) (typed : element.dtype = storage.dtype) :
    ∃ after, storage.set index element = .ok after := by
  have within' : index < storage.cells.size := within
  unfold Storage.set
  rw [dif_pos within', dif_pos typed]
  exact ⟨_, rfl⟩

private theorem size_overwritten {cells items : Array Literal} {start : Nat}
    (fits : start + items.size ≤ cells.size) :
    (overwritten cells items start).size = cells.size := by
  simp only [overwritten, Array.size_append, Array.size_extract]
  omega

theorem copyWithin_keeps (changed : storage.copyWithin source target count = .ok after) :
    after.dtype = storage.dtype ∧ after.size = storage.size := by
  unfold copyWithin at changed
  split at changed
  · cases changed
  · rename_i fits
    cases changed
    refine ⟨rfl, size_overwritten ?_⟩
    simp only [Array.size_extract, Storage.size] at fits ⊢
    simp at fits
    omega

theorem copyWithin_done (read : source + count ≤ storage.size)
    (written : target + count ≤ storage.size) :
    ∃ after, storage.copyWithin source target count = .ok after := by
  unfold copyWithin
  rw [if_neg (by simp; omega)]
  exact ⟨_, rfl⟩

theorem copyFrom_keeps (changed : storage.copyFrom target other source count = .ok after) :
    after.dtype = storage.dtype ∧ after.size = storage.size := by
  unfold copyFrom at changed
  split at changed
  · split at changed
    · cases changed
    · rename_i fits
      cases changed
      refine ⟨rfl, size_overwritten ?_⟩
      simp only [Array.size_extract, Storage.size] at fits ⊢
      simp at fits
      omega
  · cases changed

theorem copyFrom_done (typed : other.dtype = storage.dtype) (read : source + count ≤ other.size)
    (written : target + count ≤ storage.size) :
    ∃ after, storage.copyFrom target other source count = .ok after := by
  unfold copyFrom
  rw [dif_pos typed, if_neg (by simp; omega)]
  exact ⟨_, rfl⟩

end Storage

/-- Storages are added, and none is changed. -/
structure Heap.Grows (heap after : Heap) : Prop where
  next : heap.next ≤ after.next
  kept : ∀ name < heap.next, after.storage name = heap.storage name

namespace Heap.Grows

variable {heap after : Heap}

theorem refl (heap : Heap) : heap.Grows heap :=
  ⟨Nat.le_refl _, fun _ _ => rfl⟩

theorem trans {last : Heap} (one : heap.Grows after) (two : after.Grows last) :
    heap.Grows last :=
  ⟨Nat.le_trans one.next two.next, fun name known =>
    (two.kept name (Nat.lt_of_lt_of_le known one.next)).trans (one.kept name known)⟩

theorem add (heap : Heap) (storage : Storage) : heap.Grows (heap.add storage) where
  next := by
    simp [Heap.next, Heap.add]
  kept := fun _ known => Heap.storage_add_of_lt known

end Heap.Grows

/-- The heap with more storages. -/
def Heap.addAll (heap : Heap) (storages : List Storage) : Heap :=
  storages.foldl Heap.add heap

namespace Heap

theorem next_add (heap : Heap) (storage : Storage) : (heap.add storage).next = heap.next + 1 := by
  simp [next, add]

theorem next_addAll (heap : Heap) (storages : List Storage) :
    (heap.addAll storages).next = heap.next + storages.length := by
  induction storages generalizing heap with
  | nil => rfl
  | cons storage rest ih =>
      refine (ih (heap.add storage)).trans ?_
      rw [next_add, List.length_cons]
      omega

theorem addAll_append (heap : Heap) (before storages : List Storage) :
    heap.addAll (before ++ storages) = (heap.addAll before).addAll storages :=
  List.foldl_append

theorem storage_addAll_of_lt {heap : Heap} {storages : List Storage} {name : Nat}
    (known : name < heap.next) : (heap.addAll storages).storage name = heap.storage name := by
  induction storages generalizing heap with
  | nil => rfl
  | cons storage rest ih =>
      have later : name < (heap.add storage).next := by
        rw [next_add]
        omega
      exact (ih later).trans (storage_add_of_lt known)

theorem storage_addAll_at (heap : Heap) {storages : List Storage} {position : Nat}
    {storage : Storage} (found : storages[position]? = some storage) :
    (heap.addAll storages).storage (heap.next + position) = storage := by
  induction storages generalizing heap position with
  | nil => cases found
  | cons first rest ih =>
      cases position with
      | zero =>
          cases found
          have below : heap.next < (heap.add storage).next := by
            rw [next_add]
            omega
          exact (storage_addAll_of_lt below).trans (storage_add_self heap storage)
      | succ position =>
          have later := ih (heap.add first) found
          rw [next_add, Nat.add_assoc, Nat.add_comm 1] at later
          exact later

/-- A heap that was filled from nothing has its storages in order. -/
theorem storage_empty_addAll {storages : List Storage} {name : Nat} {storage : Storage}
    (found : storages[name]? = some storage) :
    (empty.addAll storages).storage name = storage := by
  have there := storage_addAll_at empty found
  rw [show empty.next = 0 from rfl, Nat.zero_add] at there
  exact there

theorem next_empty_addAll (storages : List Storage) :
    (empty.addAll storages).next = storages.length := by
  rw [next_addAll]
  exact Nat.zero_add _

/-- The storages of a heap from a name on. -/
def row (heap : Heap) (first count : Nat) : List Storage :=
  (List.range count).map fun position => heap.storage (first + position)

theorem length_row (heap : Heap) (first count : Nat) : (heap.row first count).length = count := by
  rw [row, List.length_map, List.length_range]

theorem getElem?_row {heap : Heap} {first count position : Nat} (below : position < count) :
    (heap.row first count)[position]? = some (heap.storage (first + position)) := by
  rw [row, List.getElem?_map, List.getElem?_range below]
  rfl

theorem row_succ (heap : Heap) (first count : Nat) :
    heap.row first (count + 1) = heap.storage first :: heap.row (first + 1) count := by
  rw [row, List.range_succ_eq_map, List.map_cons, List.map_map]
  refine congrArg _ (List.map_congr_left fun _ _ => ?_)
  rw [Function.comp_apply, Nat.succ_eq_one_add, ← Nat.add_assoc]

theorem drop_row (heap : Heap) (first count dropped : Nat) :
    (heap.row first count).drop dropped = heap.row (first + dropped) (count - dropped) := by
  induction dropped generalizing first count with
  | zero => rfl
  | succ dropped ih =>
      cases count with
      | zero =>
          rw [Nat.zero_sub]
          exact List.drop_nil
      | succ count =>
          rw [row_succ, List.drop_succ_cons, ih, Nat.succ_sub_succ, Nat.add_assoc,
            Nat.add_comm 1]

theorem row_congr {heap after : Heap} {first count : Nat}
    (same : ∀ name, first ≤ name → name < first + count → after.storage name = heap.storage name) :
    after.row first count = heap.row first count :=
  List.map_congr_left fun _ member =>
    same _ (Nat.le_add_right _ _) (Nat.add_lt_add_left (List.mem_range.mp member) _)

end Heap
end TensorGraph

/-
Handles that fit their storage.

Values are made over a heap, seen from other places and in other layouts, and
written through.  A write leaves every storage its type and its size, so a
handle that fitted its storage when it was made fits it ever after.
-/

import TensorGraph.Proofs.Action
import TensorGraph.Proofs.Heap
import TensorGraph.Proofs.Layout.Placement
import TensorGraph.Value

namespace TensorGraph

/-! ### Heaps that keep their storages -/

/-- Every storage is still there, with its type and its size. -/
structure Heap.Keeps (heap after : Heap) : Prop where
  next : heap.next ≤ after.next
  dtype : ∀ name < heap.next, (after.storage name).dtype = (heap.storage name).dtype
  size : ∀ name < heap.next, (after.storage name).size = (heap.storage name).size

namespace Heap.Keeps

variable {heap after last : Heap}

theorem refl (heap : Heap) : heap.Keeps heap :=
  ⟨Nat.le_refl _, fun _ _ => rfl, fun _ _ => rfl⟩

theorem trans (one : heap.Keeps after) (two : after.Keeps last) : heap.Keeps last :=
  ⟨one.next.trans two.next,
    fun name known => (two.dtype name (known.trans_le one.next)).trans (one.dtype name known),
    fun name known => (two.size name (known.trans_le one.next)).trans (one.size name known)⟩

theorem of_grows (grows : heap.Grows after) : heap.Keeps after :=
  ⟨grows.next, fun name known => congrArg Storage.dtype (grows.kept name known),
    fun name known => congrArg Storage.size (grows.kept name known)⟩

theorem replace {name : Nat} {storage : Storage}
    (typed : storage.dtype = (heap.storage name).dtype)
    (sized : storage.size = (heap.storage name).size) :
    heap.Keeps (heap.replace name storage) := by
  refine ⟨(Heap.next_replace heap name storage).ge, fun other known => ?_, fun other known => ?_⟩
  all_goals
    by_cases same : other = name
    · subst same
      rw [Heap.storage_replace_self known]
      assumption
    · rw [Heap.storage_replace_of_ne same]

end Heap.Keeps

/-- An action that leaves every storage its type and its size, also when it fails. -/
def KeepsStorages {α : Type} (action : Action Heap α) : Prop :=
  ∀ heap : Heap, heap.Keeps (Action.last (action heap))

namespace KeepsStorages

variable {α β : Type}

theorem bind {first : Action Heap α} {rest : α → Action Heap β} (one : KeepsStorages first)
    (two : ∀ value, KeepsStorages (rest value)) : KeepsStorages (first >>= rest) := by
  intro heap
  have begun := one heap
  cases found : first heap with
  | ok value middle =>
      rw [found] at begun
      rw [Action.bind_of_ok found]
      exact begun.trans (two value middle)
  | error fault middle =>
      rw [found] at begun
      rw [Action.bind_of_error found]
      exact begun

theorem pure (value : α) : KeepsStorages (Pure.pure value : Action Heap α) :=
  fun heap => .refl heap

theorem throw (fault : Fault) : KeepsStorages (throw fault : Action Heap α) :=
  fun heap => .refl heap

theorem get : KeepsStorages (get : Action Heap Heap) :=
  fun heap => .refl heap

theorem ofExcept (answer : Except Error α) : KeepsStorages (Action.ofExcept answer) := by
  cases answer with
  | ok value => exact pure value
  | error cause => exact throw _

theorem update {name : Nat} {change : Storage → Except Error Storage}
    (keeps : ∀ storage changed, change storage = .ok changed →
      changed.dtype = storage.dtype ∧ changed.size = storage.size) :
    KeepsStorages (Heap.update name change) := by
  intro heap
  unfold Heap.update
  cases changed : change (heap.storage name) with
  | ok storage =>
      obtain ⟨typed, sized⟩ := keeps _ _ changed
      exact .replace typed sized
  | error cause => exact .refl heap

theorem setCell (name index : Nat) (element : Literal) :
    KeepsStorages (Heap.setCell name index element) :=
  update fun _ _ changed => Storage.set_keeps changed

theorem move (target targetIndex source sourceIndex count : Nat) :
    KeepsStorages (Heap.move target targetIndex source sourceIndex count) := by
  unfold Heap.move
  split
  · exact update fun _ _ changed => Storage.copyWithin_keeps changed
  · exact .bind .get fun heap => update fun _ _ changed => Storage.copyFrom_keeps changed

theorem forM {items : List α} {action : α → Action Heap Unit}
    (each : ∀ item, KeepsStorages (action item)) : KeepsStorages (items.forM action) := by
  induction items with
  | nil => exact pure ()
  | cons item rest inductionHypothesis =>
      exact .bind (each item) fun _ => inductionHypothesis

theorem setCells (name base : Nat) (cells : List (Nat × Literal)) :
    KeepsStorages (Heap.setCells name base cells) :=
  .forM fun _ => .setCell _ _ _

end KeepsStorages

namespace Value

/-! ### Writes -/

/-- A write to host memory, through a handle or to a storage itself. -/
inductive Write where
  | cell (name index : Nat) (element : Literal)
  | move (target targetIndex source sourceIndex count : Nat)
  | flat (value : Value) (index : Nat) (element : Literal)
  | entry (value : Value) (coordinates : List Nat) (element : Literal)
  | storage (value : Value) (data : Storage)
  | floats (value : Value) (data : List Float)
  | zero (value : Value)

def Write.perform : Write → Action Heap Unit
  | .cell name index element => Heap.setCell name index element
  | .move target targetIndex source sourceIndex count =>
      Heap.move target targetIndex source sourceIndex count
  | .flat value index element => value.setFlat index element
  | .entry value coordinates element => value.set coordinates element
  | .storage value data => value.copyFromStorage data
  | .floats value data => value.copyFromFloats data
  | .zero value => value.fillZero

theorem setFlat_keeps (value : Value) (index : Nat) (element : Literal) :
    KeepsStorages (value.setFlat index element) :=
  .bind (.ofExcept _) fun _ => .setCell _ _ _

theorem overwrite_keeps (value : Value) (layout : Layout) (elements : List Literal) :
    KeepsStorages (value.overwrite layout elements) :=
  .bind (.ofExcept _) fun _ => .setCells _ _ _

theorem Write.keeps (write : Write) : KeepsStorages write.perform := by
  cases write with
  | cell name index element => exact .setCell _ _ _
  | move target targetIndex source sourceIndex count => exact .move _ _ _ _ _
  | flat value index element => exact setFlat_keeps _ _ _
  | entry value coordinates element =>
      exact .bind (.ofExcept _) fun _ => .bind (.ofExcept _) fun _ => setFlat_keeps _ _ _
  | storage value data =>
      refine .bind (.ofExcept _) fun _ => .bind (.ofExcept _) fun _ => ?_
      dsimp only
      split
      · exact .bind (.throw _) fun _ => .bind (.ofExcept _) fun _ => overwrite_keeps _ _ _
      · exact .bind (.ofExcept _) fun _ => overwrite_keeps _ _ _
  | floats value data =>
      exact .bind (.ofExcept _) fun _ => .bind (.ofExcept _) fun _ => .bind (.ofExcept _) fun _ =>
        overwrite_keeps _ _ _
  | zero value =>
      refine .bind (.ofExcept _) fun place heap => ?_
      exact .replace rfl Array.size_replicate

/-! ### Handles -/

/-- A host value that fits its storage. -/
structure Stands (value : Value) (heap : Heap) (name base : Nat) : Prop where
  place : value.place = .host name base
  known : name < heap.next
  typed : value.dtype? = some (heap.storage name).dtype
  within : base ≤ (heap.storage name).size
  fits : ∀ layout, value.layout? = some layout →
    layout.Built ∧ base + layout.span ≤ (heap.storage name).size

variable {value : Value} {heap after : Heap} {name base : Nat} {layout : Layout}

theorem Stands.keeps (stands : value.Stands heap name base) (keeps : heap.Keeps after) :
    value.Stands after name base where
  place := stands.place
  known := stands.known.trans_le keeps.next
  typed := by rw [stands.typed, keeps.dtype name stands.known]
  within := by
    rw [keeps.size name stands.known]
    exact stands.within
  fits := by
    rw [keeps.size name stands.known]
    exact stands.fits

/-- The heap and the values that were made over it, by constructors, as views of other values
and as copies, with any writes in between.  All layouts are built. -/
inductive Reached : Heap → List Value → Prop where
  | start : Reached Heap.empty []
  | shared {heap : Heap} {values : List Value} (reached : Reached heap values)
      (storage : Storage) : Reached (heap.add storage) values
  | allocated {heap after : Heap} {values : List Value} {value : Value} {layout : Layout}
      (reached : Reached heap values) (dtype : DType) (built : layout.Built)
      (made : Value.allocate dtype layout heap = .ok value after) : Reached after (value :: values)
  | stored {heap after : Heap} {values : List Value} {value : Value} {layout : Layout}
      (reached : Reached heap values) (storage : Storage) (built : layout.Built)
      (made : Value.ofStorage storage layout heap = .ok value after) :
      Reached after (value :: values)
  | row {heap after : Heap} {values : List Value} {value : Value}
      (reached : Reached heap values) (storage : Storage)
      (made : Value.ofRow storage heap = .ok value after) : Reached after (value :: values)
  | literal {heap after : Heap} {values : List Value} {value : Value}
      (reached : Reached heap values) (element : Literal)
      (made : Value.ofLiteral element heap = .ok value after) : Reached after (value :: values)
  | viewed {heap : Heap} {values : List Value} {value : Value} {layout : Layout} {name base : Nat}
      (reached : Reached heap values) (known : name < heap.next) (built : layout.Built)
      (made : Value.ofShared name base layout heap = .ok value) : Reached heap (value :: values)
  | advanced {heap : Heap} {values : List Value} {value view : Value} {elements : Nat}
      (reached : Reached heap values) (member : value ∈ values)
      (made : value.advanced elements heap = .ok view) : Reached heap (view :: values)
  | shaped {heap : Heap} {values : List Value} {value view : Value} {layout : Layout}
      (reached : Reached heap values) (member : value ∈ values) (built : layout.Built)
      (made : value.withLayout layout heap = .ok view) : Reached heap (view :: values)
  | cleared {heap : Heap} {values : List Value} {value : Value}
      (reached : Reached heap values) (member : value ∈ values) :
      Reached heap (value.clearLayout :: values)
  | duplicated {heap after : Heap} {values : List Value} {value copy : Value}
      (reached : Reached heap values) (member : value ∈ values)
      (made : value.duplicate heap = .ok copy after) : Reached after (copy :: values)
  | written {heap : Heap} {values : List Value} (reached : Reached heap values) (write : Write) :
      Reached (Action.last (write.perform heap)) values

theorem fits_of_checkFits {size : Nat} (checked : checkFits layout base size = .ok ()) :
    base + layout.span ≤ size := by
  unfold checkFits at checked
  split at checked
  · cases checked
  · omega

/-- A value over a storage that was just put into the heap. -/
theorem stands_of_added {storage : Storage} (place : value.place = .host heap.next base)
    (typed : value.dtype? = some storage.dtype) (within : base ≤ storage.size)
    (fits : ∀ layout, value.layout? = some layout →
      layout.Built ∧ base + layout.span ≤ storage.size) :
    value.Stands (heap.add storage) heap.next base where
  place := place
  known := by
    rw [Heap.next_add]
    exact Nat.lt_succ_self _
  typed := by
    rw [Heap.storage_add_self]
    exact typed
  within := by
    rw [Heap.storage_add_self]
    exact within
  fits := by
    rw [Heap.storage_add_self]
    exact fits

theorem stands_of_allocate {dtype : DType} (built : layout.Built)
    (made : Value.allocate dtype layout heap = .ok value after) :
    value.Stands after heap.next 0 ∧ heap.Keeps after := by
  cases made
  refine ⟨stands_of_added rfl rfl (Nat.zero_le _) ?_, .of_grows (.add _ _)⟩
  rintro _ ⟨⟩
  rw [Storage.size_zeros, Nat.zero_add]
  exact ⟨built, layout.span_le_memorySize⟩

theorem stands_of_ofStorage {storage : Storage} (built : layout.Built)
    (made : Value.ofStorage storage layout heap = .ok value after) :
    value.Stands after heap.next 0 ∧ heap.Keeps after := by
  obtain ⟨_, _, checked, made⟩ := Action.bind_ok.mp made
  obtain ⟨checked', rfl⟩ := Action.ofExcept_ok.mp checked
  cases made
  refine ⟨stands_of_added rfl rfl (Nat.zero_le _) ?_, .of_grows (.add _ _)⟩
  rintro _ ⟨⟩
  exact ⟨built, fits_of_checkFits checked'⟩

theorem stands_of_ofRow {storage : Storage}
    (made : Value.ofRow storage heap = .ok value after) :
    value.Stands after heap.next 0 ∧ heap.Keeps after := by
  cases made
  refine ⟨stands_of_added rfl rfl (Nat.zero_le _) ?_, .of_grows (.add _ _)⟩
  rintro _ ⟨⟩
  rw [Layout.span_packed, Layout.elementCount_single, Nat.zero_add]
  exact ⟨.packed _, Nat.le_refl _⟩

theorem stands_of_ofLiteral {element : Literal}
    (made : Value.ofLiteral element heap = .ok value after) :
    value.Stands after heap.next 0 ∧ heap.Keeps after := by
  cases made
  refine ⟨stands_of_added rfl rfl (Nat.zero_le _) ?_, .of_grows (.add _ _)⟩
  rintro _ ⟨⟩
  exact ⟨.scalar, Nat.le_refl 1⟩

theorem stands_of_ofShared (known : name < heap.next) (built : layout.Built)
    (made : Value.ofShared name base layout heap = .ok value) :
    value.Stands heap name base := by
  obtain ⟨_, checked, made⟩ := bind_eq_ok.mp made
  cases made
  have fits := fits_of_checkFits checked
  exact ⟨rfl, known, rfl, (Nat.le_add_right _ _).trans fits, by rintro _ ⟨⟩; exact ⟨built, fits⟩⟩

theorem Stands.advanced (stands : value.Stands heap name base) {elements : Nat} {view : Value}
    (made : value.advanced elements heap = .ok view) :
    view.Stands heap name (base + elements) := by
  simp only [Value.advanced, host, stands.place, bind, Except.bind] at made
  split at made
  · cases made
  · cases made
    exact ⟨rfl, stands.known, stands.typed, by omega, by rintro _ ⟨⟩⟩

theorem Stands.withLayout (stands : value.Stands heap name base) (built : layout.Built)
    {view : Value} (made : value.withLayout layout heap = .ok view) :
    view.Stands heap name base := by
  simp only [Value.withLayout, stands.place] at made
  obtain ⟨_, checked, made⟩ := bind_eq_ok.mp made
  cases made
  refine ⟨rfl, stands.known, stands.typed, stands.within, ?_⟩
  rintro _ ⟨⟩
  exact ⟨built, fits_of_checkFits checked⟩

theorem Stands.clearLayout (stands : value.Stands heap name base) :
    value.clearLayout.Stands heap name base :=
  ⟨stands.place, stands.known, stands.typed, stands.within, by rintro _ ⟨⟩⟩

theorem Stands.duplicate (stands : value.Stands heap name base) {copy : Value}
    (made : value.duplicate heap = .ok copy after) :
    copy.Stands after heap.next base ∧ heap.Keeps after := by
  simp only [Value.duplicate, stands.place] at made
  cases made
  exact ⟨stands_of_added rfl stands.typed stands.within stands.fits, .of_grows (.add _ _)⟩

/-- Every value that was made fits its storage. -/
theorem Reached.stands {values : List Value} (reached : Reached heap values) :
    ∀ value ∈ values, ∃ name base, value.Stands heap name base := by
  have kept : ∀ {heap after : Heap} {values : List Value}, heap.Keeps after →
      (∀ value ∈ values, ∃ name base, Stands value heap name base) →
        ∀ value ∈ values, ∃ name base, Stands value after name base := by
    intro heap after values keeps all value member
    obtain ⟨name, base, stands⟩ := all value member
    exact ⟨name, base, stands.keeps keeps⟩
  induction reached with
  | start => simp
  | shared _ storage all => exact kept (.of_grows (.add _ storage)) all
  | allocated _ dtype built made all =>
      obtain ⟨stands, keeps⟩ := stands_of_allocate built made
      exact List.forall_mem_cons.mpr ⟨⟨_, _, stands⟩, kept keeps all⟩
  | stored _ storage built made all =>
      obtain ⟨stands, keeps⟩ := stands_of_ofStorage built made
      exact List.forall_mem_cons.mpr ⟨⟨_, _, stands⟩, kept keeps all⟩
  | row _ storage made all =>
      obtain ⟨stands, keeps⟩ := stands_of_ofRow made
      exact List.forall_mem_cons.mpr ⟨⟨_, _, stands⟩, kept keeps all⟩
  | literal _ element made all =>
      obtain ⟨stands, keeps⟩ := stands_of_ofLiteral made
      exact List.forall_mem_cons.mpr ⟨⟨_, _, stands⟩, kept keeps all⟩
  | viewed _ known built made all =>
      exact List.forall_mem_cons.mpr ⟨⟨_, _, stands_of_ofShared known built made⟩, all⟩
  | advanced _ member made all =>
      obtain ⟨name, base, stands⟩ := all _ member
      exact List.forall_mem_cons.mpr ⟨⟨_, _, stands.advanced made⟩, all⟩
  | shaped _ member built made all =>
      obtain ⟨name, base, stands⟩ := all _ member
      exact List.forall_mem_cons.mpr ⟨⟨_, _, stands.withLayout built made⟩, all⟩
  | cleared _ member all =>
      obtain ⟨name, base, stands⟩ := all _ member
      exact List.forall_mem_cons.mpr ⟨⟨_, _, stands.clearLayout⟩, all⟩
  | duplicated _ member made all =>
      obtain ⟨name, base, stands⟩ := all _ member
      obtain ⟨stands', keeps⟩ := stands.duplicate made
      exact List.forall_mem_cons.mpr ⟨⟨_, _, stands'⟩, kept keeps all⟩
  | written _ write all => exact kept (write.keeps _) all

end Value
end TensorGraph

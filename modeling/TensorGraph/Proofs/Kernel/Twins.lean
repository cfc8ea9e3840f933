/-
Two host runs side by side.

A kernel does not see how its storages are named.  Two heaps that hold the same
data under other names, each perhaps with more storages besides, therefore stay
so while the same kernel runs on both, and no storage changes its type or size.
-/

import TensorGraph.Graph.Evaluate
import TensorGraph.Proofs.Heap
import TensorGraph.Proofs.Kernel.Correspondence

namespace TensorGraph

/-- The complaint of an input node that was not fed. -/
def unfed (id : NodeId) : Fault :=
  .error (.invalidArgument ("input node " ++ nodeText id ++ " was not fed"))

/-- Two faults that differ at most in the name of a node that was not fed, which has another
name in the second run. -/
def Fault.Alike (renamed : NodeId → NodeId → Prop) (left right : Fault) : Prop :=
  right = left ∨ ∃ id id', renamed id id' ∧ left = unfed id ∧ right = unfed id'

/-- Storages of two heaps that hold the same data: the name in the one, the name in the
other, and the type and size that stay.  The nodes of the two runs may have other names. -/
structure Twins (renamed : NodeId → NodeId → Prop) where
  paired : Nat → Nat → DType → Nat → Prop

namespace Twins

variable {renamed : NodeId → NodeId → Prop}

def Later (world later : Twins renamed) : Prop :=
  ∀ name name' dtype size, world.paired name name' dtype size →
    later.paired name name' dtype size

/-- The two places are one place for a kernel. -/
inductive Placed (world : Twins renamed) : Place → Place → Prop where
  | unbound : Placed world .unbound .unbound
  | emitted (register : Nat) : Placed world (.emitted register) (.emitted register)
  | host {name name' : Nat} {dtype : DType} {size : Nat} (base : Nat)
      (paired : world.paired name name' dtype size) :
      Placed world (.host name base) (.host name' base)

structure Alike (world : Twins renamed) (left right : Value) : Prop where
  dtype : right.dtype? = left.dtype?
  layout : right.layout? = left.layout?
  place : Placed world left.place right.place

/-- The two heaps hold the same data in the paired storages. -/
structure Agrees (world : Twins renamed) (heap heap' : Heap) : Prop where
  within : ∀ name name' dtype size, world.paired name name' dtype size →
    name < heap.next ∧ name' < heap'.next
  same : ∀ name name' dtype size, world.paired name name' dtype size →
    heap'.storage name' = heap.storage name ∧ (heap.storage name).dtype = dtype ∧
      (heap.storage name).size = size
  /-- A storage has one twin. -/
  left : ∀ name first second dtype dtype' size size', world.paired name first dtype size →
    world.paired name second dtype' size' → second = first
  right : ∀ first second name dtype dtype' size size', world.paired first name dtype size →
    world.paired second name dtype' size' → second = first

variable {world later : Twins renamed} {heap heap' : Heap}

theorem Later.refl (world : Twins renamed) : world.Later world :=
  fun _ _ _ _ paired => paired

theorem Later.trans {last : Twins renamed} (one : world.Later later) (two : later.Later last) :
    world.Later last :=
  fun _ _ _ _ paired => two _ _ _ _ (one _ _ _ _ paired)

theorem Placed.mono {left right : Place} (placed : world.Placed left right)
    (growing : world.Later later) : later.Placed left right := by
  cases placed with
  | unbound => exact .unbound
  | emitted register => exact .emitted register
  | host base paired => exact .host base (growing _ _ _ _ paired)

theorem Alike.mono {left right : Value} (alike : world.Alike left right)
    (growing : world.Later later) : later.Alike left right :=
  ⟨alike.dtype, alike.layout, alike.place.mono growing⟩

/-! ### Heaps -/

/-- Two new storages that hold the same data. -/
def pair (world : Twins renamed) (name name' : Nat) (dtype : DType) (size : Nat) : Twins renamed :=
  { paired := fun other other' dtype' size' =>
      (other = name ∧ other' = name' ∧ dtype' = dtype ∧ size' = size) ∨
        world.paired other other' dtype' size' }

theorem later_pair (name name' : Nat) (dtype : DType) (size : Nat) :
    world.Later (world.pair name name' dtype size) :=
  fun _ _ _ _ paired => .inr paired

theorem paired_self (name name' : Nat) (dtype : DType) (size : Nat) :
    (world.pair name name' dtype size).paired name name' dtype size :=
  .inl ⟨rfl, rfl, rfl, rfl⟩

namespace Agrees

/-- A storage of the first heap alone. -/
theorem add_left (agrees : world.Agrees heap heap') (storage : Storage) :
    world.Agrees (heap.add storage) heap' := by
  refine ⟨?_, ?_, agrees.left, agrees.right⟩
  · intro name name' dtype size paired
    obtain ⟨below, below'⟩ := agrees.within _ _ _ _ paired
    exact ⟨by simp only [Heap.next, Heap.add, Array.size_push] at below ⊢; omega, below'⟩
  · intro name name' dtype size paired
    rw [Heap.storage_add_of_lt (agrees.within _ _ _ _ paired).1]
    exact agrees.same _ _ _ _ paired

theorem symm (agrees : world.Agrees heap heap') :
    Agrees ({ paired := fun name name' => world.paired name' name } : Twins renamed) heap' heap := by
  refine ⟨?_, ?_, ?_, ?_⟩
  · exact fun name name' dtype size paired => (agrees.within _ _ _ _ paired).symm
  · intro name name' dtype size paired
    obtain ⟨same, typed, sized⟩ := agrees.same _ _ _ _ paired
    exact ⟨same.symm, same ▸ typed, same ▸ sized⟩
  · exact fun name first second dtype dtype' size size' one two =>
      agrees.right _ _ _ _ _ _ _ one two
  · exact fun first second name dtype dtype' size size' one two =>
      agrees.left _ _ _ _ _ _ _ one two

/-- A storage of the second heap alone. -/
theorem add_right (agrees : world.Agrees heap heap') (storage : Storage) :
    world.Agrees heap (heap'.add storage) :=
  (agrees.symm.add_left storage).symm

/-- A new storage of the first heap becomes the twin of one that the second heap has. -/
theorem adopt (agrees : world.Agrees heap heap') {name' : Nat} (below : name' < heap'.next)
    (apart : ∀ name dtype size, ¬ world.paired name name' dtype size) :
    (world.pair heap.next name' (heap'.storage name').dtype (heap'.storage name').size).Agrees
      (heap.add (heap'.storage name')) heap' := by
  have wider := agrees.add_left (heap'.storage name')
  have grows : heap.next < (heap.add (heap'.storage name')).next := by
    simp [Heap.next, Heap.add]
  have old : ∀ other dtype size, ¬ world.paired heap.next other dtype size :=
    fun other dtype size paired => Nat.lt_irrefl _ (agrees.within _ _ _ _ paired).1
  refine ⟨?_, ?_, ?_, ?_⟩
  · rintro name other dtype size (⟨rfl, rfl, rfl, rfl⟩ | paired)
    · exact ⟨grows, below⟩
    · exact wider.within _ _ _ _ paired
  · rintro name other dtype size (⟨rfl, rfl, rfl, rfl⟩ | paired)
    · simp
    · exact wider.same _ _ _ _ paired
  · rintro name first second dtype dtype' size size' (⟨rfl, rfl, -, -⟩ | one) (⟨here, rfl, -, -⟩ | two)
    · rfl
    · exact (old _ _ _ two).elim
    · exact (old _ _ _ (here ▸ one)).elim
    · exact agrees.left _ _ _ _ _ _ _ one two
  · rintro first second name dtype dtype' size size' (⟨rfl, rfl, -, -⟩ | one) (⟨rfl, here, -, -⟩ | two)
    · rfl
    · exact (apart _ _ _ two).elim
    · exact (apart _ _ _ (here ▸ one)).elim
    · exact agrees.right _ _ _ _ _ _ _ one two

theorem add (agrees : world.Agrees heap heap') (storage : Storage) :
    (world.pair heap.next heap'.next storage.dtype storage.size).Agrees (heap.add storage)
      (heap'.add storage) := by
  have below : heap'.next < (heap'.add storage).next := by
    simp [Heap.next, Heap.add]
  have both := (agrees.add_right storage).adopt below fun name dtype size paired =>
    Nat.lt_irrefl _ (agrees.within _ _ _ _ paired).2
  rwa [Heap.storage_add_self] at both

/-- Twins replaced by one storage of their type and size. -/
theorem replace (agrees : world.Agrees heap heap') {name name' : Nat} {dtype : DType} {size : Nat}
    (paired : world.paired name name' dtype size) {storage : Storage}
    (typed : storage.dtype = (heap.storage name).dtype)
    (sized : storage.size = (heap.storage name).size) :
    world.Agrees (heap.replace name storage) (heap'.replace name' storage) := by
  obtain ⟨below, below'⟩ := agrees.within _ _ _ _ paired
  refine ⟨?_, ?_, agrees.left, agrees.right⟩
  · intro other other' dtype' size' paired'
    rw [Heap.next_replace, Heap.next_replace]
    exact agrees.within _ _ _ _ paired'
  · intro other other' dtype' size' paired'
    obtain ⟨same, typed', sized'⟩ := agrees.same _ _ _ _ paired'
    by_cases here : other = name
    · subst here
      have twin := agrees.left _ _ _ _ _ _ _ paired paired'
      subst twin
      rw [Heap.storage_replace_self below, Heap.storage_replace_self below']
      exact ⟨rfl, typed.trans typed', sized.trans sized'⟩
    · have there : other' ≠ name' := by
        rintro rfl
        exact here (agrees.right _ _ _ _ _ _ _ paired paired')
      rw [Heap.storage_replace_of_ne here, Heap.storage_replace_of_ne there]
      exact ⟨same, typed', sized'⟩

end Agrees

/-! ### Runs -/

variable {ρ σ α β γ δ : Type}

/-- The two runs end alike, in heaps that agree: both with related answers, or both with
one fault. -/
def Relates (world : Twins renamed) (left : Host ρ α) (right : Host σ β)
    (post : Twins renamed → α → β → Prop) : Prop :=
  ∀ (state : HostState ρ) (state' : HostState σ), world.Agrees state.heap state'.heap →
    (∀ answer after, left state = .ok answer after → ∃ later answer' after',
      right state' = .ok answer' after' ∧ world.Later later ∧
        later.Agrees after.heap after'.heap ∧ post later answer answer') ∧
    (∀ fault after, left state = .error fault after → ∃ later fault' after',
      right state' = .error fault' after' ∧ world.Later later ∧
        later.Agrees after.heap after'.heap ∧ Fault.Alike renamed fault fault')

namespace Relates

theorem weaken {left : Host ρ α} {right : Host σ β} {stronger post : Twins renamed → α → β → Prop}
    (alike : world.Relates left right stronger)
    (implies : ∀ later answer answer', world.Later later → stronger later answer answer' →
      post later answer answer') : world.Relates left right post := by
  intro state state' agrees
  obtain ⟨done, failed⟩ := alike state state' agrees
  refine ⟨?_, failed⟩
  intro answer after same
  obtain ⟨later, answer', after', same', growing, agrees', holds⟩ := done answer after same
  exact ⟨later, answer', after', same', growing, agrees', implies _ _ _ growing holds⟩

theorem pure {post : Twins renamed → α → β → Prop} {answer : α} {answer' : β}
    (holds : post world answer answer') :
    world.Relates (Pure.pure answer : Host ρ α) (Pure.pure answer' : Host σ β) post := by
  intro state state' agrees
  refine ⟨?_, ?_⟩
  · intro _ _ done
    obtain ⟨rfl, rfl⟩ := Host.pure_ok.mp done
    exact ⟨world, answer', state', rfl, .refl world, agrees, holds⟩
  · intro fault after failed
    cases failed

theorem bind {left : Host ρ α} {right : Host σ β} {rest : α → Host ρ γ} {rest' : β → Host σ δ}
    {between : Twins renamed → α → β → Prop} {post : Twins renamed → γ → δ → Prop}
    (one : world.Relates left right between)
    (two : ∀ later answer answer', world.Later later → between later answer answer' →
      later.Relates (rest answer) (rest' answer') post) :
    world.Relates (left >>= rest) (right >>= rest') post := by
  intro state state' agrees
  obtain ⟨done, failed⟩ := one state state' agrees
  refine ⟨?_, ?_⟩
  · intro result after same
    obtain ⟨value, middle, first, second⟩ := Host.bind_ok.mp same
    obtain ⟨later, value', middle', first', growing, agrees', holds⟩ := done value middle first
    obtain ⟨last, result', after', second', growing', agrees'', holds'⟩ :=
      (two later value value' growing holds middle middle' agrees').1 result after second
    exact ⟨last, result', after', Host.bind_ok.mpr ⟨value', middle', first', second'⟩,
      growing.trans growing', agrees'', holds'⟩
  · intro fault after same
    rcases Host.bind_error.mp same with first | ⟨value, middle, first, second⟩
    · obtain ⟨later, fault', after', first', growing, agrees', alike⟩ := failed fault after first
      exact ⟨later, fault', after', Host.bind_error.mpr (.inl first'), growing, agrees', alike⟩
    · obtain ⟨later, value', middle', first', growing, agrees', holds⟩ := done value middle first
      obtain ⟨last, fault', after', second', growing', agrees'', alike⟩ :=
        (two later value value' growing holds middle middle' agrees').2 fault after second
      exact ⟨last, fault', after', Host.bind_error.mpr (.inr ⟨value', middle', first', second'⟩),
        growing.trans growing', agrees'', alike⟩

/-- Nothing comes after a step that fails. -/
theorem stopped {left : Host ρ α} {right : Host σ β} {rest : α → Host ρ γ} {rest' : β → Host σ δ}
    {post : Twins renamed → γ → δ → Prop} (alike : world.Relates left right fun _ _ _ => False) :
    world.Relates (left >>= rest) (right >>= rest') post :=
  bind alike fun _ _ _ _ absurd => absurd.elim

/-- Steps on the heaps, one after the other. -/
theorem onHeap_bind {first : Action Heap α} {first' : Action Heap β}
    {rest : α → Action Heap γ} {rest' : β → Action Heap δ} {between : Twins renamed → α → β → Prop}
    {post : Twins renamed → γ → δ → Prop}
    (one : world.Relates (Host.onHeap first : Host ρ α) (Host.onHeap first' : Host σ β) between)
    (two : ∀ later answer answer', world.Later later → between later answer answer' →
      later.Relates (Host.onHeap (rest answer) : Host ρ γ)
        (Host.onHeap (rest' answer') : Host σ δ) post) :
    world.Relates (Host.onHeap (first >>= rest) : Host ρ γ)
      (Host.onHeap (first' >>= rest') : Host σ δ) post := by
  rw [Host.onHeap_bind, Host.onHeap_bind]
  exact bind one two

theorem throw {post : Twins renamed → α → β → Prop} {fault fault' : Fault}
    (alike : Fault.Alike renamed fault fault') :
    world.Relates (Host.onHeap (MonadExcept.throw fault) : Host ρ α)
      (Host.onHeap (MonadExcept.throw fault') : Host σ β) post := by
  intro state state' agrees
  refine ⟨?_, ?_⟩
  · intro answer after done
    cases done
  · intro _ _ failed
    obtain ⟨heap, refused, rfl⟩ := Host.onHeap_error.mp failed
    cases refused
    exact ⟨world, fault', state', rfl, .refl world, agrees, alike⟩

/-- A look at two heaps that gives one answer. -/
theorem look {view : Heap → Except Error α} {view' : Heap → Except Error β}
    {post : Twins renamed → α → β → Prop}
    (same : ∀ heap heap', world.Agrees heap heap' →
      (∃ answer answer', view heap = .ok answer ∧ view' heap' = .ok answer' ∧
        post world answer answer') ∨
      ∃ cause, view heap = .error cause ∧ view' heap' = .error cause) :
    world.Relates (Host.onHeap (do Action.ofExcept (view (← get))) : Host ρ α)
      (Host.onHeap (do Action.ofExcept (view' (← get))) : Host σ β) post := by
  intro state state' agrees
  refine ⟨?_, ?_⟩
  · intro answer after done
    obtain ⟨seen, rfl⟩ := Host.look_ok.mp done
    rcases same _ _ agrees with ⟨value, answer', one, two, holds⟩ | ⟨cause, one, two⟩
    · rw [seen] at one
      cases one
      exact ⟨world, answer', state', Host.look_ok.mpr ⟨two, rfl⟩, .refl world, agrees, holds⟩
    · rw [seen] at one
      cases one
  · intro fault after failed
    obtain ⟨cause, seen, rfl, rfl⟩ := Host.look_error.mp failed
    rcases same _ _ agrees with ⟨value, answer', one, two, holds⟩ | ⟨cause', one, two⟩
    · rw [seen] at one
      cases one
    · rw [seen] at one
      cases one
      exact ⟨world, _, state', Host.look_error.mpr ⟨cause, two, rfl, rfl⟩, .refl world, agrees,
        .inl rfl⟩

/-- One new storage on each side. -/
theorem allocate (storage : Storage) :
    world.Relates (Host.onHeap (Heap.allocate storage) : Host ρ Nat)
      (Host.onHeap (Heap.allocate storage) : Host σ Nat)
      fun later name name' => later.paired name name' storage.dtype storage.size := by
  intro state state' agrees
  refine ⟨?_, ?_⟩
  · intro answer after done
    obtain ⟨heap, made, rfl⟩ := Host.onHeap_ok.mp done
    cases made
    exact ⟨_, _, Host.onto state' (state'.heap.add storage), Host.onHeap_ok.mpr ⟨_, rfl, rfl⟩,
      later_pair _ _ _ _, agrees.add storage, paired_self _ _ _ _⟩
  · intro fault after failed
    obtain ⟨heap, refused, -⟩ := Host.onHeap_error.mp failed
    cases refused

/-- One storage changed in the same way on each side. -/
theorem update {name name' : Nat} {dtype : DType} {size : Nat}
    (paired : world.paired name name' dtype size) {change : Storage → Except Error Storage}
    (keeps : ∀ before after, change before = .ok after →
      after.dtype = before.dtype ∧ after.size = before.size) :
    world.Relates (Host.onHeap (Heap.update name change) : Host ρ Unit)
      (Host.onHeap (Heap.update name' change) : Host σ Unit) fun _ _ _ => True := by
  intro state state' agrees
  obtain ⟨same, -, -⟩ := agrees.same _ _ _ _ paired
  refine ⟨?_, ?_⟩
  · intro answer after done
    obtain ⟨heap, made, rfl⟩ := Host.onHeap_ok.mp done
    unfold Heap.update at made
    cases changed : change (state.heap.storage name) with
    | error cause =>
        rw [changed] at made
        cases made
    | ok storage =>
        rw [changed] at made
        cases made
        obtain ⟨typed, sized⟩ := keeps _ _ changed
        refine ⟨world, (), Host.onto state' (state'.heap.replace name' storage),
          Host.onHeap_ok.mpr ⟨_, ?_, rfl⟩, .refl world, agrees.replace paired typed sized, trivial⟩
        unfold Heap.update
        rw [same, changed]
  · intro fault after failed
    obtain ⟨heap, refused, rfl⟩ := Host.onHeap_error.mp failed
    unfold Heap.update at refused
    cases changed : change (state.heap.storage name) with
    | ok storage =>
        rw [changed] at refused
        cases refused
    | error cause =>
        rw [changed] at refused
        cases refused
        refine ⟨world, _, state', Host.onHeap_error.mpr ⟨state'.heap, ?_, rfl⟩, .refl world,
          agrees, .inl rfl⟩
        unfold Heap.update
        rw [same, changed]

theorem count (operations : Nat) :
    world.Relates (Host.count operations : Host ρ Unit) (Host.count operations : Host σ Unit)
      fun _ _ _ => True := by
  intro state state' agrees
  refine ⟨?_, ?_⟩
  · intro answer after done
    obtain rfl := Host.count_ok.mp done
    exact ⟨world, (), _, Host.count_ok.mpr rfl, .refl world, agrees, trivial⟩
  · exact fun fault after failed => (Host.count_error failed).elim

end Relates

/-! ### Primitives -/

theorem ofExcept {result : Except Error α} {result' : Except Error β}
    {post : Twins renamed → α → β → Prop}
    (same : (∃ answer answer', result = .ok answer ∧ result' = .ok answer' ∧
      post world answer answer') ∨ ∃ cause, result = .error cause ∧ result' = .error cause) :
    world.Relates (Host.ofExcept result : Host ρ α) (Host.ofExcept result' : Host σ β) post := by
  rcases same with ⟨answer, answer', rfl, rfl, holds⟩ | ⟨cause, rfl, rfl⟩
  · exact .pure holds
  · exact .throw (.inl rfl)

theorem ofExcept_same (result : Except Error α) :
    world.Relates (Host.ofExcept result : Host ρ α) (Host.ofExcept result : Host σ α)
      fun _ answer answer' => answer = answer' := by
  apply ofExcept
  cases result with
  | ok answer => exact .inl ⟨answer, answer, rfl, rfl, rfl⟩
  | error cause => exact .inr ⟨cause, rfl, rfl⟩

/-- Twins, with one base. -/
def Bases (world : Twins renamed) (place place' : Nat × Nat) : Prop :=
  place'.2 = place.2 ∧ ∃ dtype size, world.paired place.1 place'.1 dtype size

namespace Alike

variable {left right : Value}

theorem dtype_eq (alike : world.Alike left right) : right.dtype = left.dtype := by
  unfold Value.dtype
  rw [alike.dtype]

theorem layout_eq (alike : world.Alike left right) : right.layout = left.layout := by
  unfold Value.layout
  rw [alike.layout]

theorem isDefined (alike : world.Alike left right) : right.isDefined = left.isDefined := by
  unfold Value.isDefined
  rw [alike.dtype]
  obtain ⟨dtype?, layout?, place⟩ := left
  obtain ⟨dtype?', layout?', place'⟩ := right
  cases alike.place <;> rfl

theorem ready (alike : world.Alike left right) : right.ready = left.ready := by
  unfold Value.ready
  rw [alike.isDefined, alike.layout_eq]

theorem withLayout (alike : world.Alike left right) (agrees : world.Agrees heap heap')
    (placed : Layout) :
    (∃ answer answer', left.withLayout placed heap = .ok answer ∧
      right.withLayout placed heap' = .ok answer' ∧ world.Alike answer answer') ∨
      ∃ cause, left.withLayout placed heap = .error cause ∧
        right.withLayout placed heap' = .error cause := by
  obtain ⟨dtype?, layout?, place⟩ := left
  obtain ⟨dtype?', layout?', place'⟩ := right
  obtain ⟨sameType, sameLayout, samePlace⟩ := alike
  cases samePlace with
  | unbound => exact .inl ⟨_, _, rfl, rfl, sameType, rfl, .unbound⟩
  | emitted register => exact .inl ⟨_, _, rfl, rfl, sameType, rfl, .emitted register⟩
  | @host name name' _ _ base paired =>
      simp only [Value.withLayout, (agrees.same _ _ _ _ paired).1]
      cases Value.checkFits placed base (heap.storage name).size with
      | error cause => exact .inr ⟨cause, rfl, rfl⟩
      | ok _ => exact .inl ⟨_, _, rfl, rfl, sameType, rfl, .host base paired⟩

theorem flatten (alike : world.Alike left right) (agrees : world.Agrees heap heap') :
    (∃ answer answer', left.flatten heap = .ok answer ∧ right.flatten heap' = .ok answer' ∧
      world.Alike answer answer') ∨
      ∃ cause, left.flatten heap = .error cause ∧ right.flatten heap' = .error cause := by
  unfold Value.flatten
  rw [alike.ready]
  cases left.ready with
  | error cause => exact .inr ⟨cause, rfl, rfl⟩
  | ok placed =>
      simp only [bind, Except.bind]
      split
      · exact alike.withLayout agrees _
      · exact .inr ⟨_, rfl, rfl⟩

theorem advanced (alike : world.Alike left right) (agrees : world.Agrees heap heap')
    (elements : Nat) :
    (∃ answer answer', left.advanced elements heap = .ok answer ∧
      right.advanced elements heap' = .ok answer' ∧ world.Alike answer answer') ∨
      ∃ cause, left.advanced elements heap = .error cause ∧
        right.advanced elements heap' = .error cause := by
  obtain ⟨dtype?, layout?, place⟩ := left
  obtain ⟨dtype?', layout?', place'⟩ := right
  obtain ⟨sameType, sameLayout, samePlace⟩ := alike
  cases samePlace with
  | unbound => exact .inr ⟨_, rfl, rfl⟩
  | emitted register => exact .inr ⟨_, rfl, rfl⟩
  | @host name name' _ _ base paired =>
      simp only [Value.advanced, Value.host, bind, Except.bind, (agrees.same _ _ _ _ paired).1]
      split
      · exact .inr ⟨_, rfl, rfl⟩
      · exact .inl ⟨_, _, rfl, rfl, sameType, rfl, .host _ paired⟩

theorem host (alike : world.Alike left right) :
    (∃ place place', left.host = .ok place ∧ right.host = .ok place' ∧ world.Bases place place') ∨
      ∃ cause, left.host = .error cause ∧ right.host = .error cause := by
  obtain ⟨dtype?, layout?, place⟩ := left
  obtain ⟨dtype?', layout?', place'⟩ := right
  obtain ⟨sameType, sameLayout, samePlace⟩ := alike
  cases samePlace with
  | unbound => exact .inr ⟨_, rfl, rfl⟩
  | emitted register => exact .inr ⟨_, rfl, rfl⟩
  | host base paired => exact .inl ⟨_, _, rfl, rfl, rfl, _, _, paired⟩

theorem movable (alike : world.Alike left right) (role : String) :
    (∃ place place', Host.movable left role = .ok place ∧ Host.movable right role = .ok place' ∧
      world.Bases place place') ∨
      ∃ cause, Host.movable left role = .error cause ∧
        Host.movable right role = .error cause := by
  obtain ⟨dtype?, layout?, place⟩ := left
  obtain ⟨dtype?', layout?', place'⟩ := right
  obtain ⟨sameType, sameLayout, samePlace⟩ := alike
  cases samePlace with
  | unbound => exact .inr ⟨_, rfl, rfl⟩
  | emitted register => exact .inr ⟨_, rfl, rfl⟩
  | host base paired => exact .inl ⟨_, _, rfl, rfl, rfl, _, _, paired⟩

theorem literal (alike : world.Alike left right) (agrees : world.Agrees heap heap') :
    Host.literal right heap' = Host.literal left heap := by
  obtain ⟨dtype?, layout?, place⟩ := left
  obtain ⟨dtype?', layout?', place'⟩ := right
  obtain ⟨sameType, sameLayout, samePlace⟩ := alike
  dsimp only at sameLayout
  subst sameLayout
  cases samePlace with
  | unbound => rfl
  | emitted register => rfl
  | host base paired =>
      simp only [Host.literal, Value.literal, Value.get, Value.getFlat, Value.host, Value.layout,
        Value.isHost, Heap.cell, bind, Except.bind, (agrees.same _ _ _ _ paired).1]

end Alike

theorem readLiteral {left right : Value} (alike : world.Alike left right) :
    world.Relates (Host.readLiteral left : Host ρ Literal) (Host.readLiteral right : Host σ Literal)
      fun _ answer answer' => answer = answer' := by
  apply Relates.look
  intro heap heap' agrees
  rw [alike.literal agrees]
  cases Host.literal left heap with
  | ok answer => exact .inl ⟨answer, answer, rfl, rfl, rfl⟩
  | error cause => exact .inr ⟨cause, rfl, rfl⟩

theorem known {left right : Value} (alike : world.Alike left right) :
    world.Relates (Host.known left : Host ρ (Option Literal))
      (Host.known right : Host σ (Option Literal)) fun _ answer answer' =>
        answer = answer' ∨ (False ∧ answer' = none) := by
  intro state state' agrees
  refine ⟨?_, ?_⟩
  · intro answer after done
    cases done
    exact ⟨world, _, state', rfl, .refl world, agrees,
      .inl (congrArg Except.toOption (alike.literal agrees).symm)⟩
  · intro fault after failed
    cases failed

/-- A value of one new storage on each side. -/
private theorem placedIn {storage : Storage} (dtype? : Option DType) (layout? : Option Layout) :
    world.Relates
      (Host.onHeap (do
        let name ← Heap.allocate storage
        return { dtype? := dtype?, layout? := layout?, place := .host name 0 }) : Host ρ Value)
      (Host.onHeap (do
        let name ← Heap.allocate storage
        return { dtype? := dtype?, layout? := layout?, place := .host name 0 }) : Host σ Value)
      Twins.Alike := by
  apply Relates.onHeap_bind (Relates.allocate storage)
  intro later name name' growing paired
  exact .pure ⟨rfl, rfl, .host 0 paired⟩

theorem ofLiteral (element : Literal) :
    world.Relates (Host.onHeap (Value.ofLiteral element) : Host ρ Value)
      (Host.onHeap (Value.ofLiteral element) : Host σ Value) Twins.Alike :=
  placedIn _ _

theorem constant (element : Literal) :
    world.Relates (Host.onHeap (Scalar.ofLiteral element) : Host ρ Scalar)
      (Host.onHeap (Scalar.ofLiteral element) : Host σ Scalar)
      fun later answer answer' => later.Alike answer.value answer'.value := by
  intro state state' agrees
  refine ⟨?_, ?_⟩
  · intro answer after done
    obtain ⟨heap, made, rfl⟩ := Host.onHeap_ok.mp done
    cases made
    exact ⟨_, _, Host.onto state' _, Host.onHeap_ok.mpr ⟨_, rfl, rfl⟩, later_pair _ _ _ _,
      agrees.add _, rfl, rfl, .host 0 (paired_self _ _ _ _)⟩
  · intro fault after failed
    obtain ⟨heap, refused, -⟩ := Host.onHeap_error.mp failed
    cases refused

theorem ofStorage (data : Storage) (placed : Layout) :
    world.Relates (Host.onHeap (Value.ofStorage data placed) : Host ρ Value)
      (Host.onHeap (Value.ofStorage data placed) : Host σ Value) Twins.Alike := by
  apply Relates.onHeap_bind (ofExcept_same _)
  intro later _ _ growing _
  exact placedIn _ _

/-- The positions that alike indices name. -/
private theorem positions {indices indices' : List Scalar}
    (same : List.Forall₂ (fun index index' : Scalar => world.Alike index.value index'.value)
      indices indices') :
    world.Relates
      (indices.mapM fun index => do
        Host.ofExcept (Scalar.position (← Host.readLiteral index.value)) : Host ρ (List Nat))
      (indices'.mapM fun index => do
        Host.ofExcept (Scalar.position (← Host.readLiteral index.value)) : Host σ (List Nat))
      fun _ answer answer' => answer = answer' := by
  induction indices generalizing world indices' with
  | nil =>
      cases same
      exact .pure rfl
  | cons index rest ih =>
      cases same with
      | cons head tail =>
          rw [List.mapM_cons, List.mapM_cons]
          refine Relates.bind (?_ : world.Relates _ _ fun _ answer answer' => answer = answer') ?_
          · apply Relates.bind (readLiteral head)
            rintro one element _ growing₁ rfl
            exact ofExcept_same _
          · rintro one position _ growing₁ rfl
            apply Relates.bind (ih (tail.imp fun _ _ known => known.mono growing₁))
            rintro two others _ growing₂ rfl
            exact .pure rfl

theorem offset {left right : Value} {indices indices' : List Scalar}
    (alike : world.Alike left right)
    (same : List.Forall₂ (fun index index' : Scalar => world.Alike index.value index'.value)
      indices indices') :
    world.Relates (Host.offset left indices : Host ρ Value)
      (Host.offset right indices' : Host σ Value) Twins.Alike := by
  unfold Host.offset
  rw [alike.ready, ← same.length_eq]
  apply Relates.bind (ofExcept_same _)
  rintro one placed _ growing₁ rfl
  split
  · exact Relates.stopped (Relates.throw (.inl rfl))
  · apply Relates.bind (positions (same.imp fun _ _ known => known.mono growing₁))
    rintro two coordinates _ growing₂ rfl
    apply Relates.bind (ofExcept_same _)
    rintro three position _ growing₃ rfl
    exact Relates.look fun heap heap' agrees =>
      (alike.mono ((growing₁.trans growing₂).trans growing₃)).advanced agrees position

theorem store {target target' source source' : Value} (alike : world.Alike target target')
    (alike' : world.Alike source source') :
    world.Relates (Host.store target source : Host ρ Unit)
      (Host.store target' source' : Host σ Unit) fun _ _ _ => True := by
  unfold Host.store
  rw [alike.dtype_eq]
  apply Relates.bind (readLiteral alike')
  rintro one element _ growing₁ rfl
  apply Relates.bind (ofExcept_same _)
  rintro two dtype _ growing₂ rfl
  split
  · exact Relates.stopped (Relates.throw (.inl rfl))
  apply Relates.bind (Relates.count 1)
  intro three _ _ growing₃ _
  have alike := alike.mono ((growing₁.trans growing₂).trans growing₃)
  unfold Value.set
  rw [alike.layout_eq]
  apply Relates.onHeap_bind (ofExcept_same _)
  rintro four placed _ growing₄ rfl
  apply Relates.onHeap_bind (ofExcept_same _)
  rintro five position _ growing₅ rfl
  have alike := alike.mono (growing₄.trans growing₅)
  apply Relates.onHeap_bind (ofExcept alike.host)
  rintro six ⟨name, base⟩ ⟨name', base'⟩ growing₆ ⟨rfl, dtype, size, paired⟩
  exact Relates.update paired (fun _ _ => Storage.set_keeps)

theorem move {target target' source source' : Value} (targetOffset sourceOffset elements : Nat)
    (alike : world.Alike target target') (alike' : world.Alike source source') :
    world.Relates (Host.move target targetOffset source sourceOffset elements : Host ρ Unit)
      (Host.move target' targetOffset source' sourceOffset elements : Host σ Unit)
      fun _ _ _ => True := by
  apply Relates.bind (ofExcept (alike.movable "destination"))
  rintro one ⟨place, base⟩ ⟨place', base'⟩ growing₁ ⟨rfl, dtype, size, paired⟩
  apply Relates.bind (ofExcept ((alike'.mono growing₁).movable "source"))
  rintro two ⟨origin, start⟩ ⟨origin', start'⟩ growing₂ ⟨rfl, dtype', size', paired'⟩
  dsimp only at paired paired' ⊢
  split
  · exact .pure trivial
  apply Relates.bind (Relates.count elements)
  intro three _ _ growing₃ _
  have paired := growing₃ _ _ _ _ (growing₂ _ _ _ _ paired)
  have paired' := growing₃ _ _ _ _ paired'
  intro state state' agrees
  have same : place' = origin' ↔ place = origin := by
    constructor
    · rintro rfl
      exact agrees.right _ _ _ _ _ _ _ paired' paired
    · rintro rfl
      exact agrees.left _ _ _ _ _ _ _ paired' paired
  unfold Heap.move
  by_cases one' : place = origin
  · rw [if_pos one', if_pos (same.mpr one')]
    exact Relates.update paired (fun _ _ => Storage.copyWithin_keeps) state state' agrees
  · rw [if_neg one', if_neg fun there => one' (same.mp there)]
    have keeps (storage after : Storage) (done : storage.copyFrom (base' + targetOffset)
        (state.heap.storage origin) (start' + sourceOffset) elements = .ok after) :=
      Storage.copyFrom_keeps done
    have run := Relates.update (ρ := ρ) (σ := σ) paired keeps state state' agrees
    have other := (agrees.same _ _ _ _ paired').1
    rw [Host.onHeap_get, Host.onHeap_get, other]
    exact run

theorem binary (op : BinaryOp) {left left' right right' : Value} (alike : world.Alike left left')
    (alike' : world.Alike right right') :
    world.Relates (Host.binary op left right : Host ρ Value)
      (Host.binary op left' right' : Host σ Value) Twins.Alike := by
  apply Relates.bind (Relates.count 1)
  intro one _ _ growing₁ _
  apply Relates.bind (readLiteral (alike.mono growing₁))
  rintro two element _ growing₂ rfl
  apply Relates.bind (readLiteral (alike'.mono (growing₁.trans growing₂)))
  rintro three element' _ growing₃ rfl
  apply Relates.bind (ofExcept_same _)
  rintro four result _ growing₄ rfl
  exact ofLiteral result

theorem unary (op : UnaryOp) {left right : Value} (alike : world.Alike left right) :
    world.Relates (Host.unary op left : Host ρ Value) (Host.unary op right : Host σ Value)
      Twins.Alike := by
  apply Relates.bind (Relates.count 1)
  intro one _ _ growing₁ _
  apply Relates.bind (readLiteral (alike.mono growing₁))
  rintro two element _ growing₂ rfl
  apply Relates.bind (ofExcept_same _)
  rintro three result _ growing₃ rfl
  exact ofLiteral result

theorem compare (op : CompareOp) {left left' right right' : Value}
    (alike : world.Alike left left') (alike' : world.Alike right right') :
    world.Relates (Host.compare op left right : Host ρ Value)
      (Host.compare op left' right' : Host σ Value) Twins.Alike := by
  apply Relates.bind (Relates.count 1)
  intro one _ _ growing₁ _
  apply Relates.bind (readLiteral (alike.mono growing₁))
  rintro two element _ growing₂ rfl
  apply Relates.bind (readLiteral (alike'.mono (growing₁.trans growing₂)))
  rintro three element' _ growing₃ rfl
  apply Relates.bind (ofExcept_same _)
  rintro four result _ growing₄ rfl
  exact ofLiteral (.bool result)

theorem cast {left right : Value} (dtype : DType) (alike : world.Alike left right) :
    world.Relates (Host.cast left dtype : Host ρ Value) (Host.cast right dtype : Host σ Value)
      Twins.Alike := by
  apply Relates.bind (readLiteral alike)
  rintro one element _ growing₁ rfl
  exact ofLiteral (element.cast dtype)

theorem runOver {body : Scalar → Host ρ Unit} {body' : Scalar → Host σ Unit}
    (alike : ∀ later (index index' : Scalar), world.Later later →
      later.Alike index.value index'.value →
      later.Relates (body index) (body' index') fun _ _ _ => True)
    (indices : List Nat) (growing : world.Later later) :
    later.Relates (Host.runOver body indices) (Host.runOver body' indices)
      fun _ _ _ => True := by
  induction indices generalizing later with
  | nil => exact .pure trivial
  | cons index rest ih =>
      apply Relates.bind (constant _)
      intro one scalar scalar' growing₁ same
      apply Relates.bind (alike one scalar scalar' (growing.trans growing₁) same)
      intro two _ _ growing₂ _
      exact ih ((growing.trans growing₁).trans growing₂)

theorem forRange {start stop step : Nat} {body : Scalar → Host ρ Unit}
    {body' : Scalar → Host σ Unit}
    (alike : ∀ later (index index' : Scalar), world.Later later →
      later.Alike index.value index'.value →
      later.Relates (body index) (body' index') fun _ _ _ => True) :
    world.Relates (Host.forRange start stop step body) (Host.forRange start stop step body')
      fun _ _ _ => True := by
  unfold Host.forRange
  split
  · exact .throw (.inl rfl)
  · exact runOver alike _ (.refl world)

theorem ifElse {condition condition' : Value} {onTrue onFalse : Host ρ Unit}
    {onTrue' onFalse' : Host σ Unit} (same : world.Alike condition condition')
    (alike : ∀ later, world.Later later → later.Relates onTrue onTrue' fun _ _ _ => True)
    (alike' : ∀ later, world.Later later → later.Relates onFalse onFalse' fun _ _ _ => True) :
    world.Relates (Host.ifElse condition onTrue onFalse)
      (Host.ifElse condition' onTrue' onFalse') fun _ _ _ => True := by
  apply Relates.bind (readLiteral same)
  rintro one element _ growing₁ rfl
  split
  · exact alike one growing₁
  · exact alike' one growing₁

instance : LawfulKernel (Host ρ) where
  onHost_pure := Host.onHeap_pure
  onHost_bind := Host.onHeap_bind

end Twins

/-- Two host runs of one kernel. -/
def twins (renamed : NodeId → NodeId → Prop) (ρ σ : Type) : Correspondence (Host ρ) (Host σ) where
  World := Twins renamed
  Later := Twins.Later
  Alike := Twins.Alike
  Writable _ _ _ := True
  Kept := Twins.Alike
  Relates := Twins.Relates
  Forgets := False
  later_refl := .refl
  later_trans := .trans
  alike_mono := .mono
  writable_mono _ _ := trivial
  kept_mono := .mono
  dtype := Twins.Alike.dtype
  layout := Twins.Alike.layout
  defined := Twins.Alike.isDefined
  weaken := Twins.Relates.weaken
  pure := Twins.Relates.pure
  bind := Twins.Relates.bind
  fail _ _ := Twins.Relates.throw (.inl rfl)
  abort _ _ := Twins.Relates.throw (.inl rfl)
  refuse absurd := absurd.elim
  withLayout placed alike := (Twins.Relates.look fun _ _ agrees =>
    alike.withLayout agrees placed).weaken fun _ _ _ _ same => ⟨same, id⟩
  flatten alike := (Twins.Relates.look fun _ _ agrees => alike.flatten agrees).weaken
    fun _ _ _ _ same => ⟨same, id⟩
  constant := Twins.constant
  storage := Twins.ofStorage
  allocate _ _ := (Twins.placedIn _ _).weaken fun _ _ _ _ same => ⟨same, trivial⟩
  state _ := fun alike => Twins.Relates.pure ⟨alike, trivial⟩
  offset alike same := (Twins.offset alike same).weaken fun _ _ _ _ same => ⟨same, id⟩
  known := Twins.known
  store alike _ alike' := Twins.store alike alike'
  move _ _ _ alike _ alike' := Twins.move _ _ _ alike alike'
  binary := Twins.binary
  unary := Twins.unary
  compare := Twins.compare
  cast := Twins.cast
  forRange _ alike := Twins.forRange alike
  ifElse := Twins.ifElse

end TensorGraph

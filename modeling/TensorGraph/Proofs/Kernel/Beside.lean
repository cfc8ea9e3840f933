/-
Two host runs, the second beside storages of its own.

The second run may know storages that the first one has no twins for, and that it
leaves alone.  As long as they are left alone they hold what they held, so the
first run may make copies of them at any moment, and go on with the copies as
the second one goes on with the storages themselves.
-/

import TensorGraph.Proofs.Kernel.Frame
import TensorGraph.Proofs.Kernel.Twins

namespace TensorGraph

/-- A storage that a run may write: it was made by the run, or it was given to it. -/
def Frame.Opens (frame : Frame) (name : Nat) : Prop :=
  frame.heap.next ≤ name ∨ frame.free name

namespace Twins

variable {renamed : NodeId → NodeId → Prop} {world later : Twins renamed} {frame : Frame}
  {heap heap' : Heap} {ρ σ α β γ δ : Type}

/-- The second run may write all twins. -/
def Clear (world : Twins renamed) (frame : Frame) : Prop :=
  ∀ name name' dtype size, world.paired name name' dtype size → frame.Opens name'

/-- The twins that the second run may write. -/
def clearing (world : Twins renamed) (frame : Frame) : Twins renamed :=
  { paired := fun name name' dtype size =>
      world.paired name name' dtype size ∧ frame.Opens name' }

theorem clear_clearing (world : Twins renamed) (frame : Frame) :
    (world.clearing frame).Clear frame :=
  fun _ _ _ _ paired => paired.2

theorem Clear.later_clearing (clear : world.Clear frame) (growing : world.Later later) :
    world.Later (later.clearing frame) :=
  fun _ _ _ _ paired => ⟨growing _ _ _ _ paired, clear _ _ _ _ paired⟩

theorem Agrees.clearing (agrees : world.Agrees heap heap') (frame : Frame) :
    (world.clearing frame).Agrees heap heap' :=
  ⟨fun _ _ _ _ paired => agrees.within _ _ _ _ paired.1,
    fun _ _ _ _ paired => agrees.same _ _ _ _ paired.1,
    fun _ _ _ _ _ _ _ one two => agrees.left _ _ _ _ _ _ _ one.1 two.1,
    fun _ _ _ _ _ _ _ one two => agrees.right _ _ _ _ _ _ _ one.1 two.1⟩

/-- The twin of a value names a storage that may be written. -/
theorem Alike.free {left right : Value} (alike : world.Alike left right)
    (clear : world.Clear frame) : frame.Free right := by
  obtain ⟨dtype?, layout?, place⟩ := left
  obtain ⟨dtype?', layout?', place'⟩ := right
  rintro name base ⟨⟩
  cases alike.place with
  | host _ paired => exact clear _ _ _ _ paired

theorem Alike.allFree {values values' : List Value}
    (alike : List.Forall₂ world.Alike values values') (clear : world.Clear frame) :
    ∀ value ∈ values', frame.Free value := by
  induction alike with
  | nil => nofun
  | cons head _ ih => exact List.forall_mem_cons.mpr ⟨head.free clear, ih⟩

theorem Alike.clearing {left right : Value} (alike : world.Alike left right)
    (free : frame.Free right) : (world.clearing frame).Alike left right := by
  obtain ⟨dtype?, layout?, place⟩ := left
  obtain ⟨dtype?', layout?', place'⟩ := right
  refine ⟨alike.dtype, alike.layout, ?_⟩
  cases alike.place with
  | unbound => exact .unbound
  | emitted register => exact .emitted register
  | host base paired => exact .host base ⟨paired, free _ _ rfl⟩

/-- The runs go alike as in `Relates`, and the second one keeps its frame. -/
def Shadows (world : Twins renamed) (frame : Frame) (left : Host ρ α) (right : Host σ β)
    (post : Twins renamed → α → β → Prop) : Prop :=
  ∀ (state : HostState ρ) (state' : HostState σ), world.Agrees state.heap state'.heap →
    world.Clear frame → frame.Kept state'.heap →
    (∀ answer after, left state = .ok answer after → ∃ later answer' after',
      right state' = .ok answer' after' ∧ world.Later later ∧
        later.Agrees after.heap after'.heap ∧ later.Clear frame ∧ frame.Kept after'.heap ∧
          post later answer answer') ∧
    (∀ fault after, left state = .error fault after → ∃ later fault' after',
      right state' = .error fault' after' ∧ world.Later later ∧
        later.Agrees after.heap after'.heap ∧ later.Clear frame ∧ frame.Kept after'.heap ∧
          Fault.Alike renamed fault fault')

namespace Shadows

/-- Runs that go alike, the second of which keeps its frame. -/
theorem of_relates {left : Host ρ α} {right : Host σ β} {free : β → Prop}
    {stronger post : Twins renamed → α → β → Prop} (goes : world.Relates left right stronger)
    (keeps : world.Clear frame → frame.Holds right free)
    (implies : ∀ later answer answer', stronger later answer answer' → free answer' →
      post (later.clearing frame) answer answer') : world.Shadows frame left right post := by
  intro state state' agrees clear kept
  obtain ⟨done, failed⟩ := goes state state' agrees
  have keeps := keeps clear
  refine ⟨?_, ?_⟩
  · intro answer after ran
    obtain ⟨later, answer', after', ran', growing, agrees', holds⟩ := done answer after ran
    obtain ⟨kept', free⟩ := keeps.done state' after' answer' kept ran'
    exact ⟨later.clearing frame, answer', after', ran', clear.later_clearing growing,
      agrees'.clearing frame, clear_clearing later frame, kept', implies _ _ _ holds free⟩
  · intro fault after ran
    obtain ⟨later, fault', after', ran', growing, agrees', alike⟩ := failed fault after ran
    exact ⟨later.clearing frame, fault', after', ran', clear.later_clearing growing,
      agrees'.clearing frame, clear_clearing later frame,
      keeps.failed state' after' fault' kept ran', alike⟩

theorem pure {post : Twins renamed → α → β → Prop} {answer : α} {answer' : β}
    (holds : post world answer answer') :
    world.Shadows frame (Pure.pure answer : Host ρ α) (Pure.pure answer' : Host σ β) post := by
  intro state state' agrees clear kept
  refine ⟨?_, nofun⟩
  intro _ _ done
  obtain ⟨rfl, rfl⟩ := Host.pure_ok.mp done
  exact ⟨world, answer', state', rfl, .refl world, agrees, clear, kept, holds⟩

theorem bind {left : Host ρ α} {right : Host σ β} {rest : α → Host ρ γ} {rest' : β → Host σ δ}
    {between : Twins renamed → α → β → Prop} {post : Twins renamed → γ → δ → Prop}
    (one : world.Shadows frame left right between)
    (two : ∀ later answer answer', world.Later later → between later answer answer' →
      later.Shadows frame (rest answer) (rest' answer') post) :
    world.Shadows frame (left >>= rest) (right >>= rest') post := by
  intro state state' agrees clear kept
  obtain ⟨done, failed⟩ := one state state' agrees clear kept
  refine ⟨?_, ?_⟩
  · intro result after ran
    obtain ⟨value, middle, first, second⟩ := Host.bind_ok.mp ran
    obtain ⟨later, value', middle', first', growing, agrees', clear', kept', holds⟩ :=
      done value middle first
    obtain ⟨last, result', after', second', growing', agrees'', clear'', kept'', holds'⟩ :=
      (two later value value' growing holds middle middle' agrees' clear' kept').1 result after
        second
    exact ⟨last, result', after', Host.bind_ok.mpr ⟨value', middle', first', second'⟩,
      growing.trans growing', agrees'', clear'', kept'', holds'⟩
  · intro fault after ran
    rcases Host.bind_error.mp ran with first | ⟨value, middle, first, second⟩
    · obtain ⟨later, fault', after', first', others⟩ := failed fault after first
      exact ⟨later, fault', after', Host.bind_error.mpr (.inl first'), others⟩
    · obtain ⟨later, value', middle', first', growing, agrees', clear', kept', holds⟩ :=
        done value middle first
      obtain ⟨last, fault', after', second', growing', others⟩ :=
        (two later value value' growing holds middle middle' agrees' clear' kept').2 fault after
          second
      exact ⟨last, fault', after', Host.bind_error.mpr (.inr ⟨value', middle', first', second'⟩),
        growing.trans growing', others⟩

/-- A pure step whose two answers are related. -/
theorem ofExcept {left : Except Error α} {right : Except Error β}
    {post : Twins renamed → α → β → Prop}
    (same : (∃ answer answer', left = .ok answer ∧ right = .ok answer' ∧
      post world answer answer') ∨ ∃ cause, left = .error cause ∧ right = .error cause) :
    world.Shadows frame (Host.ofExcept left : Host ρ α) (Host.ofExcept right : Host σ β) post := by
  rcases same with ⟨answer, answer', rfl, rfl, holds⟩ | ⟨cause, rfl, rfl⟩
  · exact pure holds
  · have stops : world.Relates (Host.ofExcept (.error cause) : Host ρ α)
        (Host.ofExcept (.error cause) : Host σ β) fun _ _ _ => False := Relates.throw (.inl rfl)
    have keeps : frame.Holds (Host.ofExcept (.error cause) : Host σ β) fun _ => True :=
      Frame.Holds.throw
    exact of_relates stops (fun _ => keeps) fun _ _ _ absurd _ => absurd.elim

end Shadows
end Twins
end TensorGraph

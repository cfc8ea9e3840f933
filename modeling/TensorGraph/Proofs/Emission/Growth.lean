/-
Growth while emitting.

Whatever a kernel emits, the function under construction only grows, exactly one
block is left open, and every global that the emission remembers exists with the
mutability that it was made with.  `Emits` says this of a kernel, together with
what needs more care: the remembered globals hold the host storages they stand
for, as long as the kernel names host storages that exist.
-/

import TensorGraph.Kernel.Emission
import TensorGraph.Proofs.Code.Branch
import TensorGraph.Proofs.Heap

namespace TensorGraph

open Code FunctionBuilder

namespace EmissionState

variable {ρ : Type}

/-- The function is well formed and has an open block, and the globals that are
remembered exist. -/
structure Sound (state : EmissionState ρ) : Prop where
  builder : state.builder.Formed
  opened : state.builder.Opened
  constants : ∀ storage name, (storage, name) ∈ state.constants →
    ∃ global ∈ state.builder.globals, global.name = name ∧ global.isMutable = false
  states : ∀ storage name, (storage, name) ∈ state.states →
    ∃ global ∈ state.builder.globals, global.name = name ∧ global.isMutable = true
  zeros : ∀ dtype count name, ((dtype, count), name) ∈ state.zeros →
    { name := name
      data := Storage.zeros dtype count
      isMutable := false : Global } ∈ state.builder.globals
  once : (state.states.map Prod.fst).Nodup
  apart : (state.states.map Prod.snd).Nodup
  noted : state.builder.states.map StateGlobal.state = (state.states.map Prod.snd).reverse
  images : ∀ entry ∈ state.builder.states, ∃ data : Storage,
    { name := entry.state
      data := data
      isMutable := true : Global } ∈ state.builder.globals ∧
    { name := entry.image
      data := data.cleared
      isMutable := false : Global } ∈ state.builder.globals ∧
    entry.bytes = data.size * data.dtype.width

/-- The remembered globals hold what the host holds. -/
structure Faithful (state : EmissionState ρ) : Prop where
  constants : ∀ storage name, (storage, name) ∈ state.constants →
    storage < state.heap.next ∧
      { name := name
        data := state.heap.storage storage
        isMutable := false : Global } ∈ state.builder.globals
  states : ∀ storage name, (storage, name) ∈ state.states →
    storage < state.heap.next ∧
      { name := name
        data := state.heap.storage storage
        isMutable := true : Global } ∈ state.builder.globals

/-- What emitting a kernel does to the function and to the remembered globals. -/
structure Grows (state after : EmissionState ρ) : Prop where
  sound : after.Sound
  steps : Steps state.builder after.builder
  balanced : state.builder.Balanced after.builder
  constants : ∀ entry ∈ state.constants, entry ∈ after.constants
  states : ∀ entry ∈ state.states, entry ∈ after.states
  depth : after.loopDepth = state.loopDepth

/-- Nothing that the host holds is changed, and it is remembered faithfully. -/
structure Keeps (state after : EmissionState ρ) : Prop where
  heap : state.heap.Grows after.heap
  faithful : after.Faithful

namespace Grows

variable {state after : EmissionState ρ}

theorem refl (sound : state.Sound) : state.Grows state :=
  ⟨sound, .refl, .refl sound.builder sound.opened, fun _ member => member,
    fun _ member => member, rfl⟩

theorem trans {last : EmissionState ρ} (one : state.Grows after) (two : after.Grows last) :
    state.Grows last :=
  ⟨two.sound, one.steps.trans two.steps, one.balanced.trans two.balanced,
    fun entry member => two.constants entry (one.constants entry member),
    fun entry member => two.states entry (one.states entry member),
    two.depth.trans one.depth⟩

theorem builder (grows : state.Grows after) (sound : state.Sound) :
    state.builder.Grows after.builder :=
  Steps.grows grows.steps sound.builder

end Grows

namespace Keeps

variable {state after : EmissionState ρ}

theorem refl (faithful : state.Faithful) : state.Keeps state :=
  ⟨.refl _, faithful⟩

theorem trans {last : EmissionState ρ} (one : state.Keeps after) (two : after.Keeps last) :
    state.Keeps last :=
  ⟨one.heap.trans two.heap, two.faithful⟩

end Keeps

/-- The state with another function under construction. -/
def onBuilder (state : EmissionState ρ) (builder : FunctionBuilder) : EmissionState ρ :=
  { state with builder := builder }

section Building

variable {state : EmissionState ρ} {after : FunctionBuilder}

/-- The remembered globals stay where they are when the function grows. -/
theorem Sound.onBuilder (sound : state.Sound) (steps : Steps state.builder after)
    (opened : after.Opened) (states : after.states = state.builder.states) :
    (state.onBuilder after).Sound := by
  have globals := (Steps.grows steps sound.builder).globals
  constructor
  case builder => exact Steps.formed steps sound.builder
  case opened => exact opened
  case constants =>
    intro storage name member
    obtain ⟨global, listed, described⟩ := sound.constants storage name member
    exact ⟨global, globals global listed, described⟩
  case states =>
    intro storage name member
    obtain ⟨global, listed, described⟩ := sound.states storage name member
    exact ⟨global, globals global listed, described⟩
  case zeros =>
    intro dtype count name member
    exact globals _ (sound.zeros dtype count name member)
  case once => exact sound.once
  case apart => exact sound.apart
  case noted =>
    change after.states.map StateGlobal.state = _
    rw [states]
    exact sound.noted
  case images =>
    change ∀ entry ∈ after.states, _
    rw [states]
    intro entry member
    obtain ⟨data, held, image, bytes⟩ := sound.images entry member
    exact ⟨data, globals _ held, globals _ image, bytes⟩

theorem Grows.onBuilder (sound : state.Sound) (steps : Steps state.builder after)
    (balanced : state.builder.Balanced after) (states : after.states = state.builder.states) :
    state.Grows (state.onBuilder after) :=
  ⟨sound.onBuilder steps balanced.opened states, steps, balanced, fun _ member => member,
    fun _ member => member, rfl⟩

theorem Faithful.onBuilder (faithful : state.Faithful)
    (globals : ∀ global ∈ state.builder.globals, global ∈ after.globals) :
    (state.onBuilder after).Faithful where
  constants := fun storage name member =>
    have held := faithful.constants storage name member
    ⟨held.1, globals _ held.2⟩
  states := fun storage name member =>
    have held := faithful.states storage name member
    ⟨held.1, globals _ held.2⟩

theorem Keeps.onBuilder (sound : state.Sound) (faithful : state.Faithful)
    (steps : Steps state.builder after) : state.Keeps (state.onBuilder after) :=
  ⟨.refl _, faithful.onBuilder (Steps.grows steps sound.builder).globals⟩

end Building
end EmissionState

namespace Emission

variable {ρ α β : Type} {state after : EmissionState ρ}

/-! ### Answers of the actions -/

theorem bind_ok {first : Emission ρ α} {rest : α → Emission ρ β} {result : β} :
    (first >>= rest) state = .ok result after ↔
      ∃ value middle, first state = .ok value middle ∧ rest value middle = .ok result after :=
  Action.bind_ok

theorem pure_ok {value result : α} :
    (pure value : Emission ρ α) state = .ok result after ↔ value = result ∧ state = after :=
  Action.pure_ok

theorem map_ok {change : α → β} {action : Emission ρ α} {result : β} :
    (change <$> action) state = .ok result after ↔
      ∃ value, action state = .ok value after ∧ change value = result :=
  Action.map_ok

theorem building_ok {action : Building α} {result : α} :
    building action state = .ok result after ↔
      ∃ builder, action state.builder = .ok result builder ∧ state.onBuilder builder = after :=
  Action.within_ok

theorem onHeap_ok {action : Action Heap α} {result : α} :
    (onHeap action : Emission ρ α) state = .ok result after ↔
      ∃ heap, action state.heap = .ok result heap ∧ { state with heap := heap } = after :=
  Action.within_ok

theorem ofExcept_ok {answer : Except Error α} {result : α} :
    (ofExcept answer : Emission ρ α) state = .ok result after ↔
      answer = .ok result ∧ state = after := by
  rw [ofExcept, onHeap_ok]
  constructor
  · rintro ⟨heap, done, rfl⟩
    obtain ⟨same, rfl⟩ := Action.ofExcept_ok.mp done
    exact ⟨same, rfl⟩
  · rintro ⟨same, rfl⟩
    exact ⟨state.heap, Action.ofExcept_ok.mpr ⟨same, rfl⟩, rfl⟩

theorem fail_ok {cause : Error} {result : α} :
    ¬ (fail cause : Emission ρ α) state = .ok result after := by
  intro done
  cases (ofExcept_ok.mp done).1

theorem state_ok {result : EmissionState ρ} :
    (Emission.state : Emission ρ (EmissionState ρ)) state = .ok result after ↔
      state = result ∧ state = after := by
  constructor
  · intro done
    cases done
    exact ⟨rfl, rfl⟩
  · rintro ⟨rfl, rfl⟩
    rfl

theorem change_ok {change : EmissionState ρ → EmissionState ρ} {result : Unit} :
    Emission.change change state = .ok result after ↔ change state = after := by
  constructor
  · intro done
    cases done
    rfl
  · rintro rfl
    rfl

theorem known_ok {value : Value} {result : Option Literal} :
    (known value : Emission ρ (Option Literal)) state = .ok result after ↔
      literal? value state.heap = result ∧ state = after := by
  constructor
  · intro done
    cases done
    exact ⟨rfl, rfl⟩
  · rintro ⟨rfl, rfl⟩
    rfl

/-! ### Kernels that grow -/

/-- Emitting the kernel lets the function grow.  `among` are the host storages that it
may name. -/
def Emits (among : Nat → Prop) (kernel : Emission ρ α) : Prop :=
  ∀ state answer after, kernel state = .ok answer after → state.Sound →
    state.Grows after ∧
      ((∀ storage, among storage → storage < state.heap.next) → state.Faithful →
        state.Keeps after)

namespace Emits

variable {among : Nat → Prop}

theorem weaken {wider : Nat → Prop} {kernel : Emission ρ α} (emits : Emits among kernel)
    (contained : ∀ storage, among storage → wider storage) : Emits wider kernel := by
  intro state answer after done sound
  obtain ⟨grows, keeps⟩ := emits state answer after done sound
  exact ⟨grows, fun known => keeps fun storage member => known storage (contained storage member)⟩

/-- What only looks. -/
theorem still {kernel : Emission ρ α}
    (same : ∀ state answer after, kernel state = .ok answer after → after = state) :
    Emits among kernel := by
  intro state answer after done sound
  cases same state answer after done
  exact ⟨.refl sound, fun _ faithful => .refl faithful⟩

theorem pure (value : α) : Emits among (Pure.pure value : Emission ρ α) :=
  still fun _ _ _ done => (pure_ok.mp done).2.symm

theorem ofExcept (answer : Except Error α) : Emits among (ofExcept answer : Emission ρ α) :=
  still fun _ _ _ done => (ofExcept_ok.mp done).2.symm

theorem fail (cause : Error) : Emits among (fail cause : Emission ρ α) :=
  still fun _ _ _ done => (fail_ok done).elim

/-- Nothing is emitted behind a failure. -/
theorem failing (cause : Error) (rest : α → Emission ρ β) :
    Emits among (Emission.fail cause >>= rest) := by
  intro state answer after done
  obtain ⟨value, middle, failed, _⟩ := bind_ok.mp done
  exact (fail_ok failed).elim

theorem known (value : Value) : Emits among (known value : Emission ρ (Option Literal)) :=
  still fun _ _ _ done => (known_ok.mp done).2.symm

theorem current : Emits among (Emission.state : Emission ρ (EmissionState ρ)) :=
  still fun _ _ _ done => (state_ok.mp done).2.symm

theorem bind {first : Emission ρ α} {rest : α → Emission ρ β} (one : Emits among first)
    (two : ∀ value, Emits among (rest value)) : Emits among (first >>= rest) := by
  intro state answer after done sound
  obtain ⟨value, middle, before, later⟩ := bind_ok.mp done
  obtain ⟨grows, keeps⟩ := one state value middle before sound
  obtain ⟨grows', keeps'⟩ := two value middle answer after later grows.sound
  refine ⟨grows.trans grows', fun known faithful => ?_⟩
  have kept := keeps known faithful
  exact kept.trans (keeps' (fun storage member =>
    Nat.lt_of_lt_of_le (known storage member) kept.heap.next) kept.faithful)

theorem map {first : Emission ρ α} (change : α → β) (one : Emits among first) :
    Emits among (change <$> first) := by
  intro state answer after done sound
  obtain ⟨value, before, _⟩ := map_ok.mp done
  exact one state value after before sound

/-- A step of building that stays in the open block. -/
theorem building {action : Building α}
    (straight : ∀ {builder : FunctionBuilder} {answer : α} {after : FunctionBuilder},
      builder.Formed → builder.Opened → action builder = .ok answer after →
        builder.Straight after) : Emits among (building action : Emission ρ α) := by
  intro state answer after done sound
  obtain ⟨builder, built, rfl⟩ := building_ok.mp done
  have line := straight sound.builder sound.opened built
  exact ⟨.onBuilder sound line.steps line.balanced line.states,
    fun _ faithful => .onBuilder sound faithful line.steps⟩

/-- An action that at most adds storages to the heap. -/
theorem onHeap {action : Action Heap α}
    (adds : ∀ heap answer after, action heap = .ok answer after → heap.Grows after) :
    Emits among (onHeap action : Emission ρ α) := by
  intro state answer after done sound
  obtain ⟨heap, acted, rfl⟩ := onHeap_ok.mp done
  have grows := adds _ _ _ acted
  refine ⟨⟨⟨sound.builder, sound.opened, sound.constants, sound.states, sound.zeros, sound.once,
    sound.apart, sound.noted, sound.images⟩, .refl, .refl sound.builder sound.opened,
    fun _ member => member, fun _ member => member, rfl⟩, fun _ faithful => ⟨grows, ?_⟩⟩
  constructor
  · intro storage name member
    obtain ⟨known, held⟩ := faithful.constants storage name member
    exact ⟨Nat.lt_of_lt_of_le known grows.next, (grows.kept storage known).symm ▸ held⟩
  · intro storage name member
    obtain ⟨known, held⟩ := faithful.states storage name member
    exact ⟨Nat.lt_of_lt_of_le known grows.next, (grows.kept storage known).symm ▸ held⟩

end Emits
end Emission
end TensorGraph

/-
Memory of the code.

Memory that the host obtains anew is a slot of the code.  Outside loops the slot
is still clean when the machine comes there; inside a loop it is cleared first.
A storage that the code takes over as state is the global that was seeded with
it; every other primitive leaves the states of the code as they are.
-/

import TensorGraph.Proofs.Emission.Fresh

namespace TensorGraph

open Code FunctionBuilder Machine
open Optimize (targets)

/-! ### State that is not taken over -/

namespace Emission

variable {σ α β : Type}

/-- Emitting the kernel takes over no storage. -/
def KeepsStates (kernel : Emission σ α) : Prop :=
  ∀ state answer after, kernel state = .ok answer after → after.states = state.states

namespace KeepsStates

theorem pure (value : α) : KeepsStates (Pure.pure value : Emission σ α) := by
  intro state answer after done
  rw [← (pure_ok.mp done).2]

theorem bind {first : Emission σ α} {rest : α → Emission σ β} (one : KeepsStates first)
    (two : ∀ value, KeepsStates (rest value)) : KeepsStates (first >>= rest) := by
  intro state answer after done
  obtain ⟨value, middle, before, later⟩ := bind_ok.mp done
  exact (two value middle answer after later).trans (one state value middle before)

theorem map {first : Emission σ α} (change : α → β) (one : KeepsStates first) :
    KeepsStates (change <$> first) := by
  intro state answer after done
  obtain ⟨value, before, _⟩ := map_ok.mp done
  exact one state value after before

theorem building (action : Building α) : KeepsStates (building action : Emission σ α) := by
  intro state answer after done
  obtain ⟨builder, _, rfl⟩ := building_ok.mp done
  rfl

theorem onHeap (action : Action Heap α) : KeepsStates (onHeap action : Emission σ α) := by
  intro state answer after done
  obtain ⟨heap, _, rfl⟩ := onHeap_ok.mp done
  rfl

theorem ofExcept (answer : Except Error α) : KeepsStates (ofExcept answer : Emission σ α) :=
  onHeap _

theorem fail (cause : Error) : KeepsStates (fail cause : Emission σ α) :=
  ofExcept _

theorem known (value : Value) : KeepsStates (known value : Emission σ (Option Literal)) := by
  intro state answer after done
  rw [← (known_ok.mp done).2]

theorem current : KeepsStates (Emission.state : Emission σ (EmissionState σ)) := by
  intro state answer after done
  rw [← (state_ok.mp done).2]

theorem change {action : EmissionState σ → EmissionState σ}
    (same : ∀ state, (action state).states = state.states) :
    KeepsStates (Emission.change action) := by
  intro state answer after done
  rw [← change_ok.mp done, same]

end KeepsStates

open KeepsStates

/-! ### The primitives -/

theorem embed_keepsStates (storage : Nat) : KeepsStates (embed storage : Emission σ _) := by
  refine .bind .current fun state => ?_
  split
  · exact .building _
  split
  · exact .building _
  · exact .bind (.building _) fun name => .bind (.change fun _ => rfl) fun _ => .building _

theorem pointer_keepsStates (value : Value) : KeepsStates (pointer value : Emission σ _) := by
  unfold pointer
  split
  · exact .pure _
  · exact .bind (embed_keepsStates _) fun _ => .building _
  · exact .fail _

theorem writablePointer_keepsStates (value : Value) :
    KeepsStates (writablePointer value : Emission σ _) := by
  unfold writablePointer
  split
  · exact .pure _
  · exact .fail _
  · exact .fail _

theorem operand_keepsStates (value : Value) : KeepsStates (operand value : Emission σ _) := by
  refine .bind (.known value) fun literal? => ?_
  split
  · exact .pure _
  · exact .bind (pointer_keepsStates value) fun _ => .bind (.building _) fun _ => .pure _

theorem spill_keepsStates (dtype : DType) (register : Register) :
    KeepsStates (spill dtype register : Emission σ _) :=
  .bind (.building _) fun _ => .bind (.building _) fun _ => .pure _

theorem indexOperand_keepsStates (scalar : Scalar) :
    KeepsStates (indexOperand scalar : Emission σ _) := by
  refine .bind (operand_keepsStates scalar.value) fun operand => ?_
  split
  · exact .pure _
  dsimp only
  split
  · exact .bind (.fail _) fun _ => .bind (.building _) fun _ => .pure _
  · exact .bind (.building _) fun _ => .pure _

theorem clear_keepsStates (address : Register) (dtype : DType) (count : Nat) :
    KeepsStates (clear address dtype count : Emission σ _) := by
  refine .bind .current fun state => ?_
  split
  · exact .bind (.pure _) fun _ => .bind (.building _) fun _ => .building _
  · exact .bind (.building _) fun _ => .bind (.change fun _ => rfl) fun _ =>
      .bind (.pure _) fun _ => .bind (.building _) fun _ => .building _

theorem allocate_keepsStates (dtype : DType) (layout : Layout) :
    KeepsStates (allocate dtype layout : Emission σ _) := by
  refine .bind (.building _) fun address => .bind .current fun state => ?_
  dsimp only
  split
  · exact .bind (clear_keepsStates _ _ _) fun _ => .pure _
  · exact .pure _

theorem knownIndices_keepsStates (indices : List Scalar) :
    KeepsStates (knownIndices indices : Emission σ _) := by
  induction indices with
  | nil => exact .pure _
  | cons scalar rest ih => exact .bind (.known _) fun _ => .bind ih fun _ => .pure _

theorem address_keepsStates (indices : List Scalar) (positions : List (Option Int))
    (axes : List Axis) (computed : Option Operand) (fixed : Int) :
    KeepsStates (address indices positions axes computed fixed : Emission σ _) := by
  induction axes generalizing computed fixed with
  | nil => exact .pure _
  | cons axis rest ih =>
      simp only [address]
      split
      · exact ih _ _
      · exact ih _ _
      refine .bind (indexOperand_keepsStates _) fun factor => ?_
      cases computed with
      | none =>
          split
          · exact .bind (.pure _) fun _ => .bind (.pure _) fun _ => ih _ _
          · exact .bind (.map _ (.building _)) fun _ => .bind (.pure _) fun _ => ih _ _
      | some sum =>
          split
          · exact .bind (.pure _) fun _ => .bind (.map _ (.building _)) fun _ => ih _ _
          · exact .bind (.map _ (.building _)) fun _ => .bind (.map _ (.building _)) fun _ => ih _ _

theorem checkTypes_keepsStates (target source : Value) :
    KeepsStates (checkTypes target source : Emission σ _) := by
  refine .bind (.ofExcept _) fun _ => .bind (.ofExcept _) fun _ => ?_
  dsimp only
  split
  · exact .bind (.fail _) fun _ => .pure _
  · exact .pure _

end Emission

/-! ### The emission goes on -/

variable {σ α : Type} {world : World} {seeds : Nat → Option Nat} {before after : EmissionState σ}

/-- The emission of a kernel that takes over no storage fits the world as before. -/
theorem World.Ready.emitted (ready : world.Ready seeds before) {among : Nat → Prop}
    {kernel : Emission σ α} (emits : Emission.Emits among kernel)
    (keepsStates : Emission.KeepsStates kernel) {answer : α}
    (done : kernel before = .ok answer after)
    (known : ∀ storage, among storage → storage < before.heap.next) :
    before.Grows after ∧ before.heap.Grows after.heap ∧ world.Ready seeds after := by
  obtain ⟨grows, keeps⟩ := emits before answer after done ready.sound
  have kept := keeps known ready.faithful
  refine ⟨grows, kept.heap, ready.grows grows kept ?_⟩
  rw [keepsStates before answer after done]
  exact ready.fits.taken

/-- The storages that the code's value names are there. -/
theorem Alike.inHost_lt {host code : Value} (alike : Alike world host code)
    (fits : world.Fits seeds before) (storage : Nat) (inside : code.InHost storage) :
    storage < before.heap.next := by
  obtain ⟨base, place⟩ := inside
  obtain ⟨other, _, named, _⟩ := alike.constant fits place
  exact (fits.constants storage other named).1

/-! ### Clearing -/

theorem Machine.read_whole {memory : Memory} {allocation : Nat} {storage : Storage}
    (holds : memory.allocations[allocation]? = some storage.image) :
    memory.read ⟨allocation, 0⟩ storage.bytes.length = .ok storage.bytes := by
  have read := read_of_image holds (Nat.le_of_eq (Nat.zero_add storage.size))
  rw [Nat.zero_mul, List.drop_zero, ← Storage.length_bytes] at read
  have whole : storage.cells.toList.take storage.size = storage.cells.toList :=
    List.take_of_length_le (Nat.le_of_eq Array.length_toList)
  rw [read, whole]
  rfl

namespace Stage

variable {σ : Type} {stage : Stage} {world : World} {before after : EmissionState σ} {heap : Heap}
  {machine : State}

/-- The memory of a register that the builder allocated for. -/
theorem mem_prologue_allocating {builder : FunctionBuilder} {dtype : DType} {count : Nat}
    (covers : (builder.allocating dtype count).Grows stage.builder) :
    .alloca builder.size dtype count ∈ stage.builder.prologue := by
  obtain ⟨more, prologue, _⟩ := covers.prologue
  rw [prologue]
  exact List.mem_append_left _ (List.mem_append_right _ (List.mem_singleton_self _))

/-- A slot that was filled stays so while the code goes on. -/
theorem Agrees.settled {slot more : Nat} {storage : Nat} {fresh : world.next ≤ storage}
    {knowledge : Knowledge} {registers next : Array (Option Slot)} {memory : Memory}
    (agrees : stage.Agrees (world.held storage fresh knowledge (stage.place slot) slot) (slot + 1)
      heap registers memory) (wider : slot + 1 ≤ more)
    (below : ∀ register target, world.pointers register target → register < slot)
    {dtype : DType} {count : Nat} (member : .alloca slot dtype count ∈ stage.builder.prologue)
    (room : next.size = registers.size)
    (kept : ∀ register, register < slot ∨ register ∈ targets stage.builder.prologue →
      next[register]? = registers[register]?) :
    stage.Agrees (world.held storage fresh knowledge (stage.place slot) slot) more heap next
      memory := by
  refine agrees.defining wider room ?_ ?_
  · rintro register target (⟨rfl, _⟩ | points)
    · exact Nat.lt_succ_self _
    · exact Nat.lt_succ_of_lt (below register target points)
  · rintro register (within | prologue)
    · rcases Nat.lt_succ_iff_lt_or_eq.mp within with earlier | rfl
      · exact kept register (.inl earlier)
      · exact kept register (.inr (mem_targets_alloca member))
    · exact kept register (.inr prologue)

/-- The machine puts zeros into memory. -/
theorem clear_runs {address : Register} {dtype : DType} {count : Nat}
    (emitted : (Emission.clear address dtype count : Emission σ Unit) before = .ok () after)
    (sound : before.Sound) (covers : stage.Covers after)
    (holds : stage.Matches world before heap machine) {allocation : Nat}
    (has : machine.frame.Has address (.pointer ⟨allocation, 0⟩)) {image : Array UInt8}
    (found : machine.memory.allocations[allocation]? = some image)
    (large : image.size = dtype.width * count) :
    ∃ next, stage.Runs before.builder after.builder machine next ∧
      next.memory = machine.memory.put ⟨allocation, 0⟩ (Storage.zeros dtype count).bytes := by
  obtain ⟨middle, global, grows, listed, fixed, data, blocks, current, emitted⟩ :=
    Emission.clear_ok emitted sound
  obtain ⟨source, _, located, emitted⟩ := Emission.bind_ok.mp emitted
  obtain ⟨builder, built, rfl⟩ := Emission.building_ok.mp located
  obtain ⟨builder', built', rfl⟩ := Emission.building_ok.mp emitted
  have line := Building.globalAddress_straight grows.sound.builder grows.sound.opened built
  have formed := line.formed grows.sound.builder
  have line' := Building.move_straight formed built'
  have covers' : builder.Grows stage.builder := (line'.steps.grows formed).trans covers.builder
  obtain ⟨aside, index, located, has', _⟩ :=
    constant_runs grows blocks current listed built covers' holds
  have constant := holds.agrees.holds.constants index global located fixed
  rw [data] at constant
  have bytes : (Storage.zeros dtype count).bytes.length = count * dtype.width := by
    rw [Storage.length_bytes, Storage.size_zeros]
    rfl
  have read := read_whole constant
  rw [bytes] at read
  have check : machine.memory.check ⟨allocation, 0⟩ (Storage.zeros dtype count).bytes.length =
      .ok () := check_whole found (by rw [bytes, large, Nat.mul_comm])
  obtain ⟨next, runs, memory⟩ := move_runs aside.follows formed built' covers.builder has has' read
    check
  exact ⟨next, aside.trans runs ((grows.builder sound).trans
    (line.steps.grows grows.sound.builder)).size_le, memory⟩

end Stage

theorem describes_zeros (dtype : DType) (count : Nat) :
    (Knowledge.shaped dtype count).Describes (Storage.zeros dtype count) :=
  ⟨rfl, Storage.size_zeros dtype count⟩

namespace Stage

variable {σ : Type} {stage : Stage} {world : World} {before after : EmissionState σ} {heap : Heap}
  {machine : State}

/-- Registers that the prologue sets up do not matter to what the machine holds. -/
theorem Matches.allocating (holds : stage.Matches world before heap machine)
    (inside : 0 < before.loopDepth) {seeds : Nat → Option Nat}
    (fits : world.Fits seeds before) (dtype : DType) (count : Nat) :
    stage.Matches world (before.onBuilder (before.builder.allocating dtype count)) heap
      machine where
  follows := holds.follows.aside rfl rfl
  agrees := by
    have wider : before.builder.size ≤ (before.builder.allocating dtype count).size :=
      Nat.le.intro (size_allocating before.builder dtype count).symm
    exact holds.agrees.defining wider rfl (fun register target points =>
      (fits.pointers register target points).1) fun _ _ => rfl
  clean := fun outside => absurd outside (Nat.ne_of_gt inside)

/-- A slot inside a loop is cleared before it is used. -/
theorem allocate_runs (holds : stage.Matches world before heap machine)
    (inside : 0 < before.loopDepth) {seeds : Nat → Option Nat} (ready : world.Ready seeds before)
    {dtype : DType} {count : Nat}
    (emitted : (Emission.clear before.builder.size dtype count : Emission σ Unit)
      (before.onBuilder (before.builder.allocating dtype count)) = .ok () after)
    (covers : stage.Covers after) :
    ∃ next, stage.Runs before.builder after.builder machine next ∧
      stage.Untouched after.builder.size machine.memory next.memory ∧
      ∀ fresh : world.next ≤ heap.next,
        stage.Agrees (world.held heap.next fresh (.shaped dtype count)
          (stage.place before.builder.size) before.builder.size) after.builder.size
          (heap.add (Storage.zeros dtype count)) next.frame.registers next.memory := by
  have line := Straight.allocate ready.sound.builder ready.sound.opened dtype count
  have grows := EmissionState.Grows.onBuilder ready.sound line.steps line.balanced line.states
  have emits : Emission.Emits (fun _ => False)
      (Emission.clear before.builder.size dtype count : Emission σ Unit) :=
    Emission.clear_emits _ _ _
  obtain ⟨grows', -⟩ := emits _ () after emitted grows.sound
  have covers' := covers.of_grows grows.sound grows'
  have member := mem_prologue_allocating covers'.builder
  have holds' := holds.allocating inside ready.fits dtype count
  obtain ⟨has, image, found, large⟩ := holds.agrees.holds.slots _ _ _ member
  obtain ⟨next, runs, memory⟩ := clear_runs emitted grows.sound covers holds' has found large
  have wider : before.builder.size + 1 ≤ after.builder.size := by
    rw [← size_allocating before.builder dtype count]
    exact (grows'.builder grows.sound).size_le
  have aside : stage.Runs before.builder (before.builder.allocating dtype count) machine machine :=
    holds.follows.aside_runs rfl rfl
  refine ⟨next, aside.trans runs (grows.builder ready.sound).size_le, ?_, fun fresh => ?_⟩
  · rw [memory]
    exact untouched_slot wider member machine.memory _
  · rw [memory]
    have filled := holds.agrees.filled fresh (describes_zeros dtype count)
      (by rw [Storage.size_zeros]; exact member)
    refine filled.settled wider (fun register target points =>
      (ready.fits.pointers register target points).1) member runs.room ?_
    rintro register (earlier | prologue)
    · exact runs.kept register (.inl (Nat.lt_of_lt_of_le earlier (grows.builder ready.sound).size_le))
    · exact runs.kept register (.inr prologue)

end Stage

namespace Realizes

variable {ρ σ : Type} {seeds : Nat → Option Nat} {world : World}

theorem allocate (dtype : DType) (placed : Layout) :
    Realizes seeds world (Kernel.allocate dtype placed : Host ρ Value)
      (Kernel.allocate dtype placed : Emission σ Value)
      fun later answer answer' => Alike later answer answer' ∧ Writable later answer answer' := by
  intro before answer after emitted ready
  have emits : Emission.Emits (fun _ => False) (Emission.allocate dtype placed : Emission σ Value) :=
    Emission.allocate_emits dtype placed
  obtain ⟨grows, heap, ready'⟩ := ready.emitted emits
    (Emission.allocate_keepsStates dtype placed) emitted fun _ absurd => absurd.elim
  change Emission.allocate dtype placed before = .ok answer after at emitted
  unfold Emission.allocate at emitted
  obtain ⟨slot, middle, allocated, emitted⟩ := Emission.bind_ok.mp emitted
  obtain ⟨builder, built, rfl⟩ := Emission.building_ok.mp allocated
  obtain ⟨rfl, rfl⟩ := Building.alloca_ok.mp built
  obtain ⟨_, _, looked, emitted⟩ := Emission.bind_ok.mp emitted
  obtain ⟨rfl, rfl⟩ := Emission.state_ok.mp looked
  have line := Straight.allocate ready.sound.builder ready.sound.opened dtype placed.memorySize
  have grows' := EmissionState.Grows.onBuilder ready.sound line.steps line.balanced line.states
  have typed : (before.builder.allocating dtype placed.memorySize).function.registerTypes[
      before.builder.size]? = some (.pointer dtype) := Array.getElem?_push_size
  have fails : ∀ (state : HostState ρ) cause state',
      (Kernel.allocate dtype placed : Host ρ Value) state ≠ .error (.error cause) state' := by
    intro state cause state' failed
    cases failed
  -- The slot belongs to the prologue; only inside a loop has the machine to clear it.
  dsimp only at emitted
  split at emitted
  case isTrue inside =>
    obtain ⟨_, last, cleared, emitted⟩ := Emission.bind_ok.mp emitted
    obtain ⟨rfl, rfl⟩ := Emission.pure_ok.mp emitted
    have emits' : Emission.Emits (fun _ => False)
        (Emission.clear before.builder.size dtype placed.memorySize : Emission σ Unit) :=
      Emission.clear_emits _ _ _
    obtain ⟨grows'', -⟩ := emits' _ () _ cleared grows'.sound
    refine Realized.filled placed.memorySize grows heap ready' ?_ ?_ ?_
    · exact Building.pointeeType_ok.mpr ((grows''.builder grows'.sound).types _ _ typed)
    · intro stage covers state machine holds answer' state' done
      cases done
      obtain ⟨next, runs, untouched, agrees⟩ :=
        Stage.allocate_runs holds inside ready cleared covers
      exact ⟨next, rfl, runs, untouched, agrees⟩
    · exact fun stage covers state machine holds cause state' failed =>
        absurd failed (fails state cause state')
  case isFalse outside =>
    obtain ⟨rfl, rfl⟩ := Emission.pure_ok.mp emitted
    have depth : before.loopDepth = 0 := Nat.eq_zero_of_not_pos outside
    refine Realized.filled placed.memorySize grows heap ready' ?_ ?_ ?_
    · exact Building.pointeeType_ok.mpr typed
    · intro stage covers state machine holds answer' state' done
      cases done
      have member := Stage.mem_prologue_allocating covers.builder
      refine ⟨machine, rfl, holds.follows.aside_runs rfl rfl, .refl _ _, fun fresh => ?_⟩
      have clean := holds.clean depth _ _ _ member (Nat.le_refl _)
      have size : (before.onBuilder (before.builder.allocating dtype placed.memorySize)).builder.size
          = before.builder.size + 1 := size_allocating _ _ _
      rw [size]
      exact holds.agrees.held fresh (describes_zeros dtype placed.memorySize) member clean
    · exact fun stage covers state machine holds cause state' failed =>
        absurd failed (fails state cause state')

end Realizes

/-! ### Storages that are taken over -/

/-- The code may take over the storage of the value as state. -/
def Kept (seeds : Nat → Option Nat) (world : World) (host code : Value) : Prop :=
  ∃ storage name base dtype size, host.place = .host storage base ∧
    code.place = .host name base ∧ seeds name = some storage ∧ code.dtype? = some dtype ∧
    host.dtype? = some dtype ∧ code.layout? = host.layout? ∧
    world.known storage = some (.shaped dtype size) ∧ base ≤ size

theorem Kept.mono {seeds : Nat → Option Nat} {world later : World} {host code : Value}
    (kept : Kept seeds world host code) (growing : world.Later later) :
    Kept seeds later host code := by
  obtain ⟨storage, name, base, dtype, size, place, place', seed, typed, typed', layouts, known,
    within⟩ := kept
  exact ⟨storage, name, base, dtype, size, place, place', seed, typed, typed', layouts,
    growing.known _ _ known, within⟩

namespace Emission

variable {σ : Type} {state after : EmissionState σ}

/-- The value at a number of elements behind the address of a global. -/
private def heldAt (name : String) (dtype : DType) (layout : Layout) (base : Nat) :
    Emission σ Value := do
  let address ← building (Building.globalAddress name)
  let place ← building (Building.offset address (index base))
  return Value.emitted dtype place (some layout)

private theorem heldAt_ok {name : String} {dtype : DType} {layout : Layout} {base : Nat}
    {result : Value} (done : heldAt name dtype layout base state = .ok result after) :
    ∃ address builder place builder',
      Building.globalAddress name state.builder = .ok address builder ∧
      Building.offset address (index base) builder = .ok place builder' ∧
      after = state.onBuilder builder' ∧ result = Value.emitted dtype place (some layout) := by
  unfold heldAt at done
  obtain ⟨address, _, located, done⟩ := bind_ok.mp done
  obtain ⟨place, _, moved, done⟩ := bind_ok.mp done
  obtain ⟨rfl, rfl⟩ := pure_ok.mp done
  obtain ⟨builder, built, rfl⟩ := building_ok.mp located
  obtain ⟨builder', built', rfl⟩ := building_ok.mp moved
  exact ⟨address, builder, place, builder', built, built', rfl, rfl⟩

/-- A storage that the code takes over stands behind a global that was seeded with it. -/
theorem takeState_ok {hint : String} {value result : Value} {storage base : Nat}
    (emitted : (takeState hint value : Emission σ Value) state = .ok result after)
    (place : value.place = .host storage base) (sound : state.Sound) (faithful : state.Faithful)
    (known : storage < state.heap.next) :
    ∃ (middle : EmissionState σ) (global : Global) (dtype : DType) (layout : Layout)
      (address : Register) (builder : FunctionBuilder) (register : Register)
      (builder' : FunctionBuilder),
      state.Grows middle ∧ (storage, global.name) ∈ middle.states ∧
      (∀ entry ∈ middle.states, entry ∈ state.states ∨ entry.1 = storage) ∧
      global ∈ middle.builder.globals ∧ global.data = state.heap.storage storage ∧
      middle.builder.blockAt = state.builder.blockAt ∧
      middle.builder.current = state.builder.current ∧
      value.ready = .ok layout ∧ value.dtype = .ok dtype ∧
      Building.globalAddress global.name middle.builder = .ok address builder ∧
      Building.offset address (index base) builder = .ok register builder' ∧
      after = middle.onBuilder builder' ∧ result = Value.emitted dtype register (some layout) := by
  unfold takeState at emitted
  obtain ⟨layout, _, checked, emitted⟩ := bind_ok.mp emitted
  obtain ⟨ready, rfl⟩ := ofExcept_ok.mp checked
  obtain ⟨dtype, _, checked', emitted⟩ := bind_ok.mp emitted
  obtain ⟨typed, rfl⟩ := ofExcept_ok.mp checked'
  rw [place] at emitted
  obtain ⟨_, _, looked, emitted⟩ := bind_ok.mp emitted
  obtain ⟨rfl, rfl⟩ := state_ok.mp looked
  cases cached : state.states.lookup storage with
  | some name =>
      rw [cached] at emitted
      have member := mem_of_lookup cached
      obtain ⟨_, listed⟩ := faithful.states storage name member
      obtain ⟨address, builder, register, builder', built, built', rfl, rfl⟩ :=
        heldAt_ok emitted
      exact ⟨state, _, dtype, layout, address, builder, register, builder', .refl sound, member,
        fun entry inside => .inl inside, listed, rfl, rfl, rfl, ready, typed, built, built', rfl,
        rfl⟩
  | none =>
      rw [cached] at emitted
      obtain ⟨name, _, declared, emitted⟩ := bind_ok.mp emitted
      obtain ⟨_, _, changed, emitted⟩ := bind_ok.mp emitted
      obtain ⟨_, built₀, rfl⟩ := building_ok.mp declared
      obtain ⟨rfl, _, rfl, rfl⟩ := Building.stateGlobal_ok.mp built₀
      cases change_ok.mp changed
      have grows := EmissionState.Grows.taking sound hint cached
      obtain ⟨_, listed⟩ := (EmissionState.Keeps.taking sound faithful hint known).faithful.states
        storage (state.builder.nextName hint) (List.mem_cons_self ..)
      obtain ⟨address, builder, register, builder', built, built', rfl, rfl⟩ := heldAt_ok emitted
      refine ⟨state.taking hint storage, _, dtype, layout, address, builder, register, builder',
        grows, List.mem_cons_self .., ?_, listed, rfl, rfl, rfl, ready, typed, built, built', rfl,
        rfl⟩
      rintro entry inside
      rcases List.mem_cons.mp inside with rfl | inside
      · exact .inr rfl
      · exact .inl inside

end Emission

/-- The address of a global points to elements of its type. -/
theorem pointee_globalAddress {builder after : FunctionBuilder} (formed : builder.Formed)
    {global : Global} (listed : global ∈ builder.globals) {register : Register}
    (built : Building.globalAddress global.name builder = .ok register after) :
    after.pointeeType register = .ok global.dtype := by
  apply Building.pointeeType_ok.mpr
  rcases (Building.globalAddress_ok formed).mp built with
    ⟨cached, rfl⟩ | ⟨_, rfl, other, listed', named, rfl⟩
  · have member := formed.addressed _ _ (mem_of_lookup cached)
    rcases formed.prepared _ member with ⟨_, _, _, absurd, _⟩ | ⟨_, other, listed', same, typed⟩
    · cases absurd
    · obtain ⟨rfl, named⟩ := Instruction.address.inj same
      rw [List.inj_on_of_nodup_map formed.apart listed listed' named]
      exact typed
  · rw [← List.inj_on_of_nodup_map formed.apart listed' listed named]
    exact Array.getElem?_push_size

namespace Stage

variable {σ : Type} {stage : Stage} {world : World} {before after : EmissionState σ} {heap : Heap}
  {machine next : State}

/-- The run leaves a register that points into a storage. -/
theorem Leads.point (leads : stage.Leads world before after heap machine next)
    (register : Register) (target : Target) (linked : world.linked target.storage target.allocation)
    (within : target.base ≤ (heap.storage target.storage).size)
    (has : next.frame.Has register (.pointer
      ⟨target.allocation, target.base * (heap.storage target.storage).dtype.width⟩)) :
    stage.Leads (world.point register target linked) before after heap machine next :=
  ⟨leads.runs, leads.untouched, leads.agrees.point linked within has⟩

end Stage

namespace Realizes

variable {ρ σ : Type} {seeds : Nat → Option Nat} {world : World}

theorem layout?_of_ready {value : Value} {layout : Layout} (ready : value.ready = .ok layout) :
    value.layout? = some layout := by
  unfold Value.ready Value.layout at ready
  split at ready
  · cases known : value.layout? with
    | none =>
        rw [known] at ready
        cases ready
    | some placed =>
        rw [known] at ready
        rw [Except.ok.inj ready]
  · cases ready

/-- The value at a register and the one in the storage that it points into. -/
theorem alike_point (register : Register) (target : Target)
    (linked : world.linked target.storage target.allocation) {knowledge : Knowledge}
    (known : world.known target.storage = some knowledge) {host : Value}
    (place : host.place = .host target.storage target.base) {dtype : DType}
    (typed : host.dtype? = some dtype) (same : dtype = knowledge.dtype) :
    Alike (world.point register target linked) host
      (Value.emitted dtype register host.layout?) := by
  refine ⟨typed.symm, rfl, ?_⟩
  rw [typed, place, same]
  exact .pointer register target knowledge (.inl ⟨rfl, rfl⟩) known

theorem writable_point (register : Register) (target : Target)
    (linked : world.linked target.storage target.allocation) {dtype : DType} {size : Nat}
    (known : world.known target.storage = some (.shaped dtype size)) {host code : Value}
    (place : host.place = .host target.storage target.base)
    (place' : code.place = .emitted register) :
    Writable (world.point register target linked) host code :=
  ⟨register, target, dtype, size, place, place', .inl ⟨rfl, rfl⟩, known⟩

theorem state (hint : String) {left right : Value} (kept : Kept seeds world left right) :
    Realizes seeds world (Kernel.state hint left : Host ρ Value)
      (Kernel.state hint right : Emission σ Value)
      fun later answer answer' => Alike later answer answer' ∧ Writable later answer answer' := by
  intro before answer after emitted ready
  obtain ⟨storage, name, base, dtype, size, place, place', seed, typed', typed, layouts, known,
    within⟩ := kept
  obtain ⟨below, _, known'⟩ := ready.fits.seeded name storage seed
  have emits := Emission.takeState_emits (ρ := σ) hint right before answer after emitted ready.sound
  have named : ∀ other, right.InHost other → other < before.heap.next := by
    rintro other ⟨base', place''⟩
    cases place'.symm.trans place''
    exact below
  obtain ⟨grows, keeps⟩ := emits
  have kept' := keeps named ready.faithful
  obtain ⟨middle, global, dtype', layout, address, builder, register, builder', grows', member,
    taken, listed, data, blocks, current, readied, dtyped, built, built', rfl, rfl⟩ :=
    Emission.takeState_ok emitted place' ready.sound ready.faithful below
  have ready' : world.Ready seeds (middle.onBuilder builder') := by
    refine ready.grows grows kept' fun other entry inside => ?_
    rcases taken _ inside with old | rfl
    · exact ready.fits.taken other entry old
    · exact seed ▸ rfl
  -- The place is that of a global with elements of the storage's type.
  cases known.symm.trans known'
  have same : dtype' = (before.heap.storage name).dtype := by
    unfold Value.dtype at dtyped
    rw [typed'] at dtyped
    exact (Except.ok.inj dtyped).symm
  subst same
  have readied' : left.layout? = some layout := layouts ▸ layout?_of_ready readied
  have pointed := pointee_globalAddress grows'.sound.builder listed built
  rw [Global.dtype, data] at pointed
  have line := Building.globalAddress_straight grows'.sound.builder grows'.sound.opened built
  have formed := line.formed grows'.sound.builder
  have line' := Building.offset_straight formed line.opened built'
  have pointed' := pointee_offset formed built' pointed
  rw [← readied']
  have fits : ∀ {wider : World}, wider.Fits seeds (middle.onBuilder builder') → ∀ allocation
      (linked : wider.linked storage allocation), wider.known storage =
        some (.shaped (before.heap.storage name).dtype (before.heap.storage name).size) →
      (wider.point register ⟨storage, base, allocation⟩ linked).Fits seeds
        (middle.onBuilder builder') :=
    fun fits _ linked known => fits.point linked known pointed'
  refine ⟨grows, kept'.heap, ?_, ?_, ?_⟩
  · have linked : (world.link storage 0 (known ▸ rfl)).linked storage 0 := .inl ⟨rfl, rfl⟩
    have known₀ : (world.link storage 0 (known ▸ rfl)).known storage = _ := known
    exact ⟨_, left, (World.later_link 0 (known ▸ rfl)).trans (World.later_point register linked),
      ⟨ready'.sound, ready'.faithful, fits (ready'.fits.link 0 _) 0 linked known₀⟩,
      alike_point register ⟨storage, base, 0⟩ linked known₀ place typed rfl,
      writable_point register ⟨storage, base, 0⟩ linked known₀ place rfl⟩
  · intro stage covers seeded state machine holds answer' state' done
    obtain ⟨rfl, rfl⟩ := Host.pure_ok.mp done
    obtain ⟨index, found, linked⟩ := seeded name global.name storage (covers.states _ member) seed
    have covers' : builder.Grows stage.builder := (line'.steps.grows formed).trans covers.builder
    obtain ⟨aside, index', located, has, _⟩ :=
      Stage.constant_runs grows' blocks current listed built covers' holds
    have listed' := stage.globals _ (covers'.globals _
      ((line.steps.grows grows'.sound.builder).globals _ listed))
    cases position_unique stage.names (Stage.global_at listed' found) located
    obtain ⟨dtype', size'⟩ := holds.agrees.known storage _ known
    have within' : base ≤ (state.heap.storage storage).size := size' ▸ within
    have small : base < 2 ^ 63 :=
      Nat.lt_of_le_of_lt within' (Stage.Held.size_lt (.inl linked) holds.agrees)
    have moved := Machine.moved_nat index 0 base (before.heap.storage name).dtype.width
    rw [← Int64.toInt_ofNat_of_lt small] at moved
    obtain ⟨next, runs, memory, has'⟩ := Stage.offset_runs aside.follows formed
      holds.agrees.holds.size built' covers.builder has rfl pointed moved
    have wider := ((grows'.builder ready.sound).trans
      (line.steps.grows grows'.sound.builder)).size_le
    have computes : stage.Computes before (middle.onBuilder builder') machine next :=
      ⟨aside.trans runs wider, memory⟩
    have leads := (computes.leads holds ready grows).point register ⟨storage, base, index⟩ linked
      within' (by simpa [dtype'] using has')
    exact ⟨_, next, World.later_point register linked, ⟨ready'.sound, ready'.faithful,
      fits ready'.fits index linked known⟩,
      ⟨alike_point register ⟨storage, base, index⟩ linked known place typed rfl,
        writable_point register ⟨storage, base, index⟩ linked known place rfl⟩, leads⟩
  · intro stage _ _ state machine _ cause state' failed
    cases failed

end Realizes
end TensorGraph

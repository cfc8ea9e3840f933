/-
Fresh memory.

Every storage that the host makes while a kernel runs is a new one.  The code
has one slot for each place where memory is obtained, and fills it anew when it
comes there.
-/

import TensorGraph.Proofs.Emission.Operands

namespace TensorGraph

open Code FunctionBuilder Machine
open Optimize (targets)

namespace World

variable {world : World} {storage : Nat}

/-- A new storage of the host, held in an allocation that a register points to. -/
def held (world : World) (storage : Nat) (fresh : world.next ≤ storage) (knowledge : Knowledge)
    (allocation : Nat) (register : Register) : World :=
  ((world.learn storage fresh knowledge).link storage allocation (by simp)).point register
    ⟨storage, 0, allocation⟩ (Or.inl ⟨rfl, rfl⟩)

theorem later_held (fresh : world.next ≤ storage) (knowledge : Knowledge) (allocation : Nat)
    (register : Register) :
    world.Later (world.held storage fresh knowledge allocation register) :=
  ((later_learn fresh knowledge).trans (later_link allocation (by simp))).trans
    (later_point register (Or.inl ⟨rfl, rfl⟩))

theorem known_held (fresh : world.next ≤ storage) (knowledge : Knowledge) (allocation : Nat)
    (register : Register) :
    (world.held storage fresh knowledge allocation register).known storage = some knowledge :=
  known_learn_self fresh knowledge

theorem pointers_held (fresh : world.next ≤ storage) (knowledge : Knowledge) (allocation : Nat)
    (register : Register) :
    (world.held storage fresh knowledge allocation register).pointers register
      ⟨storage, 0, allocation⟩ :=
  .inl ⟨rfl, rfl⟩

theorem Fits.held {σ : Type} {seeds : Nat → Option Nat} {state : EmissionState σ}
    (fits : world.Fits seeds state) (fresh : world.next ≤ storage) {knowledge : Knowledge}
    (allocation : Nat) {register : Register}
    (typed : state.builder.pointeeType register = .ok knowledge.dtype) :
    (world.held storage fresh knowledge allocation register).Fits seeds state := by
  have known : ((world.learn storage fresh knowledge).known storage).isSome := by simp
  have linked : ((world.learn storage fresh knowledge).link storage allocation known).linked
      (Target.mk storage 0 allocation).storage (Target.mk storage 0 allocation).allocation :=
    Or.inl ⟨rfl, rfl⟩
  exact ((fits.learn fresh knowledge).link allocation known).point linked
    (known_learn_self fresh knowledge) typed

/-- The value in a new storage and the one at the register stand for each other. -/
theorem alike_held (fresh : world.next ≤ storage) (knowledge : Knowledge) (allocation : Nat)
    (register : Register) (layout? : Option Layout) :
    Alike (world.held storage fresh knowledge allocation register)
      { dtype? := some knowledge.dtype
        layout? := layout?
        place := .host storage 0 } (Value.emitted knowledge.dtype register layout?) :=
  ⟨rfl, rfl, .pointer register ⟨storage, 0, allocation⟩ knowledge
    (pointers_held fresh knowledge allocation register)
    (known_held fresh knowledge allocation register)⟩

theorem writable_held (fresh : world.next ≤ storage) (dtype : DType) (size allocation : Nat)
    (register : Register) (layout? : Option Layout) :
    Writable (world.held storage fresh (.shaped dtype size) allocation register)
      { dtype? := some dtype
        layout? := layout?
        place := .host storage 0 } (Value.emitted dtype register layout?) :=
  ⟨register, ⟨storage, 0, allocation⟩, dtype, size, rfl, rfl,
    pointers_held fresh _ allocation register, known_held fresh _ allocation register⟩

/-- A new storage that the emitting host has too. -/
def shared (world : World) (storage : Nat) (fresh : world.next ≤ storage) (data : Storage)
    (name : Nat) : World :=
  (world.learn storage fresh (.fixed data)).name name storage

theorem later_shared (fresh : world.next ≤ storage) (data : Storage) (name : Nat) :
    world.Later (world.shared storage fresh data name) :=
  (later_learn fresh _).trans (later_name name storage)

theorem alike_shared (fresh : world.next ≤ storage) (data : Storage) (name : Nat)
    (layout? : Option Layout) :
    Alike (world.shared storage fresh data name)
      { dtype? := some data.dtype
        layout? := layout?
        place := .host storage 0 }
      { dtype? := some data.dtype
        layout? := layout?
        place := .host name 0 } :=
  ⟨rfl, rfl, .constant storage 0 name data (.inl ⟨rfl, rfl⟩) (known_learn_self fresh _)
    (Nat.zero_le _)⟩

end World

/-! ### Storages of both hosts -/

section Shared

variable {ρ σ : Type} {world : World} {seeds : Nat → Option Nat} {before : EmissionState σ}

theorem EmissionState.keeps_add (state : EmissionState σ) (sound : state.Sound)
    (faithful : state.Faithful) (data : Storage) :
    state.Grows { state with heap := state.heap.add data } ∧
      state.Keeps { state with heap := state.heap.add data } := by
  have adds : Emission.Emits (fun _ => False) (Emission.onHeap (Heap.allocate data) :
      Emission σ Nat) := by
    refine .onHeap ?_
    rintro heap answer after ⟨⟩
    exact .add heap data
  obtain ⟨grows, keeps⟩ := adds state state.heap.next _ rfl sound
  exact ⟨grows, keeps (fun _ absurd => absurd.elim) faithful⟩

/-- The world with a storage that both hosts have added. -/
theorem World.Ready.shared (ready : world.Ready seeds before) {storage : Nat}
    (fresh : world.next ≤ storage) (data : Storage) :
    (world.shared storage fresh data before.heap.next).Ready seeds
      { before with heap := before.heap.add data } := by
  obtain ⟨grows, keeps⟩ := EmissionState.keeps_add before ready.sound ready.faithful data
  have onward := ready.grows grows keeps ready.fits.taken
  refine ⟨onward.sound, onward.faithful, (onward.fits.learn fresh (.fixed data)).name ?_ ?_ ?_⟩
  · change before.heap.next < (before.heap.add data).next
    rw [Heap.next_add]
    exact Nat.lt_succ_self _
  · change _ = some (Knowledge.fixed ((before.heap.add data).storage before.heap.next))
    rw [Heap.storage_add_self]
    exact World.known_learn_self fresh _
  · by_contra seeded
    obtain ⟨other, seed⟩ := Option.ne_none_iff_exists'.mp seeded
    exact Nat.lt_irrefl _ (ready.fits.seeded before.heap.next other seed).1

end Shared

/-! ### Slots -/

namespace Machine

/-- Bytes written over the whole of an image take its place. -/
theorem overwrite_whole {image : Array UInt8} {bytes : List UInt8}
    (whole : bytes.length = image.size) : Memory.overwrite image 0 bytes = bytes.toArray := by
  apply Array.toList_inj.mp
  rw [overwrite_eq image 0 bytes (by omega), List.take_zero, List.nil_append, Nat.zero_add,
    List.drop_eq_nil_of_le (by rw [Array.length_toList]; omega), List.append_nil]

theorem getElem?_put_whole {memory : Memory} {allocation : Nat} {image : Array UInt8}
    (found : memory.allocations[allocation]? = some image) {bytes : List UInt8}
    (whole : bytes.length = image.size) :
    (memory.put ⟨allocation, 0⟩ bytes).allocations[allocation]? = some bytes.toArray := by
  simp only [Memory.put, Array.getElem?_modify, if_true, found, Option.map_some,
    overwrite_whole whole]

theorem check_whole {memory : Memory} {allocation : Nat} {image : Array UInt8}
    (found : memory.allocations[allocation]? = some image) {bytes : Nat}
    (whole : bytes = image.size) : memory.check ⟨allocation, 0⟩ bytes = .ok () := by
  rw [Memory.check, found]
  exact if_pos (by rw [Nat.zero_add, whole])

end Machine

namespace Stage

variable {stage : Stage} {world : World} {slot : Nat} {heap : Heap}
  {registers : Array (Option Slot)} {memory : Memory}

/-- A new storage of the host that the memory of the next register holds. -/
theorem Agrees.held (agrees : stage.Agrees world slot heap registers memory) {data : Storage}
    (fresh : world.next ≤ heap.next) {knowledge : Knowledge} (describes : knowledge.Describes data)
    {dtype : DType} {count : Nat} (member : .alloca slot dtype count ∈ stage.builder.prologue)
    (holds : memory.allocations[stage.place slot]? = some data.image) :
    stage.Agrees (world.held heap.next fresh knowledge (stage.place slot) slot) (slot + 1)
      (heap.add data) registers memory := by
  have grown := agrees.heap_grows (.add heap data)
  have added := Heap.storage_add_self heap data
  have learned := grown.learn fresh (Heap.next_add heap data ▸ Nat.lt_succ_self _)
    (added.symm ▸ describes)
  have unlinked : ∀ other, ¬ (world.learn heap.next fresh knowledge).linked heap.next other := by
    intro other linked
    have known := world.bound heap.next other linked
    rw [world.within heap.next fresh] at known
    cases known
  have linked := learned.link_slot (by simp) unlinked member (added.symm ▸ holds)
  refine linked.point _ (Nat.zero_le _) ?_
  rw [Nat.zero_mul]
  exact (agrees.holds.slots slot dtype count member).1

/-- No storage is held in the memory of the next register. -/
theorem Agrees.slot_free (agrees : stage.Agrees world slot heap registers memory)
    {dtype : DType} {count : Nat} (member : .alloca slot dtype count ∈ stage.builder.prologue)
    (storage : Nat) : ¬ world.linked storage (stage.place slot) := fun linked =>
  Nat.lt_irrefl _ (agrees.born storage _ linked slot dtype count member rfl)

/-- The memory of a register is no global. -/
theorem slot_away {dtype : DType} {count : Nat}
    (member : .alloca slot dtype count ∈ stage.builder.prologue) (global : Global)
    (found : stage.module.globals[stage.place slot]? = some global) : global.isMutable = true :=
  absurd (List.getElem?_eq_some_iff.mp found).1 (Nat.not_lt.mpr (stage.above slot dtype count member))

/-- The memory of the next register is filled, and the host has a new storage. -/
theorem Agrees.filled (agrees : stage.Agrees world slot heap registers memory) {data : Storage}
    (fresh : world.next ≤ heap.next) {knowledge : Knowledge} (describes : knowledge.Describes data)
    (member : .alloca slot data.dtype data.size ∈ stage.builder.prologue) :
    stage.Agrees (world.held heap.next fresh knowledge (stage.place slot) slot) (slot + 1)
      (heap.add data) registers (memory.put ⟨stage.place slot, 0⟩ data.bytes) := by
  obtain ⟨_, image, found, large⟩ := agrees.holds.slots slot _ _ member
  have whole : data.bytes.length = image.size := by
    rw [Storage.length_bytes, large, Nat.mul_comm]
  have aside : stage.Agrees world slot heap registers
      (memory.put ⟨stage.place slot, 0⟩ data.bytes) :=
    agrees.put_aside (agrees.slot_free member) (slot_away member) data.bytes
  exact aside.held fresh describes member (getElem?_put_whole found whole)

/-- Filling the memory of a register leaves that of later ones alone. -/
theorem untouched_slot {size : Nat} (below : slot < size) {dtype : DType} {count : Nat}
    (member : .alloca slot dtype count ∈ stage.builder.prologue) (memory : Memory)
    (bytes : List UInt8) :
    stage.Untouched size memory (memory.put ⟨stage.place slot, 0⟩ bytes) := by
  refine .put memory ?_ bytes
  intro register dtype' count' member' same
  rw [stage.apart register slot dtype' dtype count' count member' member same]
  exact below

end Stage

/-! ### What both hosts add -/

section Realized

variable {ρ σ α : Type} {world : World} {seeds : Nat → Option Nat}
  {before middle after : EmissionState σ}

/-- The emitting host adds a storage, and the running host adds the same.  `make` is the answer
for the name of that storage. -/
theorem Realized.shared {host : Host ρ α} (data : Storage) (layout? : Option Layout)
    (make : Nat → α) (value : α → Value)
    (handle : ∀ name, value (make name) =
      { dtype? := some data.dtype
        layout? := layout?
        place := .host name 0 })
    (ready : world.Ready seeds before)
    (adds : ∀ (state : HostState ρ) answer' state', world.Describes state.heap →
      host state = .ok answer' state' →
        state'.heap = state.heap.add data ∧ answer' = make state.heap.next)
    (calm : ∀ (state : HostState ρ) cause state', world.Describes state.heap →
      host state = .error (.error cause) state' → cause.isArithmetic = false) :
    Realized seeds world host before (make before.heap.next)
      { before with heap := before.heap.add data }
      fun later answer answer' => Alike later (value answer) (value answer') := by
  obtain ⟨grows, keeps⟩ := EmissionState.keeps_add before ready.sound ready.faithful data
  refine ⟨grows, keeps.heap, ?_, ?_, ?_⟩
  · refine ⟨_, make world.next, World.later_shared (Nat.le_refl _) data _,
      ready.shared (Nat.le_refl _) data, ?_⟩
    rw [handle, handle]
    exact World.alike_shared _ data _ layout?
  · intro stage _ _ state machine holds answer' state' done
    obtain ⟨heap, rfl⟩ := adds state answer' state' holds.agrees.known done
    have fresh := holds.agrees.next
    refine ⟨_, machine, World.later_shared fresh data _, ready.shared fresh data, ?_,
      .refl holds.follows, .refl _ _, ?_⟩
    · rw [handle, handle]
      exact World.alike_shared fresh data _ layout?
    rw [heap]
    have grown := holds.agrees.heap_grows (.add state.heap data)
    have described : (Knowledge.fixed data).Describes
        ((state.heap.add data).storage state.heap.next) := Heap.storage_add_self state.heap data
    exact (grown.learn fresh (Heap.next_add state.heap data ▸ Nat.lt_succ_self _) described).name
      _ _
  · intro stage _ _ state machine holds cause state' failed arithmetic
    rw [calm state cause state' holds.agrees.known failed] at arithmetic
    cases arithmetic

/-! ### What the code computes -/

/-- The code fills a slot with what the running host puts into a new storage. -/
theorem Realized.filled {host : Host ρ Value} {dtype : DType} (count : Nat)
    {layout? : Option Layout}
    (grows : before.Grows after) (heap : before.heap.Grows after.heap)
    (ready : world.Ready seeds after) {slot : Register}
    (typed : after.builder.pointeeType slot = .ok dtype)
    (runs : ∀ stage : Stage, stage.Covers after → ∀ (state : HostState ρ) (machine : State),
      stage.Matches world before state.heap machine → ∀ answer' state',
      host state = .ok answer' state' → ∃ next,
        answer' = { dtype? := some dtype
                    layout? := layout?
                    place := .host state.heap.next 0 } ∧
        stage.Runs before.builder after.builder machine next ∧
        stage.Untouched after.builder.size machine.memory next.memory ∧
        ∀ fresh : world.next ≤ state.heap.next,
          stage.Agrees (world.held state.heap.next fresh (.shaped dtype count)
            (stage.place slot) slot) after.builder.size state'.heap next.frame.registers
            next.memory)
    (breaks : ∀ stage : Stage, stage.Covers after → ∀ (state : HostState ρ) (machine : State),
      stage.Matches world before state.heap machine → ∀ cause state',
      host state = .error (.error cause) state' → cause.isArithmetic = true →
        state'.heap = state.heap ∧
          ∃ final, Breaks stage.module machine cause final ∧ final.memory = machine.memory) :
    Realized seeds world host before (Value.emitted dtype slot layout?) after
      fun later answer answer' => Alike later answer answer' ∧ Writable later answer answer' := by
  have ready_held : ∀ {storage : Nat} (fresh : world.next ≤ storage) (allocation : Nat),
      (world.held storage fresh (.shaped dtype count) allocation slot).Ready seeds after :=
    fun fresh allocation => ⟨ready.sound, ready.faithful, ready.fits.held fresh allocation typed⟩
  refine ⟨grows, heap, ?_, ?_, ?_⟩
  · exact ⟨_, _, World.later_held (Nat.le_refl _) (.shaped dtype count) 0 slot,
      ready_held (Nat.le_refl _) 0, World.alike_held _ (.shaped dtype count) 0 slot layout?,
      World.writable_held _ dtype count 0 slot layout?⟩
  · intro stage covers _ state machine holds answer' state' done
    obtain ⟨next, rfl, run, untouched, agrees⟩ :=
      runs stage covers state machine holds answer' state' done
    have fresh := holds.agrees.next
    exact ⟨_, next, World.later_held fresh (.shaped dtype count) (stage.place slot) slot,
      ready_held fresh _, ⟨World.alike_held fresh (.shaped dtype count) _ slot layout?,
        World.writable_held fresh dtype count _ slot layout?⟩, run, untouched, agrees fresh⟩
  · intro stage covers _ state machine holds cause state' failed arithmetic
    obtain ⟨heap, final, broken, memory⟩ :=
      breaks stage covers state machine holds cause state' failed arithmetic
    refine ⟨final, broken, ?_⟩
    rw [heap, memory]
    exact holds.agrees.shows

end Realized

/-! ### Clearing memory -/

namespace Emission

variable {σ : Type} {state after : EmissionState σ}

/-- What clears memory is a constant that holds zeros. -/
theorem clear_ok {address : Register} {dtype : DType} {count : Nat}
    (emitted : (clear address dtype count : Emission σ Unit) state = .ok () after)
    (sound : state.Sound) :
    ∃ (middle : EmissionState σ) (global : Global), state.Grows middle ∧
      global ∈ middle.builder.globals ∧ global.isMutable = false ∧
      global.data = Storage.zeros dtype count ∧
      middle.builder.blockAt = state.builder.blockAt ∧
      middle.builder.current = state.builder.current ∧
      (do let source ← building (Building.globalAddress global.name)
          building (Building.move address source (count * dtype.width)) : Emission σ Unit) middle =
        .ok () after := by
  obtain ⟨_, _, looked, emitted⟩ := bind_ok.mp emitted
  obtain ⟨rfl, rfl⟩ := state_ok.mp looked
  cases cached : state.zeros.lookup (dtype, count) with
  | some name =>
      rw [cached] at emitted
      have held := sound.zeros dtype count name (mem_of_lookup cached)
      exact ⟨state, _, .refl sound, held, rfl, rfl, rfl, rfl, emitted⟩
  | none =>
      rw [cached] at emitted
      obtain ⟨name, _, declared, emitted⟩ := bind_ok.mp emitted
      obtain ⟨_, _, changed, emitted⟩ := bind_ok.mp emitted
      obtain ⟨builder, built, rfl⟩ := building_ok.mp declared
      obtain ⟨rfl, rfl⟩ := Building.global_ok.mp built
      cases change_ok.mp changed
      have grows := EmissionState.Grows.declaring sound "zeros" (Storage.zeros dtype count) false
      have listed := sound.mem_declaring "zeros" (Storage.zeros dtype count) false
      have grows' := EmissionState.Grows.clearing grows.sound listed
      exact ⟨_, _, grows.trans grows', listed, rfl, rfl, rfl, rfl, emitted⟩

end Emission

end TensorGraph

/-
How worlds change.

Each way in which a world grows comes with the two facts that it needs: the
emission still fits, and the host and the machine still agree.  What changes
memory comes with the same facts for the world as it is.
-/

import TensorGraph.Proofs.Emission.Running
import TensorGraph.Proofs.Emission.World

namespace TensorGraph

open Code FunctionBuilder Machine
open Optimize (targets)

/-! ### The emission -/

namespace World.Fits

variable {ρ : Type} {world later : World} {seeds : Nat → Option Nat}
  {state after : EmissionState ρ}

/-- The emission goes on, and takes over no storage. -/
theorem grows (fits : world.Fits seeds state) (sound : state.Sound) (grows : state.Grows after)
    (heap : state.heap.Grows after.heap)
    (taken : ∀ name global, (name, global) ∈ after.states → (seeds name).isSome) :
    world.Fits seeds after where
  pointers := by
    intro register target points
    obtain ⟨_, knowledge, known, typed⟩ := fits.pointers register target points
    have typed' := (grows.builder sound).types _ _ typed
    exact ⟨(Array.getElem?_eq_some_iff.mp typed').1, knowledge, known, typed'⟩
  constants := by
    intro name storage named
    obtain ⟨below, known⟩ := fits.constants name storage named
    rw [heap.kept name below]
    exact ⟨Nat.lt_of_lt_of_le below heap.next, known⟩
  taken := taken
  seeded := by
    intro name storage seed
    obtain ⟨below, apart, known⟩ := fits.seeded name storage seed
    rw [heap.kept name below]
    exact ⟨Nat.lt_of_lt_of_le below heap.next, apart, known⟩

theorem learn (fits : world.Fits seeds state) {storage : Nat} (fresh : world.next ≤ storage)
    (knowledge : Knowledge) : (world.learn storage fresh knowledge).Fits seeds state := by
  have growing := later_learn fresh knowledge
  constructor
  · intro register target points
    obtain ⟨below, knowledge', known, typed⟩ := fits.pointers register target points
    exact ⟨below, knowledge', growing.known _ _ known, typed⟩
  · intro name other named
    obtain ⟨below, known⟩ := fits.constants name other named
    exact ⟨below, growing.known _ _ known⟩
  · exact fits.taken
  · intro name other seed
    obtain ⟨below, apart, known⟩ := fits.seeded name other seed
    exact ⟨below, apart, growing.known _ _ known⟩

theorem link (fits : world.Fits seeds state) {storage : Nat} (allocation : Nat)
    (known : (world.known storage).isSome) :
    (world.link storage allocation known).Fits seeds state :=
  ⟨fits.pointers, fits.constants, fits.taken, fits.seeded⟩

theorem point (fits : world.Fits seeds state) {register : Register} {target : Target}
    (linked : world.linked target.storage target.allocation) {knowledge : Knowledge}
    (known : world.known target.storage = some knowledge)
    (typed : state.builder.pointeeType register = .ok knowledge.dtype) :
    (world.point register target linked).Fits seeds state := by
  refine ⟨?_, fits.constants, fits.taken, fits.seeded⟩
  rintro other place (⟨rfl, rfl⟩ | points)
  · have typed' := Building.pointeeType_ok.mp typed
    exact ⟨(Array.getElem?_eq_some_iff.mp typed').1, knowledge, known, typed'⟩
  · exact fits.pointers other place points

theorem name (fits : world.Fits seeds state) {name storage : Nat} (below : name < state.heap.next)
    (known : world.known storage = some (.fixed (state.heap.storage name)))
    (apart : seeds name = none) : (world.name name storage).Fits seeds state := by
  refine ⟨fits.pointers, ?_, fits.taken, ?_⟩
  · rintro other place (⟨rfl, rfl⟩ | named)
    · exact ⟨below, known⟩
    · exact fits.constants other place named
  · intro other place seed
    obtain ⟨below', apart', known'⟩ := fits.seeded other place seed
    refine ⟨below', ?_, known'⟩
    rintro another (⟨rfl, _⟩ | named)
    · rw [apart] at seed
      cases seed
    · exact apart' another named

/-- What holds in a world holds in one that it grew from. -/
theorem narrow (fits : later.Fits seeds after) (before : world.Fits seeds state)
    (sound : state.Sound) (grows : state.Grows after) (heap : state.heap.Grows after.heap) :
    world.Fits seeds after :=
  before.grows sound grows heap fits.taken

end World.Fits

theorem World.Ready.grows {ρ : Type} {world : World} {seeds : Nat → Option Nat}
    {state after : EmissionState ρ} (ready : world.Ready seeds state) (grows : state.Grows after)
    (keeps : state.Keeps after)
    (taken : ∀ name global, (name, global) ∈ after.states → (seeds name).isSome) :
    world.Ready seeds after :=
  ⟨grows.sound, keeps.faithful, ready.fits.grows ready.sound grows keeps.heap taken⟩

/-! ### The machine -/

namespace Stage

variable {stage : Stage} {world later : World} {size : Nat} {heap : Heap}
  {registers : Array (Option Slot)} {memory : Memory}

theorem mem_targets_alloca {register : Register} {dtype : DType} {count : Nat}
    (member : .alloca register dtype count ∈ stage.builder.prologue) :
    register ∈ targets stage.builder.prologue :=
  List.mem_filterMap.mpr ⟨_, member, rfl⟩

theorem mem_targets_address {register : Register} {name : String}
    (member : .address register name ∈ stage.builder.prologue) :
    register ∈ targets stage.builder.prologue :=
  List.mem_filterMap.mpr ⟨_, member, rfl⟩

/-- New registers do not touch what the prologue set up. -/
theorem Holds.defining (holds : stage.Holds registers memory) {after : Array (Option Slot)}
    (room : after.size = registers.size)
    (kept : ∀ register ∈ targets stage.builder.prologue,
      after[register]? = registers[register]?) : stage.Holds after memory where
  size := room.trans holds.size
  slots := by
    intro register dtype count member
    rw [kept register (mem_targets_alloca member)]
    exact holds.slots register dtype count member
  addresses := by
    intro register name member
    rw [kept register (mem_targets_address member)]
    exact holds.addresses register name member
  constants := holds.constants
  addressable := holds.addressable

/-- A write that stays away from the constants. -/
theorem Holds.put (holds : stage.Holds registers memory) {pointer : Pointer}
    (away : ∀ global : Global, stage.module.globals[pointer.allocation]? = some global →
      global.isMutable = true) (bytes : List UInt8) :
    stage.Holds registers (memory.put pointer bytes) := by
  have sizes : ∀ (allocation : Nat) (image : Array UInt8),
      (memory.put pointer bytes).allocations[allocation]? = some image →
        ∃ before, memory.allocations[allocation]? = some before ∧ before.size = image.size := by
    intro allocation image found
    have same := congrArg (fun sizes => sizes[allocation]?) (Memory.map_size_put memory pointer bytes)
    simp only [Array.getElem?_map, found, Option.map_some] at same
    cases found' : memory.allocations[allocation]? with
    | none =>
        rw [found'] at same
        cases same
    | some before =>
        rw [found'] at same
        exact ⟨before, rfl, (Option.some.inj same).symm⟩
  constructor
  · exact holds.size
  · intro register dtype count member
    obtain ⟨has, image, found, large⟩ := holds.slots register dtype count member
    refine ⟨has, ?_⟩
    have same := congrArg (fun sizes => sizes[stage.place register]?)
      (Memory.map_size_put memory pointer bytes)
    simp only [Array.getElem?_map, found, Option.map_some] at same
    obtain ⟨image', found', same'⟩ := Option.map_eq_some_iff.mp same
    exact ⟨image', found', same'.trans large⟩
  · exact holds.addresses
  · intro index global found fixed
    have different : index ≠ pointer.allocation := by
      rintro rfl
      rw [away global found] at fixed
      cases fixed
    rw [getElem?_put_of_ne different]
    exact holds.constants index global found fixed
  · intro allocation image found
    obtain ⟨before, found', same⟩ := sizes allocation image found
    exact same ▸ holds.addressable allocation before found'

namespace Agrees

/-- New registers, with the memory as it is. -/
theorem defining (agrees : stage.Agrees world size heap registers memory) {more : Nat}
    (wider : size ≤ more) {after : Array (Option Slot)} (room : after.size = registers.size)
    (known : ∀ register target, world.pointers register target → register < size)
    (kept : ∀ register, register < size ∨ register ∈ targets stage.builder.prologue →
      after[register]? = registers[register]?) :
    stage.Agrees world more heap after memory where
  holds := agrees.holds.defining room fun register member => kept register (.inr member)
  next := agrees.next
  known := agrees.known
  linked := agrees.linked
  only := agrees.only
  pointers := by
    intro register target points
    rw [kept register (.inl (known register target points))]
    exact agrees.pointers register target points
  born := fun storage allocation linked register dtype count member same =>
    Nat.lt_of_lt_of_le (agrees.born storage allocation linked register dtype count member same)
      wider

/-- A storage that is known is not touched when others are added. -/
theorem heap_grows (agrees : stage.Agrees world size heap registers memory) {after : Heap}
    (grows : heap.Grows after) : stage.Agrees world size after registers memory := by
  have kept : ∀ storage, (world.known storage).isSome →
      after.storage storage = heap.storage storage := by
    intro storage known
    refine grows.kept storage (Nat.lt_of_lt_of_le ?_ agrees.next)
    by_contra above
    rw [world.within storage (Nat.le_of_not_lt above)] at known
    cases known
  constructor
  · exact agrees.holds
  · exact Nat.le_trans agrees.next grows.next
  · intro storage knowledge known
    rw [kept storage (known ▸ rfl)]
    exact agrees.known storage knowledge known
  · intro storage allocation linked
    rw [kept storage (world.bound storage allocation linked)]
    exact agrees.linked storage allocation linked
  · exact agrees.only
  · intro register target points
    rw [kept target.storage (world.bound _ _ (world.pointed register target points))]
    exact agrees.pointers register target points
  · exact agrees.born

theorem learn (agrees : stage.Agrees world size heap registers memory) {storage : Nat}
    (fresh : world.next ≤ storage) (below : storage < heap.next) {knowledge : Knowledge}
    (describes : knowledge.Describes (heap.storage storage)) :
    stage.Agrees (world.learn storage fresh knowledge) size heap registers memory := by
  constructor
  · exact agrees.holds
  · exact below
  · intro other knowledge' known
    simp only [World.learn] at known
    split at known
    case isTrue same =>
      cases known
      exact same ▸ describes
    case isFalse => exact agrees.known other knowledge' known
  · exact agrees.linked
  · intro other dtype size' allocation known linked
    have different : other ≠ storage := by
      rintro rfl
      have held := world.bound other allocation linked
      rw [world.within other fresh] at held
      cases held
    simp only [World.learn, if_neg different] at known
    exact agrees.only other dtype size' allocation known linked
  · exact agrees.pointers
  · exact agrees.born

theorem point (agrees : stage.Agrees world size heap registers memory) {register : Register}
    {target : Target} (linked : world.linked target.storage target.allocation)
    (within : target.base ≤ (heap.storage target.storage).size)
    (has : registers[register]? = some (some (.pointer
      ⟨target.allocation, target.base * (heap.storage target.storage).dtype.width⟩))) :
    stage.Agrees (world.point register target linked) size heap registers memory := by
  refine ⟨agrees.holds, agrees.next, agrees.known, agrees.linked, agrees.only, ?_, agrees.born⟩
  rintro other place (⟨rfl, rfl⟩ | points)
  · exact ⟨within, has⟩
  · exact agrees.pointers other place points

theorem name (agrees : stage.Agrees world size heap registers memory) (name storage : Nat) :
    stage.Agrees (world.name name storage) size heap registers memory :=
  ⟨agrees.holds, agrees.next, agrees.known, agrees.linked, agrees.only, agrees.pointers,
    agrees.born⟩

/-- A constant of the module holds what a storage of the host holds. -/
theorem link_constant (agrees : stage.Agrees world size heap registers memory) {storage : Nat}
    {data : Storage} (known : world.known storage = some (.fixed data)) {index : Nat}
    {global : Global} (found : stage.module.globals[index]? = some global)
    (fixed : global.isMutable = false) (same : global.data = data) :
    stage.Agrees (world.link storage index (known ▸ rfl)) size heap registers memory := by
  have equal : heap.storage storage = data := agrees.known storage _ known
  constructor
  · exact agrees.holds
  · exact agrees.next
  · exact agrees.known
  · rintro other allocation (⟨rfl, rfl⟩ | linked)
    · rw [equal, ← same]
      exact agrees.holds.constants _ _ found fixed
    · exact agrees.linked other allocation linked
  · rintro other dtype size' allocation shaped (⟨rfl, rfl⟩ | linked)
    · cases known.symm.trans shaped
    · obtain ⟨alone, single, free⟩ := agrees.only other dtype size' allocation shaped linked
      refine ⟨?_, ?_, free⟩
      · rintro another (⟨rfl, rfl⟩ | linked')
        · rw [free global found] at fixed
          cases fixed
        · exact alone another linked'
      · rintro another (⟨rfl, rfl⟩ | linked')
        · cases known.symm.trans shaped
        · exact single another linked'
  · exact agrees.pointers
  · rintro other allocation (⟨rfl, rfl⟩ | linked) register dtype count member same
    · have above := stage.above register dtype count member
      rw [same] at above
      exact absurd (List.getElem?_eq_some_iff.mp found).1 (Nat.not_lt.mpr above)
    · exact agrees.born other allocation linked register dtype count member same

/-- The memory of the next register holds what a new storage of the host holds. -/
theorem link_slot (agrees : stage.Agrees world size heap registers memory) {storage : Nat}
    (known : (world.known storage).isSome) (unlinked : ∀ other, ¬ world.linked storage other)
    {dtype : DType} {count : Nat}
    (member : .alloca size dtype count ∈ stage.builder.prologue)
    (holds : memory.allocations[stage.place size]? = some (heap.storage storage).image) :
    stage.Agrees (world.link storage (stage.place size) known) (size + 1) heap registers
      memory := by
  have free : ∀ other, ¬ world.linked other (stage.place size) := fun other linked =>
    Nat.lt_irrefl _ (agrees.born other _ linked size dtype count member rfl)
  constructor
  · exact agrees.holds
  · exact agrees.next
  · exact agrees.known
  · rintro other allocation (⟨rfl, rfl⟩ | linked)
    · exact holds
    · exact agrees.linked other allocation linked
  · rintro other dtype' size' allocation shaped (⟨rfl, rfl⟩ | linked)
    · refine ⟨?_, ?_, ?_⟩
      · rintro another (⟨rfl, _⟩ | linked')
        · rfl
        · exact (free another linked').elim
      · rintro another (⟨_, rfl⟩ | linked')
        · rfl
        · exact (unlinked another linked').elim
      · intro global found
        exact absurd (List.getElem?_eq_some_iff.mp found).1
          (Nat.not_lt.mpr (stage.above size dtype count member))
    · obtain ⟨alone, single, open'⟩ := agrees.only other dtype' size' allocation shaped linked
      refine ⟨?_, ?_, open'⟩
      · rintro another (⟨rfl, rfl⟩ | linked')
        · exact (free other linked).elim
        · exact alone another linked'
      · rintro another (⟨rfl, rfl⟩ | linked')
        · exact (unlinked allocation linked).elim
        · exact single another linked'
  · exact agrees.pointers
  · rintro other allocation (⟨rfl, rfl⟩ | linked) register dtype' count' member' same
    · rw [stage.apart register size dtype' dtype count' count member' member same]
      exact Nat.lt_succ_self _
    · exact Nat.lt_succ_of_lt
        (agrees.born other allocation linked register dtype' count' member' same)

/-- A write into memory that holds nothing of the host. -/
theorem put_aside (agrees : stage.Agrees world size heap registers memory) {pointer : Pointer}
    (free : ∀ storage, ¬ world.linked storage pointer.allocation)
    (away : ∀ global : Global, stage.module.globals[pointer.allocation]? = some global →
      global.isMutable = true) (bytes : List UInt8) :
    stage.Agrees world size heap registers (memory.put pointer bytes) := by
  refine ⟨agrees.holds.put away bytes, agrees.next, agrees.known, ?_, agrees.only,
    agrees.pointers, agrees.born⟩
  intro storage allocation linked
  have different : allocation ≠ pointer.allocation := by
    rintro rfl
    exact free storage linked
  rw [getElem?_put_of_ne different]
  exact agrees.linked storage allocation linked

/-- A write that the host and the machine both make. -/
theorem write (agrees : stage.Agrees world size heap registers memory) {storage count : Nat}
    {dtype : DType} (shaped : world.known storage = some (.shaped dtype count))
    {allocation : Nat} (linked : world.linked storage allocation) {data : Storage}
    (typed : data.dtype = dtype) (sized : data.size = count) {offset : Nat} {bytes : List UInt8}
    (holds : (memory.put ⟨allocation, offset⟩ bytes).allocations[allocation]? =
      some data.image) :
    stage.Agrees world size (heap.replace storage data) registers
      (memory.put ⟨allocation, offset⟩ bytes) := by
  have below : storage < heap.next := by
    refine Nat.lt_of_lt_of_le ?_ agrees.next
    by_contra above
    rw [world.within storage (Nat.le_of_not_lt above)] at shaped
    cases shaped
  obtain ⟨alone, single, free⟩ := agrees.only storage dtype count allocation shaped linked
  have written : (heap.replace storage data).storage storage = data :=
    Heap.storage_replace_self below data
  have others : ∀ other, other ≠ storage →
      (heap.replace storage data).storage other = heap.storage other :=
    fun other different => Heap.storage_replace_of_ne different data
  have alike : ∀ other, (heap.replace storage data).storage other = heap.storage other ∨
      (other = storage ∧ (heap.replace storage data).storage other = data) := by
    intro other
    by_cases same : other = storage
    · exact .inr ⟨same, same ▸ written⟩
    · exact .inl (others other same)
  have described := agrees.known storage _ shaped
  constructor
  · exact agrees.holds.put free bytes
  · rw [Heap.next_replace]
    exact agrees.next
  · intro other knowledge known
    by_cases same : other = storage
    · subst same
      cases shaped.symm.trans known
      rw [written]
      exact ⟨typed, sized⟩
    · rw [others other same]
      exact agrees.known other knowledge known
  · intro other allocation' linked'
    by_cases same : other = storage
    · subst same
      rw [single allocation' linked', written]
      exact holds
    · have different : allocation' ≠ allocation := by
        rintro rfl
        exact same (alone other linked')
      rw [others other same, getElem?_put_of_ne different]
      exact agrees.linked other allocation' linked'
  · exact agrees.only
  · intro register target points
    have held := agrees.pointers register target points
    rcases alike target.storage with same | ⟨same, now⟩
    · rw [same]
      exact held
    · rw [now, typed, sized]
      rw [same, described.1, described.2] at held
      exact held
  · exact agrees.born

/-- What holds in a world holds in one that it grew from. -/
theorem narrow (agrees : stage.Agrees later size heap registers memory)
    (growing : world.Later later) {less : Nat}
    (born : ∀ storage allocation, world.linked storage allocation →
      ∀ register dtype count, .alloca register dtype count ∈ stage.builder.prologue →
        stage.place register = allocation → register < less) :
    stage.Agrees world less heap registers memory where
  holds := agrees.holds
  next := Nat.le_trans growing.next agrees.next
  known := fun storage knowledge known =>
    agrees.known storage knowledge (growing.known storage knowledge known)
  linked := fun storage allocation linked =>
    agrees.linked storage allocation (growing.linked storage allocation linked)
  only := by
    intro storage dtype size' allocation known linked
    obtain ⟨alone, single, free⟩ := agrees.only storage dtype size' allocation
      (growing.known _ _ known) (growing.linked _ _ linked)
    exact ⟨fun other linked' => alone other (growing.linked _ _ linked'),
      fun other linked' => single other (growing.linked _ _ linked'), free⟩
  pointers := fun register target points =>
    agrees.pointers register target (growing.pointers register target points)
  born := born

end Agrees
end Stage
end TensorGraph

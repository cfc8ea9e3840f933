/-
What a host run and a code run have in common.

A world relates the two runs of one kernel at one moment.  It says what is known
of the storages of the host, which allocations of the machine hold the same
contents, which registers point into them, and which storages the code takes as
constants.  Worlds grow while a kernel runs; at the end of a loop's turn the run
falls back to the world in which the turn began.
-/

import TensorGraph.Proofs.Emission.Growth
import TensorGraph.Proofs.Emission.Stage
import TensorGraph.Proofs.Machine.Image

namespace TensorGraph

open Code FunctionBuilder Machine

/-- What is known of a host storage. -/
inductive Knowledge where
  /-- The contents, which stay. -/
  | fixed (data : Storage)
  /-- The type and the size; the contents change. -/
  | shaped (dtype : DType) (size : Nat)

namespace Knowledge

def dtype : Knowledge → DType
  | fixed data => data.dtype
  | shaped dtype _ => dtype

def size : Knowledge → Nat
  | fixed data => data.size
  | shaped _ size => size

/-- The storage is as it is known. -/
def Describes : Knowledge → Storage → Prop
  | fixed data, storage => storage = data
  | shaped dtype size, storage => storage.dtype = dtype ∧ storage.size = size

theorem Describes.dtype {knowledge : Knowledge} {storage : Storage}
    (describes : knowledge.Describes storage) : storage.dtype = knowledge.dtype := by
  cases knowledge with
  | fixed data =>
      cases describes
      rfl
  | shaped dtype size => exact describes.1

theorem Describes.size {knowledge : Knowledge} {storage : Storage}
    (describes : knowledge.Describes storage) : storage.size = knowledge.size := by
  cases knowledge with
  | fixed data =>
      cases describes
      rfl
  | shaped dtype size => exact describes.2

end Knowledge

/-- Where a register points: an element of a storage, in an allocation that holds it. -/
structure Target where
  storage : Nat
  base : Nat
  allocation : Nat

structure World where
  /-- No storage from here on is known. -/
  next : Nat
  known : Nat → Option Knowledge
  /-- The allocation holds what the storage holds. -/
  linked : Nat → Nat → Prop
  /-- The register points there. -/
  pointers : Register → Target → Prop
  /-- The storage stands for one of the emitting host. -/
  constants : Nat → Nat → Prop
  within : ∀ storage, next ≤ storage → known storage = none
  bound : ∀ storage allocation, linked storage allocation → (known storage).isSome
  pointed : ∀ register target, pointers register target → linked target.storage target.allocation

namespace World

variable {world later : World}

/-- A world that knows at least as much. -/
structure Later (world later : World) : Prop where
  next : world.next ≤ later.next
  known : ∀ storage knowledge, world.known storage = some knowledge →
    later.known storage = some knowledge
  linked : ∀ storage allocation, world.linked storage allocation →
    later.linked storage allocation
  pointers : ∀ register target, world.pointers register target → later.pointers register target
  constants : ∀ name storage, world.constants name storage → later.constants name storage

namespace Later

theorem refl (world : World) : world.Later world :=
  ⟨Nat.le_refl _, fun _ _ known => known, fun _ _ linked => linked, fun _ _ points => points,
    fun _ _ named => named⟩

theorem trans {last : World} (one : world.Later later) (two : later.Later last) :
    world.Later last :=
  ⟨Nat.le_trans one.next two.next,
    fun storage knowledge known => two.known storage knowledge (one.known storage knowledge known),
    fun storage allocation linked =>
      two.linked storage allocation (one.linked storage allocation linked),
    fun register target points => two.pointers register target (one.pointers register target points),
    fun name storage named => two.constants name storage (one.constants name storage named)⟩

end Later

/-! ### Growing -/

/-- A new storage of the host. -/
def learn (world : World) (storage : Nat) (fresh : world.next ≤ storage)
    (knowledge : Knowledge) : World :=
  { world with
    next := storage + 1
    known := fun other => if other = storage then some knowledge else world.known other
    within := by
      intro other above
      have above' : world.next ≤ other := Nat.le_trans fresh (Nat.le_of_succ_le above)
      simp only [if_neg (Nat.ne_of_gt above), world.within other above']
    bound := by
      intro other allocation linked
      split
      · rfl
      · exact world.bound other allocation linked }

/-- An allocation that holds what a storage holds. -/
def link (world : World) (storage allocation : Nat) (known : (world.known storage).isSome) :
    World :=
  { world with
    linked := fun other place =>
      (other = storage ∧ place = allocation) ∨ world.linked other place
    bound := by
      rintro other place (⟨rfl, _⟩ | linked)
      · exact known
      · exact world.bound other place linked
    pointed := fun register target points => .inr (world.pointed register target points) }

/-- A register that points into a storage. -/
def point (world : World) (register : Register) (target : Target)
    (linked : world.linked target.storage target.allocation) : World :=
  { world with
    pointers := fun other place =>
      (other = register ∧ place = target) ∨ world.pointers other place
    pointed := by
      rintro other place (⟨_, rfl⟩ | points)
      · exact linked
      · exact world.pointed other place points }

/-- A storage that the emitting host has too. -/
def name (world : World) (name storage : Nat) : World :=
  { world with
    constants := fun other place =>
      (other = name ∧ place = storage) ∨ world.constants other place }

/-- The storages of the host are as they are known. -/
def Describes (world : World) (heap : Heap) : Prop :=
  ∀ storage knowledge, world.known storage = some knowledge →
    knowledge.Describes (heap.storage storage)

theorem later_learn {storage : Nat} (fresh : world.next ≤ storage) (knowledge : Knowledge) :
    world.Later (world.learn storage fresh knowledge) := by
  refine ⟨Nat.le_succ_of_le fresh, ?_, fun _ _ linked => linked, fun _ _ points => points,
    fun _ _ named => named⟩
  intro other knowledge' known
  have different : other ≠ storage := by
    rintro rfl
    rw [world.within other fresh] at known
    cases known
  exact (if_neg different).trans known

theorem later_link {storage : Nat} (allocation : Nat) (known : (world.known storage).isSome) :
    world.Later (world.link storage allocation known) :=
  ⟨Nat.le_refl _, fun _ _ known => known, fun _ _ linked => .inr linked,
    fun _ _ points => points, fun _ _ named => named⟩

theorem later_point (register : Register) {target : Target}
    (linked : world.linked target.storage target.allocation) :
    world.Later (world.point register target linked) :=
  ⟨Nat.le_refl _, fun _ _ known => known, fun _ _ linked => linked,
    fun _ _ points => .inr points, fun _ _ named => named⟩

theorem later_name (name storage : Nat) : world.Later (world.name name storage) :=
  ⟨Nat.le_refl _, fun _ _ known => known, fun _ _ linked => linked,
    fun _ _ points => points, fun _ _ named => .inr named⟩

@[simp]
theorem known_learn_self {storage : Nat} (fresh : world.next ≤ storage) (knowledge : Knowledge) :
    (world.learn storage fresh knowledge).known storage = some knowledge :=
  if_pos rfl

end World

/-! ### Values -/

/-- Two places of elements of a type that are one place for the kernel. -/
inductive Placed (world : World) : Option DType → Place → Place → Prop where
  | unbound (dtype? : Option DType) : Placed world dtype? .unbound .unbound
  | pointer (register : Register) (target : Target) (knowledge : Knowledge)
      (points : world.pointers register target)
      (known : world.known target.storage = some knowledge) :
      Placed world (some knowledge.dtype) (.host target.storage target.base) (.emitted register)
  | constant (storage base name : Nat) (data : Storage)
      (named : world.constants name storage)
      (known : world.known storage = some (.fixed data)) (within : base ≤ data.size) :
      Placed world (some data.dtype) (.host storage base) (.host name base)

/-- A value of the host run and the value of the emission that stands for it. -/
structure Alike (world : World) (host code : Value) : Prop where
  dtype : code.dtype? = host.dtype?
  layout : code.layout? = host.layout?
  place : Placed world host.dtype? host.place code.place

/-- The code may write through the value. -/
def Writable (world : World) (host code : Value) : Prop :=
  ∃ register target dtype size, host.place = .host target.storage target.base ∧
    code.place = .emitted register ∧ world.pointers register target ∧
    world.known target.storage = some (.shaped dtype size)

section Later

variable {world later : World}

theorem Placed.mono {dtype? : Option DType} {host code : Place}
    (placed : Placed world dtype? host code) (growing : world.Later later) :
    Placed later dtype? host code := by
  cases placed with
  | unbound => exact .unbound _
  | pointer register target knowledge points known =>
      exact .pointer register target knowledge (growing.pointers _ _ points)
        (growing.known _ _ known)
  | constant storage base name data named known within =>
      exact .constant storage base name data (growing.constants _ _ named)
        (growing.known _ _ known) within

theorem Alike.mono {host code : Value} (alike : Alike world host code)
    (growing : world.Later later) : Alike later host code :=
  ⟨alike.dtype, alike.layout, alike.place.mono growing⟩

theorem Writable.mono {host code : Value} (writable : Writable world host code)
    (growing : world.Later later) : Writable later host code := by
  obtain ⟨register, target, dtype, size, here, there, points, known⟩ := writable
  exact ⟨register, target, dtype, size, here, there, growing.pointers _ _ points,
    growing.known _ _ known⟩

end Later

/-! ### The emission in a world -/

/-- What a world says of the emission so far.  The storages in `seeds` are those that the
code may take over as state. -/
structure World.Fits {ρ : Type} (world : World) (seeds : Nat → Option Nat)
    (state : EmissionState ρ) : Prop where
  pointers : ∀ register target, world.pointers register target →
    register < state.builder.size ∧ ∃ knowledge, world.known target.storage = some knowledge ∧
      state.builder.function.registerTypes[register]? = some (.pointer knowledge.dtype)
  constants : ∀ name storage, world.constants name storage →
    name < state.heap.next ∧ world.known storage = some (.fixed (state.heap.storage name))
  taken : ∀ name global, (name, global) ∈ state.states → (seeds name).isSome
  seeded : ∀ name storage, seeds name = some storage →
    name < state.heap.next ∧ (∀ other, ¬ world.constants name other) ∧
      world.known storage = some (.shaped (state.heap.storage name).dtype
        (state.heap.storage name).size)

/-- The emission is well formed and fits the world. -/
structure World.Ready {ρ : Type} (world : World) (seeds : Nat → Option Nat)
    (state : EmissionState ρ) : Prop where
  sound : state.Sound
  faithful : state.Faithful
  fits : world.Fits seeds state

/-! ### The machine in a world -/

/-- The registers and allocations that the function set up when it was entered, and the
constants of its module. -/
structure Stage.Holds (stage : Stage) (registers : Array (Option Slot)) (memory : Memory) :
    Prop where
  size : registers.size = stage.builder.size
  slots : ∀ register dtype count, .alloca register dtype count ∈ stage.builder.prologue →
    registers[register]? = some (some (.pointer ⟨stage.place register, 0⟩)) ∧
      ∃ image, memory.allocations[stage.place register]? = some image ∧
        image.size = dtype.width * count
  addresses : ∀ register name, .address register name ∈ stage.builder.prologue →
    ∃ index, globalIndex? stage.module name = some index ∧
      registers[register]? = some (some (.pointer ⟨index, 0⟩))
  constants : ∀ (index : Nat) (global : Global), stage.module.globals[index]? = some global →
    global.isMutable = false → memory.allocations[index]? = some global.data.image
  /-- Positions in memory are numbers of sixty-four bits. -/
  addressable : ∀ (allocation : Nat) (image : Array UInt8),
    memory.allocations[allocation]? = some image → image.size < 2 ^ 63

/-- The host and the machine hold what the world says.  The registers from `size` on are
still to come. -/
structure Stage.Agrees (stage : Stage) (world : World) (size : Nat) (heap : Heap)
    (registers : Array (Option Slot)) (memory : Memory) : Prop where
  holds : stage.Holds registers memory
  next : world.next ≤ heap.next
  known : world.Describes heap
  linked : ∀ storage allocation, world.linked storage allocation →
    memory.allocations[allocation]? = some (heap.storage storage).image
  /-- What changes is held in one place, and nothing else is held there. -/
  only : ∀ storage dtype size allocation, world.known storage = some (.shaped dtype size) →
    world.linked storage allocation →
      (∀ other, world.linked other allocation → other = storage) ∧
      (∀ other, world.linked storage other → other = allocation) ∧
      ∀ global : Global, stage.module.globals[allocation]? = some global →
        global.isMutable = true
  pointers : ∀ register target, world.pointers register target →
    target.base ≤ (heap.storage target.storage).size ∧
      registers[register]? = some (some (.pointer
        ⟨target.allocation, target.base * (heap.storage target.storage).dtype.width⟩))
  born : ∀ storage allocation, world.linked storage allocation →
    ∀ register dtype count, .alloca register dtype count ∈ stage.builder.prologue →
      stage.place register = allocation → register < size

/-- The states of the code are held in their globals. -/
def World.Seeded (world : World) (stage : Stage) (seeds : Nat → Option Nat) : Prop :=
  ∀ name global storage, (name, global) ∈ stage.states → seeds name = some storage →
    ∃ index, globalIndex? stage.module global = some index ∧ world.linked storage index

/-- The memory of registers that are still to come is unchanged. -/
def Stage.Untouched (stage : Stage) (size : Nat) (memory after : Memory) : Prop :=
  ∀ register dtype count, .alloca register dtype count ∈ stage.builder.prologue →
    size ≤ register →
      after.allocations[stage.place register]? = memory.allocations[stage.place register]?

/-- The memory of registers that are still to come holds zeros. -/
def Stage.Clean (stage : Stage) (size : Nat) (memory : Memory) : Prop :=
  ∀ register dtype count, .alloca register dtype count ∈ stage.builder.prologue →
    size ≤ register →
      memory.allocations[stage.place register]? = some (Storage.zeros dtype count).image

end TensorGraph

/-
Entering emitted code.

Between two calls the engine holds the constants of the code and, for every
storage that the code took over, what the host holds there.  A call lays the
buffers of the caller behind them.  Once the prologue of the function is done,
the machine matches a host on which the same storages and buffers stand side by
side.
-/

import TensorGraph.Proofs.Emission.Access
import TensorGraph.Proofs.Graph.Memory
import TensorGraph.Proofs.Machine.Entry
import TensorGraph.Proofs.Machine.Sizes

namespace TensorGraph

open Code FunctionBuilder Machine
open Optimize (targets)

/-! ### The first builder -/

namespace Code.FunctionBuilder

theorem formed_start (name : String) (parameters : List RegisterType) :
    (start name parameters).Formed where
  numbered := rfl
  nonempty := Nat.one_pos
  parameters := by
    intro register member
    exact (List.mem_range.mp member : register < parameters.length)
  below := fun _ member => absurd member List.not_mem_nil
  single := List.nodup_nil
  fresh := fun _ member => absurd member List.not_mem_nil
  plain := fun _ member => absurd member List.not_mem_nil
  closed := by
    intro block member terminator ended
    rcases List.mem_singleton.mp member with rfl
    cases ended
  prepared := fun _ member => absurd member List.not_mem_nil
  named := fun _ member => absurd member List.not_mem_nil
  apart := List.nodup_nil
  own := rfl
  addressed := fun _ _ member => absurd member List.not_mem_nil

theorem opened_start (name : String) (parameters : List RegisterType) :
    (start name parameters).Opened :=
  ⟨Block.empty 0 "entry", rfl, rfl⟩

end Code.FunctionBuilder

namespace EmissionState

variable {σ : Type}

theorem sound_start (heap : Heap) (name : String) (parameters : List RegisterType)
    (hint : LoopHint) (scratch : σ) :
    (start heap (FunctionBuilder.start name parameters) hint scratch).Sound where
  builder := formed_start name parameters
  opened := opened_start name parameters
  constants := fun _ _ member => absurd member List.not_mem_nil
  states := fun _ _ member => absurd member List.not_mem_nil
  zeros := fun _ _ _ member => absurd member List.not_mem_nil
  once := List.nodup_nil
  apart := List.nodup_nil
  noted := rfl
  images := fun _ member => absurd member List.not_mem_nil

theorem faithful_start (heap : Heap) (name : String) (parameters : List RegisterType)
    (hint : LoopHint) (scratch : σ) :
    (start heap (FunctionBuilder.start name parameters) hint scratch).Faithful where
  constants := fun _ _ member => absurd member List.not_mem_nil
  states := fun _ _ member => absurd member List.not_mem_nil

end EmissionState

/-! ### The stage of an emission -/

section Place

variable {builder : FunctionBuilder}

/-- The allocations of a prologue, from `floor` on. -/
def placeFrom (floor : Nat) (prologue : List Instruction) (register : Register) : Nat :=
  floor + ((allocations prologue).map Prod.fst).idxOf register

theorem mem_allocations {prologue : List Instruction} {register : Register} {dtype : DType}
    {count : Nat} :
    (register, dtype, count) ∈ allocations prologue ↔ .alloca register dtype count ∈ prologue := by
  unfold allocations
  rw [List.mem_filterMap]
  constructor
  · rintro ⟨instruction, member, same⟩
    cases instruction <;> cases same
    exact member
  · exact fun member => ⟨_, member, rfl⟩

theorem allocations_sublist (prologue : List Instruction) :
    ((allocations prologue).map Prod.fst).Sublist (targets prologue) := by
  induction prologue with
  | nil => exact .slnil
  | cons instruction rest ih =>
      cases instruction with
      | alloca register dtype count => exact ih.cons_cons register
      | address register _ | offset register _ _ | load register _ | binary register _ _ _
      | unary register _ _ | compare register _ _ _ | cast register _ _ => exact ih.cons register
      | store _ _ | move _ _ _ | call _ _ => exact ih

theorem placeFrom_at {prologue : List Instruction} (apart : (targets prologue).Nodup) (floor : Nat)
    {position : Nat} {entry : Register × DType × Nat}
    (found : (allocations prologue)[position]? = some entry) :
    placeFrom floor prologue entry.1 = floor + position := by
  have single := apart.sublist (allocations_sublist prologue)
  obtain ⟨within, same⟩ := List.getElem?_eq_some_iff.mp found
  have within' : position < ((allocations prologue).map Prod.fst).length := by
    rw [List.length_map]
    exact within
  have here := single.idxOf_getElem position within'
  rw [List.getElem_map, same] at here
  rw [placeFrom, here]

theorem placeFrom_injective {prologue : List Instruction} {floor : Nat} {first second : Register}
    {dtype : DType} {count : Nat} (member : .alloca first dtype count ∈ prologue)
    (same : placeFrom floor prologue first = placeFrom floor prologue second) : first = second := by
  have listed : first ∈ (allocations prologue).map Prod.fst :=
    List.mem_map_of_mem (mem_allocations.mpr member)
  exact (List.idxOf_inj listed).mp (Nat.add_left_cancel same)

end Place

namespace EmissionState

variable {σ : Type}

/-- The globals of the function are in the module, no two of one name. -/
structure Placed (state : EmissionState σ) (module : Module) : Prop where
  sound : state.Sound
  globals : ∀ global ∈ state.builder.globals, global ∈ module.globals
  names : (module.globals.map Global.name).Nodup

variable {state : EmissionState σ} {module : Module}

/-- The finished function in its module, with its memory from allocation `floor` on. -/
def Placed.stage (placed : state.Placed module) (floor : Nat) (above : module.globals.length ≤ floor) :
    Stage where
  module := module
  builder := state.builder
  place := placeFrom floor state.builder.prologue
  states := state.states
  formed := placed.sound.builder
  opened := placed.sound.opened
  globals := placed.globals
  names := placed.names
  apart := fun _ _ _ _ _ _ member _ same => placeFrom_injective member same
  above := fun _ _ _ _ => Nat.le_trans above (Nat.le_add_right _ _)

/-- A state that the code took over is a mutable global of the module. -/
theorem Placed.exists_global (placed : state.Placed module) {name : Nat} {global : String}
    (member : (name, global) ∈ state.states) :
    ∃ (index : Nat) (found : Global), globalIndex? module global = some index ∧
      module.globals[index]? = some found ∧ found.name = global ∧ found.isMutable = true := by
  obtain ⟨found, listed, rfl, changes⟩ := placed.sound.states name global member
  have listed' := placed.globals found listed
  obtain ⟨index, there⟩ := globalIndex?_of_mem listed'
  exact ⟨index, found, there, global_of_index placed.names listed' there, rfl, changes⟩

end EmissionState

/-! ### Between calls -/

/-- The memory of an engine between calls: the constants of the module, and what the host
holds in the storages that the code took over. -/
structure EmissionState.Rests {σ : Type} (state : EmissionState σ) (module : Module)
    (held : List Storage) (memory : Memory) : Prop where
  sizes : memory.sizes = Engine.globalSizes module
  constants : ∀ (index : Nat) (global : Global), module.globals[index]? = some global →
    global.isMutable = false → memory.allocations[index]? = some global.data.image
  states : ∀ name global index, (name, global) ∈ state.states →
    globalIndex? module global = some index → ∃ storage, held[name]? = some storage ∧
      memory.allocations[index]? = some storage.image

theorem EmissionState.Rests.size {σ : Type} {state : EmissionState σ} {module : Module}
    {held : List Storage} {memory : Memory} (rests : state.Rests module held memory) :
    memory.size = module.globals.length := by
  rw [← Memory.length_sizes, rests.sizes, Engine.length_globalSizes]

/-! ### The world of a call -/

/-- The storages that the code may take over are the first ones. -/
def seedsBelow (count name : Nat) : Option Nat :=
  if name < count then some name else none

/-- What the host and the machine have in common when a function is entered.  On the host the
storages that the nodes hold are followed by the buffers; in memory the buffers follow the
globals, and the parameters point at them. -/
def Stage.entry (stage : Stage) (held buffers : List Storage) : World where
  next := (held ++ buffers).length
  known name := (held ++ buffers)[name]?.map fun storage => .shaped storage.dtype storage.size
  linked name allocation :=
    (name < held.length ∧ ∃ global, (name, global) ∈ stage.states ∧
      globalIndex? stage.module global = some allocation) ∨
    ∃ position < buffers.length, name = held.length + position ∧
      allocation = stage.module.globals.length + position
  pointers register target := register < buffers.length ∧
    target = ⟨held.length + register, 0, stage.module.globals.length + register⟩
  constants _ _ := False
  within := by
    intro name above
    rw [List.getElem?_eq_none above]
    rfl
  bound := by
    rintro name allocation (⟨below, -⟩ | ⟨position, below, rfl, -⟩)
    · rw [Option.isSome_map, List.getElem?_append_left below, List.getElem?_eq_getElem below]
      rfl
    · rw [Option.isSome_map, List.getElem?_append_right (Nat.le_add_right _ _),
        Nat.add_sub_cancel_left, List.getElem?_eq_getElem below]
      rfl
  pointed := by
    rintro register _ ⟨below, rfl⟩
    exact .inr ⟨register, below, rfl, rfl⟩

namespace Stage

variable {stage : Stage} {held buffers : List Storage}

theorem entry_known {name : Nat} {storage : Storage} (found : (held ++ buffers)[name]? = some storage) :
    (stage.entry held buffers).known name = some (.shaped storage.dtype storage.size) := by
  simp only [entry, found, Option.map_some]

theorem getElem?_buffers {position : Nat} {buffer : Storage} (found : buffers[position]? = some buffer) :
    (held ++ buffers)[held.length + position]? = some buffer := by
  rw [List.getElem?_append_right (Nat.le_add_right _ _), Nat.add_sub_cancel_left, found]

theorem getElem?_held {name : Nat} {storage : Storage} (found : held[name]? = some storage) :
    (held ++ buffers)[name]? = some storage := by
  rw [List.getElem?_append_left (List.getElem?_eq_some_iff.mp found).1, found]

/-- The emission of a function with the buffers as parameters may begin. -/
theorem entry_ready {emitting : List Storage}
    (shapes : List.Forall₂ Storage.SameShape emitting held) (name : String) (hint : LoopHint) :
    (stage.entry held buffers).Ready (seedsBelow held.length)
      (EmissionState.start (Heap.empty.addAll emitting)
        (FunctionBuilder.start name (buffers.map fun buffer => .pointer buffer.dtype)) hint ()) where
  sound := EmissionState.sound_start _ _ _ _ _
  faithful := EmissionState.faithful_start _ _ _ _ _
  fits :=
    { pointers := by
        rintro register _ ⟨below, rfl⟩
        have found := List.getElem?_eq_getElem below
        refine ⟨?_, _, entry_known (getElem?_buffers found), ?_⟩
        · change register < (buffers.map _).length
          rw [List.length_map]
          exact below
        · change (buffers.map _).toArray[register]? = _
          rw [List.getElem?_toArray, List.getElem?_map, found]
          rfl
      constants := fun _ _ none' => none'.elim
      taken := fun _ _ member => absurd member List.not_mem_nil
      seeded := by
        intro name storage seed
        unfold seedsBelow at seed
        split at seed
        case isFalse => cases seed
        case isTrue below =>
          cases seed
          have below' : name < emitting.length := shapes.length_eq ▸ below
          have found := List.getElem?_eq_getElem below'
          have shape := List.forall₂_iff_get.mp shapes |>.2 name below' below
          refine ⟨?_, fun _ none' => none', ?_⟩
          · change name < (Heap.empty.addAll emitting).next
            rw [Heap.next_empty_addAll]
            exact below'
          · change _ = some (Knowledge.shaped ((Heap.empty.addAll emitting).storage name).dtype
              ((Heap.empty.addAll emitting).storage name).size)
            rw [Heap.storage_empty_addAll found,
              entry_known (getElem?_held (List.getElem?_eq_getElem below))]
            have typed := shape.1
            have sized := shape.2
            simp only [List.get_eq_getElem] at typed sized
            rw [typed, sized] }

/-- The memory of a node may be taken over. -/
theorem entry_kept {storage : Storage} {value : Value}
    (holds : TensorGraph.Holds (Heap.empty.addAll held) storage value) :
    Kept (seedsBelow held.length) (stage.entry held buffers) value value := by
  obtain ⟨name, rfl, below, here⟩ := holds
  rw [Heap.next_empty_addAll] at below
  have found : held[name]? = some storage := by
    have found' := List.getElem?_eq_getElem below
    rw [Heap.storage_empty_addAll found'] at here
    rw [found', here]
  exact ⟨name, name, 0, storage.dtype, storage.size, rfl, rfl, if_pos below, rfl, rfl, rfl,
    entry_known (getElem?_held found), Nat.zero_le _⟩

/-- The parameters stand for the buffers, and may be written. -/
theorem entry_receives (stage : Stage) (held : List Storage) {register : Nat} {buffer : Storage}
    (found : buffers[register]? = some buffer)
    (layout : Layout) :
    Alike (stage.entry held buffers)
        { dtype? := some buffer.dtype
          layout? := some layout
          place := .host (held.length + register) 0 }
        (Value.emitted buffer.dtype register (some layout)) ∧
      Writable (stage.entry held buffers)
        { dtype? := some buffer.dtype
          layout? := some layout
          place := .host (held.length + register) 0 }
        (Value.emitted buffer.dtype register (some layout)) := by
  have known : (stage.entry held buffers).known (held.length + register) = _ :=
    entry_known (getElem?_buffers found)
  have points : (stage.entry held buffers).pointers register
      ⟨held.length + register, 0, stage.module.globals.length + register⟩ :=
    ⟨(List.getElem?_eq_some_iff.mp found).1, rfl⟩
  exact ⟨⟨rfl, rfl, .pointer register _ _ points known⟩,
    register, _, _, _, rfl, rfl, points, known⟩

end Stage

/-! ### The first moment -/

/-- All memory of a call has positions of sixty-three bits. -/
structure EmissionState.Addressable {σ : Type} (state : EmissionState σ) (module : Module)
    (buffers : List Storage) : Prop where
  globals : ∀ size ∈ Engine.globalSizes module, size < 2 ^ 63
  buffers : ∀ buffer ∈ buffers, buffer.image.size < 2 ^ 63
  prologue : ∀ image ∈ images state.builder.prologue, image.size < 2 ^ 63

namespace EmissionState.Placed

variable {σ : Type} {state : EmissionState σ} {engine : Engine} {held buffers : List Storage}
  {name : String}

theorem entry_seeded (placed : state.Placed engine.module) {floor : Nat}
    (above : engine.module.globals.length ≤ floor) :
    ((placed.stage floor above).entry held buffers).Seeded (placed.stage floor above)
      (seedsBelow held.length) := by
  intro name global storage member seed
  unfold seedsBelow at seed
  split at seed
  case isFalse => cases seed
  case isTrue below =>
    cases seed
    obtain ⟨index, found, there, -⟩ := placed.exists_global member
    exact ⟨index, there, .inl ⟨below, global, member, there⟩⟩

/-- The floor of a call. -/
abbrev callFloor (engine : Engine) (buffers : List Storage) : Nat :=
  engine.module.globals.length + buffers.length

/-- The stage of a call with some buffers. -/
abbrev callStage (placed : state.Placed engine.module) (buffers : List Storage) : Stage :=
  placed.stage (callFloor engine buffers) (Nat.le_add_right _ _)

/-- The memory of a call behind its prologue. -/
def callMemory (state : EmissionState σ) (engine : Engine) (buffers : List Storage) : Memory :=
  (engine.memory.extend (buffers.map Storage.image)).extend (images state.builder.prologue)

section Memory

variable (rests : state.Rests engine.module held engine.memory)
include rests

theorem global_callMemory {index : Nat} (below : index < engine.module.globals.length) :
    (callMemory state engine buffers).allocations[index]? = engine.memory.allocations[index]? := by
  have below' : index < engine.memory.size := rests.size ▸ below
  have below'' : index < (engine.memory.extend (buffers.map Storage.image)).size := by
    rw [Memory.size_extend]
    omega
  rw [callMemory, Memory.getElem?_extend_of_lt _ _ below'', Memory.getElem?_extend_of_lt _ _ below']

theorem buffer_callMemory {position : Nat} {buffer : Storage}
    (found : buffers[position]? = some buffer) :
    (callMemory state engine buffers).allocations[engine.module.globals.length + position]? =
      some buffer.image := by
  have below := (List.getElem?_eq_some_iff.mp found).1
  have below' : engine.memory.size + position <
      (engine.memory.extend (buffers.map Storage.image)).size := by
    rw [Memory.size_extend, List.length_map]
    omega
  rw [← rests.size, callMemory, Memory.getElem?_extend_of_lt _ _ below',
    Memory.getElem?_extend_add, List.getElem?_map, found]
  rfl

theorem prologue_callMemory (position : Nat) :
    (callMemory state engine buffers).allocations[callFloor engine buffers + position]? =
      (images state.builder.prologue)[position]? := by
  have size : (engine.memory.extend (buffers.map Storage.image)).size =
      callFloor engine buffers := by
    rw [Memory.size_extend, List.length_map, rests.size]
  rw [← size, callMemory, Memory.getElem?_extend_add]

/-- No allocation of the call is too large. -/
theorem small_callMemory (small : state.Addressable engine.module buffers) {allocation : Nat}
    {image : Array UInt8}
    (there : (callMemory state engine buffers).allocations[allocation]? = some image) :
    image.size < 2 ^ 63 := by
  have member : image.size ∈ (callMemory state engine buffers).sizes := by
    have inside := Array.mem_of_getElem? there
    exact List.mem_map_of_mem (Array.mem_toList_iff.mpr inside)
  have sizes : (callMemory state engine buffers).sizes = Engine.globalSizes engine.module ++
      (buffers.map fun buffer => buffer.image.size) ++
        (images state.builder.prologue).map Array.size := by
    rw [← rests.sizes]
    simp [callMemory, Memory.extend, Memory.sizes, Function.comp_def]
  rw [sizes, List.mem_append, List.mem_append] at member
  rcases member with (member | member) | member
  · exact small.globals _ member
  · obtain ⟨buffer, listed, same⟩ := List.mem_map.mp member
    rw [← same]
    exact small.buffers buffer listed
  · obtain ⟨image', listed, same⟩ := List.mem_map.mp member
    rw [← same]
    exact small.prologue image' listed

end Memory

variable (placed : state.Placed engine.module)

theorem image_of_alloca {position : Nat} {register : Register} {dtype : DType} {count : Nat}
    (found : (allocations state.builder.prologue)[position]? = some (register, dtype, count)) :
    (images state.builder.prologue)[position]? = some (Storage.zeros dtype count).image := by
  rw [images, List.getElem?_map, found, Storage.image_zeros]
  rfl

/-- What the prologue has set up by its end. -/
structure Opened (state : EmissionState σ) (engine : Engine) (buffers : List Storage)
    (next : State) : Prop where
  memory : next.memory = callMemory state engine buffers
  size : next.frame.registers.size = state.builder.size
  parameters : ∀ register < buffers.length, next.frame.registers[register]? =
    some (some (.pointer ⟨engine.module.globals.length + register, 0⟩))
  places : ∀ (position : Nat) (entry : Register × DType × Nat),
    (allocations state.builder.prologue)[position]? = some entry →
      next.frame.registers[entry.1]? =
        some (some (.pointer ⟨callFloor engine buffers + position, 0⟩))
  addresses : ∀ register name, .address register name ∈ state.builder.prologue →
    ∃ index, globalIndex? engine.module name = some index ∧
      next.frame.registers[register]? = some (some (.pointer ⟨index, 0⟩))

variable {next : State} (opened : Opened state engine buffers next)
  (rests : state.Rests engine.module held engine.memory)
include opened rests

/-- The memory of a register of the prologue is where its stage places it. -/
theorem alloca_opened {register : Register} {dtype : DType} {count : Nat}
    (member : .alloca register dtype count ∈ state.builder.prologue) :
    next.frame.registers[register]? =
        some (some (.pointer ⟨(placed.callStage buffers).place register, 0⟩)) ∧
      next.memory.allocations[(placed.callStage buffers).place register]? =
        some (Storage.zeros dtype count).image := by
  obtain ⟨position, found⟩ := List.getElem?_of_mem (mem_allocations.mpr member)
  have apart : (targets state.builder.prologue).Nodup :=
    (List.nodup_append.mp placed.sound.builder.single).1
  have place : (placed.callStage buffers).place register = callFloor engine buffers + position :=
    placeFrom_at apart _ found
  rw [place]
  refine ⟨opened.places position _ found, ?_⟩
  rw [opened.memory, prologue_callMemory rests, image_of_alloca found]

theorem holds_opened (small : state.Addressable engine.module buffers) :
    (placed.callStage buffers).Holds next.frame.registers next.memory where
  size := opened.size
  slots := by
    intro register dtype count member
    obtain ⟨has, there⟩ := alloca_opened placed opened rests member
    refine ⟨has, _, there, ?_⟩
    rw [Storage.size_image, Storage.size_zeros, Nat.mul_comm]
    rfl
  addresses := opened.addresses
  constants := by
    intro index global found fixed
    rw [opened.memory, global_callMemory rests (List.getElem?_eq_some_iff.mp found).1]
    exact rests.constants index global found fixed
  addressable := by
    intro allocation image there
    rw [opened.memory] at there
    exact small_callMemory rests small there

theorem clean_opened (size : Nat) : (placed.callStage buffers).Clean size next.memory :=
  fun _ _ _ member _ => (alloca_opened placed opened rests member).2

omit opened rests in
/-- Where the world of the call has a storage in memory. -/
theorem entry_linked {name allocation : Nat}
    (linked : ((placed.callStage buffers).entry held buffers).linked name allocation) :
    (name < held.length ∧ ∃ (global : String) (found : Global), (name, global) ∈ state.states ∧
      globalIndex? engine.module global = some allocation ∧
      engine.module.globals[allocation]? = some found ∧ found.name = global ∧
        found.isMutable = true) ∨
    ∃ (position : Nat) (buffer : Storage), buffers[position]? = some buffer ∧
      name = held.length + position ∧ allocation = engine.module.globals.length + position := by
  rcases linked with ⟨below, global, member, there⟩ | ⟨position, below, rfl, rfl⟩
  · obtain ⟨index, found, there', at', named, changes⟩ := placed.exists_global member
    cases there.symm.trans there'
    exact .inl ⟨below, global, found, member, there, at', named, changes⟩
  · exact .inr ⟨position, _, List.getElem?_eq_getElem below, rfl, rfl⟩

omit opened rests in
/-- One allocation holds one storage, and one storage is held in one allocation. -/
theorem entry_linked_unique {name other allocation allocation' : Nat}
    (linked : ((placed.callStage buffers).entry held buffers).linked name allocation)
    (linked' : ((placed.callStage buffers).entry held buffers).linked other allocation') :
    other = name ↔ allocation' = allocation := by
  have once := List.inj_on_of_nodup_map placed.sound.once
  have apart := List.inj_on_of_nodup_map placed.sound.apart
  rcases entry_linked placed linked with
    ⟨below, global, found, member, there, at', named, -⟩ | ⟨position, buffer, found, rfl, rfl⟩
  · rcases entry_linked placed linked' with
      ⟨below', global', found', member', there', at'', named', -⟩ |
      ⟨position', buffer', found', rfl, rfl⟩
    · constructor
      · rintro rfl
        have same := once member member' rfl
        cases same
        exact Option.some.inj (there'.symm.trans there)
      · rintro rfl
        cases at'.symm.trans at''
        have same := apart member' member (named'.symm.trans named)
        exact congrArg Prod.fst same
    · have inside := (List.getElem?_eq_some_iff.mp at').1
      omega
  · rcases entry_linked placed linked' with
      ⟨below', global', found', member', there', at'', named', -⟩ |
      ⟨position', buffer', found', rfl, rfl⟩
    · have inside := (List.getElem?_eq_some_iff.mp at'').1
      omega
    · omega

omit opened rests in
/-- What the world of a call has in memory may change there. -/
theorem entry_linked_mutable {name allocation : Nat}
    (linked : ((placed.callStage buffers).entry held buffers).linked name allocation)
    {global : Global} (found : engine.module.globals[allocation]? = some global) :
    global.isMutable = true := by
  rcases entry_linked placed linked with
    ⟨-, _, found', -, -, at', -, changes⟩ | ⟨position, buffer, _, rfl, rfl⟩
  · cases found.symm.trans at'
    exact changes
  · have inside := (List.getElem?_eq_some_iff.mp found).1
    omega

theorem agrees_opened (small : state.Addressable engine.module buffers) :
    (placed.callStage buffers).Agrees ((placed.callStage buffers).entry held buffers)
      buffers.length (Heap.empty.addAll (held ++ buffers)) next.frame.registers next.memory where
  holds := holds_opened placed opened rests small
  next := by
    rw [Heap.next_empty_addAll]
    exact Nat.le_refl _
  known := by
    intro name knowledge known
    simp only [Stage.entry, Option.map_eq_some_iff] at known
    obtain ⟨storage, found, rfl⟩ := known
    rw [Heap.storage_empty_addAll found]
    exact ⟨rfl, rfl⟩
  linked := by
    intro name allocation linked
    rcases entry_linked placed linked with
      ⟨below, global, found, member, there, at', -⟩ | ⟨position, buffer, found, rfl, rfl⟩
    · obtain ⟨storage, here, image⟩ := rests.states name global allocation member there
      rw [opened.memory, global_callMemory rests (List.getElem?_eq_some_iff.mp at').1, image,
        Heap.storage_empty_addAll (Stage.getElem?_held here)]
    · rw [opened.memory, buffer_callMemory rests found,
        Heap.storage_empty_addAll (Stage.getElem?_buffers found)]
  only := by
    intro name dtype size allocation _ linked
    exact ⟨fun other linked' => (entry_linked_unique placed linked linked').mpr rfl,
      fun other linked' => (entry_linked_unique placed linked linked').mp rfl,
      fun global found => entry_linked_mutable placed linked found⟩
  pointers := by
    rintro register _ ⟨below, rfl⟩
    refine ⟨Nat.zero_le _, ?_⟩
    rw [opened.parameters register below, Nat.zero_mul]
    rfl
  born := by
    intro name allocation linked register dtype count member same
    exfalso
    have below : allocation < callFloor engine buffers := by
      rcases entry_linked placed linked with
        ⟨-, global, found, member, there, at', -⟩ | ⟨position, buffer, found, rfl, rfl⟩
      · exact Nat.lt_of_lt_of_le (List.getElem?_eq_some_iff.mp at').1 (Nat.le_add_right _ _)
      · exact Nat.add_lt_add_left (List.getElem?_eq_some_iff.mp found).1 _
    have above : callFloor engine buffers ≤ allocation := same ▸ Nat.le_add_right _ _
    exact Nat.not_lt.mpr above below

end EmissionState.Placed

/-! ### The call -/

/-- The builder of a function that is called with some buffers, before anything is appended. -/
abbrev Code.FunctionBuilder.taking (name : String) (buffers : List Storage) : FunctionBuilder :=
  FunctionBuilder.start name (buffers.map fun buffer => .pointer buffer.dtype)

namespace EmissionState.Placed

variable {σ : Type} {state : EmissionState σ} {engine : Engine} {held buffers : List Storage}
  {name callee : String}

section Function

variable (covers : (FunctionBuilder.taking callee buffers).Grows state.builder)
include covers

theorem parameters_finished :
    state.builder.finished.parameters = List.range buffers.length := by
  have same : state.builder.function.parameters = List.range (buffers.map _).length :=
    covers.parameters
  rw [List.length_map] at same
  exact same

theorem types_finished :
    List.Forall₂ (fun (buffer : Storage) parameter =>
      state.builder.finished.typeOf? parameter = some (.pointer buffer.dtype)) buffers
      (List.range buffers.length) := by
  rw [List.forall₂_iff_get]
  refine ⟨List.length_range.symm, fun position below _ => ?_⟩
  simp only [List.get_eq_getElem, List.getElem_range]
  refine covers.types position _ ?_
  change (buffers.map _).toArray[position]? = _
  rw [List.getElem?_toArray, List.getElem?_map, List.getElem?_eq_getElem below]
  rfl

theorem size_finished (sound : state.Sound) : buffers.length ≤ state.builder.size := by
  cases buffers with
  | nil => exact Nat.zero_le _
  | cons buffer rest =>
      have last : rest.length ∈ state.builder.function.parameters := by
        rw [show state.builder.function.parameters = _ from parameters_finished covers]
        exact List.mem_range.mpr (Nat.lt_succ_self _)
      exact sound.builder.parameters _ last

/-- The function begins with its prologue. -/
theorem entry_finished (placed : state.Placed engine.module) :
    ∃ entry blocks rest, state.builder.finished.blocks = entry :: blocks ∧
      (placed.callStage buffers).function.blocks[0]? = some entry ∧
      entry.instructions = state.builder.prologue ++ rest := by
  have covers' : (FunctionBuilder.taking callee buffers).Grows
      (placed.callStage buffers).builder := covers
  have empty : (FunctionBuilder.taking callee buffers).blockAt 0 =
      some (Block.empty 0 "entry") := rfl
  obtain ⟨entry, found, rest, instructions, -⟩ := Stage.block_of_grows covers' empty
  have found' : state.builder.finished.blocks[0]? = some entry := found
  obtain ⟨blocks, begins⟩ := List.head?_eq_some_iff.mp (List.head?_eq_getElem? ▸ found')
  refine ⟨entry, blocks, rest, begins, found, ?_⟩
  rw [instructions]
  change state.builder.before 0 ++ [] ++ rest = _
  rw [FunctionBuilder.before, if_pos rfl, List.append_nil]

end Function

/-- The state in which a call of the finished function begins. -/
def firstState (state : EmissionState σ) (engine : Engine) (buffers : List Storage) (entry : Block)
    (registers : Array (Option Slot)) : State :=
  { memory := engine.memory.extend (buffers.map Storage.image)
    frame :=
      { function := state.builder.finished
        registers := registers
        block := entry
        pending := entry.instructions
        floor := (engine.memory.extend (buffers.map Storage.image)).size }
    callers := []
    steps := 0 }

theorem prepared_finished (placed : state.Placed engine.module)
    (covers : (FunctionBuilder.taking callee buffers).Grows state.builder)
    (named : engine.module.function? name = some state.builder.finished)
    (visible : state.builder.finished.exported = true) {entry : Block} {blocks : List Block}
    (begins : state.builder.finished.blocks = entry :: blocks) :
    ∃ registers, Prepared engine name (buffers.map Argument.buffer)
        (firstState state engine buffers entry registers) ∧
      registers.size = state.builder.size ∧ ∀ register < buffers.length,
        registers[register]? = some (some (.pointer ⟨engine.memory.size + register, 0⟩)) := by
  have parameters := parameters_finished covers
  obtain ⟨registers, enters, size, held⟩ := enter_ok begins parameters
    (size_finished covers placed.sound) engine.memory.size
    (engine.memory.extend (buffers.map Storage.image)).size
  refine ⟨registers, ⟨state.builder.finished, _, _, _, ?_, ?_, enters, rfl⟩, size, held⟩
  · have found := callee_of_function named visible
    rw [parameters, List.length_range] at found
    rw [List.length_map]
    exact found
  · rw [parameters]
    exact laid_buffers (types_finished covers) engine.memory

/-- The prologue runs to its end. -/
theorem opens_finished (placed : state.Placed engine.module)
    (rests : state.Rests engine.module held engine.memory)
    (covers : (FunctionBuilder.taking callee buffers).Grows state.builder) {entry : Block}
    {rest : List Instruction} (instructions : entry.instructions = state.builder.prologue ++ rest)
    {registers : Array (Option Slot)} (size : registers.size = state.builder.size)
    (filled : ∀ register < buffers.length,
      registers[register]? = some (some (.pointer ⟨engine.memory.size + register, 0⟩))) :
    ∃ next, Opening engine.module state.builder.prologue rest
        (firstState state engine buffers entry registers) next ∧
      Opened state engine buffers next := by
  have formed := placed.sound.builder
  have sized : (firstState state engine buffers entry registers).memory.size =
      callFloor engine buffers := by
    simp [firstState, callFloor, rests.size]
  obtain ⟨next, opening⟩ : ∃ next, Opening engine.module state.builder.prologue rest
      (firstState state engine buffers entry registers) next := opens instructions (by
      intro instruction member
      rcases formed.prepared instruction member with
        ⟨register, dtype, count, rfl, -⟩ | ⟨register, global, listed, rfl, -⟩
      · exact .alloca register dtype count
      · obtain ⟨index, found⟩ := globalIndex?_of_mem (placed.globals global listed)
        exact .address register global.name index found)
    (List.nodup_append.mp formed.single).1 (by
      intro register member
      change register < registers.size
      rw [size]
      exact formed.below register (List.mem_append_left _ member))
  refine ⟨next, opening, opening.memory, opening.size.trans size, ?_, ?_, opening.addresses⟩
  · intro register below
    have outside : register ∉ targets state.builder.prologue := by
      intro member
      refine formed.fresh register (List.mem_append_left _ member) ?_
      rw [show state.builder.function.parameters = _ from parameters_finished covers]
      exact List.mem_range.mpr below
    rw [opening.others register outside, ← rests.size]
    exact filled register below
  · intro position entry found
    rw [opening.places position entry found, sized]

/-- A call of the finished function comes to the end of its prologue. -/
theorem entered (placed : state.Placed engine.module)
    (rests : state.Rests engine.module held engine.memory)
    (small : state.Addressable engine.module buffers) (heap : Heap) (hint : LoopHint) (scratch : σ)
    (covers : (FunctionBuilder.taking callee buffers).Grows state.builder)
    (named : engine.module.function? name = some state.builder.finished)
    (visible : state.builder.finished.exported = true) :
    ∃ start next, Prepared engine name (buffers.map Argument.buffer) start ∧
      Reaches engine.module start next ∧
      (placed.callStage buffers).Matches ((placed.callStage buffers).entry held buffers)
        (EmissionState.start heap (FunctionBuilder.taking callee buffers) hint scratch)
        (Heap.empty.addAll (held ++ buffers)) next := by
  obtain ⟨entry, blocks, rest, begins, found, instructions⟩ := entry_finished covers placed
  obtain ⟨registers, prepared, size, filled⟩ :=
    prepared_finished placed covers named visible begins
  obtain ⟨next, opening, opened⟩ :=
    opens_finished placed rests covers instructions size filled
  refine ⟨_, next, prepared, opening.reaches, ⟨?_, ?_, ?_⟩, ?_, ?_⟩
  · rw [opening.frame]
    rfl
  · exact opening.callers
  · refine ⟨Block.empty 0 "entry", rfl, ?_, ?_⟩
    · rw [opening.frame]
      exact found
    · rw [opening.frame]
      change entry.instructions = state.builder.before 0 ++ [] ++ rest
      rw [FunctionBuilder.before, if_pos rfl, List.append_nil, instructions]
  · have agrees := agrees_opened placed opened rests small
    have size' : (FunctionBuilder.taking callee buffers).size = buffers.length := by
      change (buffers.map _).length = _
      rw [List.length_map]
    change (placed.callStage buffers).Agrees _ (FunctionBuilder.taking callee buffers).size _ _ _
    rw [size']
    exact agrees
  · exact fun _ => clean_opened placed opened rests _

end EmissionState.Placed
end TensorGraph

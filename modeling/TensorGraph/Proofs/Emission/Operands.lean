/-
Operands.

An operand of the code is a constant, or it is loaded from where a value lives.
Loading computes into registers and leaves memory as it is.  A computed element
goes into memory of its own, as the host puts it into a fresh storage.  What is
written for an operand makes a machine load it, wherever the code ends up.
-/

import TensorGraph.Proofs.Emission.Realizes

namespace TensorGraph

open Code FunctionBuilder Machine
open Optimize (targets)

theorem mem_of_lookup {α β : Type} [BEq α] [LawfulBEq α] {entries : List (α × β)} {key : α}
    {value : β} (found : entries.lookup key = some value) : (key, value) ∈ entries := by
  obtain ⟨front, back, rfl, _⟩ := List.lookup_eq_some_iff.mp found
  exact List.mem_append_right _ (List.mem_cons_self ..)

/-! ### Reading on the host -/

namespace Host

variable {value : Value} {heap : Heap} {element : Literal}

/-- A scalar is the cell that its value starts at. -/
theorem literal_ok (read : literal value heap = .ok element) :
    ∃ storage base, value.place = .host storage base ∧
      (heap.storage storage).get base = .ok element := by
  unfold literal Value.isHost at read
  cases place : value.place with
  | unbound => simp [place] at read
  | emitted register => simp [place] at read
  | host storage base =>
      rw [place] at read
      obtain ⟨layout, placed, read⟩ := bind_eq_ok.mp read
      obtain ⟨position, offset, read⟩ := bind_eq_ok.mp read
      obtain ⟨⟨name, start⟩, lives, read⟩ := bind_eq_ok.mp read
      unfold Value.host at lives
      rw [place] at lives
      cases lives
      unfold Layout.flatOffset at offset
      split at offset
      case isFalse => cases offset
      case isTrue ranked =>
        cases offset
        have empty : layout.axes = [] := List.length_eq_zero_iff.mp ranked.symm
        refine ⟨storage, base, rfl, ?_⟩
        simpa [Layout.place, empty, Heap.cell] using read

/-- What keeps the host from reading is nothing that arithmetic refuses. -/
theorem literal_error {cause : Error} (failed : literal value heap = .error cause) :
    cause.isArithmetic = false := by
  unfold literal at failed
  split at failed
  case isFalse => cases failed; decide
  case isTrue hosted =>
    rcases error_of_bind failed with failed | ⟨layout, _, failed⟩
    · unfold Value.layout at failed
      split at failed <;> cases failed
      decide
    rcases error_of_bind failed with failed | ⟨position, _, failed⟩
    · unfold Layout.flatOffset at failed
      split at failed <;> cases failed
      simp [Error.isArithmetic, String.toList_append]
    rcases error_of_bind failed with failed | ⟨⟨storage, base⟩, _, failed⟩
    · unfold Value.host at failed
      split at failed <;> cases failed
      decide
    · change (heap.storage storage).get _ = _ at failed
      unfold Storage.get at failed
      split at failed <;> cases failed
      rfl

theorem typed_literal (read : literal value heap = .ok element) {storage base : Nat}
    (place : value.place = .host storage base) : element.dtype = (heap.storage storage).dtype := by
  obtain ⟨storage', base', place', found⟩ := literal_ok read
  cases place.symm.trans place'
  unfold Storage.get at found
  split at found
  case isFalse => cases found
  case isTrue within =>
    cases found
    exact (heap.storage storage).typed _ (Array.getElem_mem within)

end Host

/-! ### Reading while emitting -/

section Known

variable {σ : Type} {world : World} {seeds : Nat → Option Nat} {state : EmissionState σ}
  {host code : Value} {heap : Heap}

/-- A constant of the code stands for a storage of the host with the same contents. -/
theorem Alike.constant (alike : Alike world host code) (fits : world.Fits seeds state)
    {name base : Nat} (place : code.place = .host name base) :
    ∃ storage, host.place = .host storage base ∧ world.constants name storage ∧
      world.known storage = some (.fixed (state.heap.storage name)) ∧
      base ≤ (state.heap.storage name).size ∧
      host.dtype? = some (state.heap.storage name).dtype := by
  obtain ⟨dtype?, layout?, place'⟩ := host
  obtain ⟨codeType?, codeLayout?, codePlace⟩ := code
  subst place
  generalize found : Place.host name base = there at alike
  obtain ⟨_, _, placed⟩ := alike
  cases placed with
  | unbound => cases found
  | pointer register target knowledge points known => cases found
  | constant storage base' name' data named known within =>
      cases found
      obtain ⟨_, known'⟩ := fits.constants name storage named
      cases known.symm.trans known'
      exact ⟨storage, rfl, named, known, within, rfl⟩

/-- A constant of the code is not taken over as state. -/
theorem World.Fits.free (fits : world.Fits seeds state) {name storage : Nat}
    (named : world.constants name storage) : state.states.lookup name = none := by
  cases cached : state.states.lookup name with
  | none => rfl
  | some global =>
      obtain ⟨other, seed⟩ := Option.isSome_iff_exists.mp
        (fits.taken name global (mem_of_lookup cached))
      exact ((fits.seeded name other seed).2.1 storage named).elim

/-- An element that is known while emitting is the one that the host reads. -/
theorem Alike.known (alike : Alike world host code) (fits : world.Fits seeds state)
    (described : world.Describes heap) {element : Literal}
    (found : Emission.literal? code state.heap = some element) :
    Host.literal host heap = .ok element := by
  unfold Emission.literal? at found
  split at found
  case isFalse => cases found
  case isTrue hosted =>
    have isHost := (Bool.and_eq_true _ _ ▸ hosted).1
    cases place : code.place with
    | unbound => simp [Value.isHost, place] at isHost
    | emitted register => simp [Value.isHost, place] at isHost
    | host name base =>
        obtain ⟨storage, here, _, known, _⟩ := alike.constant fits place
        have same : heap.storage storage = state.heap.storage name := described storage _ known
        have isHost' : host.isHost = true := by simp [Value.isHost, here]
        have read : code.literal state.heap = .ok element := by
          cases read : code.literal state.heap with
          | error cause => rw [read] at found; cases found
          | ok element' => rw [read] at found; cases found; rfl
        rw [Host.literal, if_pos isHost', ← read]
        unfold Value.literal Value.get Value.layout Value.getFlat Value.host Heap.cell
        rw [alike.layout, here, place]
        simp only [bind, Except.bind, same]

end Known

/-! ### Computing into registers -/

/-- A global has one position in its module. -/
theorem position_unique {module : Module} (names : (module.globals.map Global.name).Nodup)
    {first second : Nat} {global : Global} (found : module.globals[first]? = some global)
    (found' : module.globals[second]? = some global) : first = second := by
  have below := (List.getElem?_eq_some_iff.mp found).1
  have below' : first < (module.globals.map Global.name).length := by
    rw [List.length_map]
    exact below
  refine (List.getElem?_inj below' names).mp ?_
  rw [List.getElem?_map, List.getElem?_map, found, found']

/-- A global stands where its name is found. -/
theorem global_of_index {module : Module} (names : (module.globals.map Global.name).Nodup)
    {global : Global} (member : global ∈ module.globals) {index : Nat}
    (found : globalIndex? module global.name = some index) :
    module.globals[index]? = some global := by
  obtain ⟨within, named, _⟩ := List.findIdx?_eq_some_iff_getElem.mp found
  have same := List.inj_on_of_nodup_map names (List.getElem_mem within) member
    (beq_iff_eq.mp named)
  rw [List.getElem?_eq_getElem within, same]

namespace Stage

variable {σ : Type} {stage : Stage} {world : World} {seeds : Nat → Option Nat}
  {before middle after : EmissionState σ} {heap : Heap} {machine next last : State}

/-- The machine runs what was emitted in between, and memory stays as it is. -/
structure Computes (stage : Stage) (before after : EmissionState σ) (machine next : State) :
    Prop where
  runs : stage.Runs before.builder after.builder machine next
  memory : next.memory = machine.memory

namespace Computes

theorem trans (one : stage.Computes before middle machine next)
    (two : stage.Computes middle after next last) (sound : before.Sound)
    (grows : before.Grows middle) : stage.Computes before after machine last :=
  ⟨one.runs.trans two.runs (grows.builder sound).size_le, two.memory.trans one.memory⟩

/-- What the world says holds as before. -/
theorem leads (computes : stage.Computes before after machine next)
    (holds : stage.Matches world before heap machine) (ready : world.Ready seeds before)
    (grows : before.Grows after) : stage.Leads world before after heap machine next where
  runs := computes.runs
  untouched := by
    rw [computes.memory]
    exact .refl _ _
  agrees := by
    rw [computes.memory]
    exact holds.agrees.defining (grows.builder ready.sound).size_le computes.runs.room
      (fun register target points => (ready.fits.pointers register target points).1)
      computes.runs.kept

theorem follows_on (computes : stage.Computes before after machine next)
    (holds : stage.Matches world before heap machine) (ready : world.Ready seeds before)
    (grows : before.Grows after) : stage.Matches world after heap next :=
  (computes.leads holds ready grows).follows_on holds ready.sound grows

end Computes

/-! ### Addresses -/

theorem global_at {global : Global} (member : global ∈ stage.module.globals) {index : Nat}
    (found : globalIndex? stage.module global.name = some index) :
    stage.module.globals[index]? = some global :=
  global_of_index stage.names member found

/-- An address that the prologue takes is that of a global of the code. -/
theorem Holds.prepared {registers : Array (Option Slot)} {memory : Memory}
    (holds : stage.Holds registers memory) {register : Register} {name : String}
    (prepared : .address register name ∈ stage.builder.prologue) :
    ∃ index, ∃ global ∈ stage.builder.globals, global.name = name ∧
      globalIndex? stage.module name = some index ∧
      stage.module.globals[index]? = some global ∧
      registers[register]? = some (some (.pointer ⟨index, 0⟩)) ∧
      stage.builder.function.registerTypes[register]? = some (.pointer global.dtype) := by
  obtain ⟨index, found, has⟩ := holds.addresses register name prepared
  rcases stage.formed.prepared _ prepared with
    ⟨_, _, _, other, _⟩ | ⟨_, global, listed, same, typed⟩
  · cases other
  · cases same
    exact ⟨index, global, listed, rfl, found,
      global_at (stage.globals global listed) found, has, typed⟩

/-- The register that a global's address was asked for holds it. -/
theorem address_has {builder later : FunctionBuilder} {name : String} {register : Register}
    (built : Building.globalAddress name builder = .ok register later) (formed : builder.Formed)
    (covers : later.Grows stage.builder) {global : Global} (listed : global ∈ builder.globals)
    (named : global.name = name) {registers : Array (Option Slot)} {memory : Memory}
    (holds : stage.Holds registers memory) :
    ∃ index, stage.module.globals[index]? = some global ∧
      registers[register]? = some (some (.pointer ⟨index, 0⟩)) ∧
      stage.builder.function.registerTypes[register]? = some (.pointer global.dtype) := by
  obtain ⟨more, prologue, _⟩ := covers.prologue
  have prepared : .address register name ∈ stage.builder.prologue := by
    rw [prologue]
    refine List.mem_append_left _ ?_
    rcases (Building.globalAddress_ok formed).mp built with ⟨cached, rfl⟩ | ⟨_, rfl, _, _, rfl, rfl⟩
    · exact formed.addressed name register (mem_of_lookup cached)
    · exact List.mem_append_right _ (List.mem_cons_self ..)
  have kept : global ∈ later.globals := by
    rcases (Building.globalAddress_ok formed).mp built with ⟨_, rfl⟩ | ⟨_, _, _, _, _, rfl⟩
    · exact listed
    · exact listed
  obtain ⟨index, other, listed', named', _, found, has, typed⟩ := holds.prepared prepared
  obtain rfl := List.inj_on_of_nodup_map stage.formed.apart (covers.globals global kept) listed'
    (named.trans named'.symm)
  exact ⟨index, found, has, typed⟩

end Stage

namespace Emission

variable {σ : Type} {state after : EmissionState σ}

/-- The address of a host storage that the code did not take over is that of a constant with
its contents. -/
theorem embed_ok {storage : Nat} {register : Register}
    (emitted : (embed storage : Emission σ Register) state = .ok register after)
    (sound : state.Sound) (faithful : state.Faithful)
    (free : state.states.lookup storage = none) :
    ∃ (middle : EmissionState σ) (global : Global), state.Grows middle ∧
      middle.heap = state.heap ∧ global ∈ middle.builder.globals ∧ global.isMutable = false ∧
      global.data = state.heap.storage storage ∧
      middle.builder.blockAt = state.builder.blockAt ∧
      middle.builder.current = state.builder.current ∧
      (building (Building.globalAddress global.name) : Emission σ Register) middle =
        .ok register after := by
  obtain ⟨_, _, looked, emitted⟩ := bind_ok.mp emitted
  obtain ⟨rfl, rfl⟩ := state_ok.mp looked
  rw [free] at emitted
  cases cached : state.constants.lookup storage with
  | some name =>
      rw [cached] at emitted
      obtain ⟨_, held⟩ := faithful.constants storage name (mem_of_lookup cached)
      exact ⟨state, _, .refl sound, rfl, held, rfl, rfl, rfl, rfl, emitted⟩
  | none =>
      rw [cached] at emitted
      obtain ⟨name, _, declared, emitted⟩ := bind_ok.mp emitted
      obtain ⟨_, _, changed, emitted⟩ := bind_ok.mp emitted
      obtain ⟨builder, built, rfl⟩ := building_ok.mp declared
      obtain ⟨rfl, rfl⟩ := Building.global_ok.mp built
      cases change_ok.mp changed
      have grows := EmissionState.Grows.declaring sound "const" (state.heap.storage storage) false
      have listed := sound.mem_declaring "const" (state.heap.storage storage) false
      have grows' := EmissionState.Grows.remembering grows.sound listed rfl storage
      exact ⟨_, _, grows.trans grows', rfl, listed, rfl, rfl, rfl, rfl, emitted⟩

end Emission

/-! ### Pointers -/

namespace Stage

variable {stage : Stage} {world : World} {size : Nat} {heap : Heap}
  {registers : Array (Option Slot)} {memory : Memory} {storage allocation : Nat}

/-- The allocation holds the storage, or it is a constant of the code with its contents. -/
def Held (stage : Stage) (world : World) (storage allocation : Nat) : Prop :=
  world.linked storage allocation ∨
    ∃ global : Global, stage.module.globals[allocation]? = some global ∧
      global.isMutable = false ∧ world.known storage = some (.fixed global.data)

theorem Held.image (held : stage.Held world storage allocation)
    (agrees : stage.Agrees world size heap registers memory) :
    memory.allocations[allocation]? = some (heap.storage storage).image := by
  rcases held with linked | ⟨global, found, fixed, known⟩
  · exact agrees.linked storage allocation linked
  · have same : heap.storage storage = global.data := agrees.known storage _ known
    rw [same]
    exact agrees.holds.constants allocation global found fixed

/-- A storage that memory holds has fewer elements than there are positions. -/
theorem Held.size_lt (held : stage.Held world storage allocation)
    (agrees : stage.Agrees world size heap registers memory) :
    (heap.storage storage).size < 2 ^ 63 := by
  have small := agrees.holds.addressable allocation _ (held.image agrees)
  rw [Storage.size_image] at small
  exact Nat.lt_of_le_of_lt (Nat.le_mul_of_pos_right _ (DType.width_pos _)) small

end Stage

/-- A pointer further on points to elements of the same type. -/
theorem pointee_offset {builder later : FunctionBuilder} {base register : Register}
    {index : Operand} {dtype : DType} (formed : builder.Formed)
    (built : Building.offset base index builder = .ok register later)
    (typed : builder.pointeeType base = .ok dtype) : later.pointeeType register = .ok dtype := by
  obtain ⟨dtype', typed', _, ⟨_, rfl, rfl⟩ | ⟨_, _, rfl, rfl⟩⟩ :=
    (Building.offset_ok formed.numbered).mp built
  · exact typed
  · cases typed.symm.trans typed'
    exact Building.pointeeType_ok.mpr Array.getElem?_push_size

namespace Stage

variable {σ : Type} {stage : Stage} {world : World} {seeds : Nat → Option Nat}
  {before after : EmissionState σ} {heap : Heap} {machine : State}

/-- The address of a constant that the code has declared aside. -/
theorem constant_runs {start : EmissionState σ} {builder : FunctionBuilder} {global : Global}
    {address : Register} (grows : before.Grows start)
    (blocks : start.builder.blockAt = before.builder.blockAt)
    (current : start.builder.current = before.builder.current)
    (listed : global ∈ start.builder.globals)
    (built : Building.globalAddress global.name start.builder = .ok address builder)
    (covers : builder.Grows stage.builder) (holds : stage.Matches world before heap machine) :
    stage.Runs before.builder builder machine machine ∧
      ∃ index, stage.module.globals[index]? = some global ∧
        machine.frame.Has address (.pointer ⟨index, 0⟩) ∧
        stage.builder.function.registerTypes[address]? = some (.pointer global.dtype) := by
  have line := Building.globalAddress_straight grows.sound.builder grows.sound.opened built
  refine ⟨holds.follows.aside_runs (line.current.trans current) ?_,
    address_has built grows.sound.builder covers listed rfl holds.agrees.holds⟩
  rw [← blocks, ← current]
  rcases (Building.globalAddress_ok grows.sound.builder).mp built with
    ⟨_, rfl⟩ | ⟨_, _, _, _, _, rfl⟩ <;> rfl

/-- A pointer leads to where the host finds the value. -/
theorem pointer_runs {host code : Value} {register : Register}
    (emitted : (Emission.pointer code : Emission σ Register) before = .ok register after)
    (ready : world.Ready seeds before) (alike : Alike world host code)
    (covers : stage.Covers after) (holds : stage.Matches world before heap machine) :
    ∃ storage base allocation next, host.place = .host storage base ∧
      stage.Computes before after machine next ∧
      next.frame.Has register
        (.pointer ⟨allocation, base * (heap.storage storage).dtype.width⟩) ∧
      stage.Held world storage allocation ∧ base ≤ (heap.storage storage).size ∧
      after.builder.pointeeType register = .ok (heap.storage storage).dtype ∧
      host.dtype? = some (heap.storage storage).dtype := by
  unfold Emission.pointer at emitted
  cases place : code.place with
  | unbound =>
      rw [place] at emitted
      exact (Emission.fail_ok emitted).elim
  | emitted register' =>
      rw [place] at emitted
      obtain ⟨rfl, rfl⟩ := Emission.pure_ok.mp emitted
      obtain ⟨dtype?, layout?, place'⟩ := host
      obtain ⟨codeType?, codeLayout?, codePlace⟩ := code
      subst place
      obtain ⟨_, _, placed⟩ := alike
      cases placed with
      | pointer register target knowledge points known =>
          obtain ⟨within, has⟩ := holds.agrees.pointers _ target points
          have typed := (holds.agrees.known target.storage knowledge known).dtype
          obtain ⟨_, knowledge', known', declared⟩ := ready.fits.pointers _ target points
          cases known.symm.trans known'
          refine ⟨target.storage, target.base, target.allocation, machine, rfl,
            ⟨.refl holds.follows, rfl⟩, has, .inl (world.pointed _ target points), within, ?_, ?_⟩
          · rw [typed]
            exact Building.pointeeType_ok.mpr declared
          · rw [typed]
  | host name base =>
      rw [place] at emitted
      obtain ⟨address, middle, embedded, emitted⟩ := Emission.bind_ok.mp emitted
      obtain ⟨storage, here, named, known, within, typed⟩ := alike.constant ready.fits place
      obtain ⟨below, _⟩ := ready.fits.constants name storage named
      have free := ready.fits.free named
      obtain ⟨start, global, grows, _, listed, fixed, data, blocks, current, embedded⟩ :=
        Emission.embed_ok embedded ready.sound ready.faithful free
      obtain ⟨builder, built, rfl⟩ := Emission.building_ok.mp embedded
      obtain ⟨builder', built', rfl⟩ := Emission.building_ok.mp emitted
      have line := Building.globalAddress_straight grows.sound.builder grows.sound.opened built
      have formed := line.formed grows.sound.builder
      have line' := Building.offset_straight formed line.opened built'
      have covers' : builder.Grows stage.builder := (line'.steps.grows formed).trans covers.builder
      obtain ⟨aside, index, found, has, declared⟩ :=
        constant_runs grows blocks current listed built covers' holds
      have same : heap.storage storage = before.heap.storage name :=
        holds.agrees.known storage _ known
      have held : stage.Held world storage index := by
        refine .inr ⟨global, found, fixed, ?_⟩
        rw [data]
        exact known
      rw [← same] at within typed data
      obtain ⟨dtype, pointed, _, _⟩ := (Building.offset_ok formed.numbered).mp built'
      have declared' := covers'.types _ _ (Building.pointeeType_ok.mp pointed)
      have dtyped : dtype = (heap.storage storage).dtype := by
        rw [declared] at declared'
        cases declared'
        rw [Global.dtype, data]
      subst dtyped
      have small : base < 2 ^ 63 := Nat.lt_of_le_of_lt within (held.size_lt holds.agrees)
      have moved := Machine.moved_nat index 0 base (heap.storage storage).dtype.width
      rw [← Int64.toInt_ofNat_of_lt small] at moved
      obtain ⟨next, runs, memory, has'⟩ := offset_runs aside.follows formed holds.agrees.holds.size
        built' covers.builder has rfl pointed moved
      refine ⟨storage, base, index, next, here, ⟨aside.trans runs ?_, memory⟩, ?_, held, within,
        ?_, typed⟩
      · exact ((grows.builder ready.sound).trans (line.steps.grows grows.sound.builder)).size_le
      · simpa using has'
      · exact pointee_offset formed built' pointed

/-- The registers of an operand are registers of the code. -/
def Reads (builder : FunctionBuilder) (operand : Operand) : Prop :=
  ∀ register, operand = .register register → register < builder.size

/-- An operand holds the element that the host reads. -/
theorem operand_runs {host code : Value} {operand : Operand}
    (emitted : (Emission.operand code : Emission σ Operand) before = .ok operand after)
    (ready : world.Ready seeds before) (alike : Alike world host code)
    (covers : stage.Covers after) (holds : stage.Matches world before heap machine)
    {element : Literal} (read : Host.literal host heap = .ok element) :
    ∃ next, stage.Computes before after machine next ∧
      next.frame.element operand = .ok element ∧ Reads after.builder operand := by
  obtain ⟨_, _, looked, emitted⟩ := Emission.bind_ok.mp emitted
  obtain ⟨rfl, rfl⟩ := Emission.known_ok.mp looked
  cases known : Emission.literal? code before.heap with
  | some literal =>
      rw [known] at emitted
      obtain ⟨rfl, rfl⟩ := Emission.pure_ok.mp emitted
      cases (alike.known ready.fits holds.agrees.known known).symm.trans read
      exact ⟨machine, ⟨.refl holds.follows, rfl⟩, rfl, fun _ absurd => by cases absurd⟩
  | none =>
      rw [known] at emitted
      obtain ⟨pointer, middle, pointed, emitted⟩ := Emission.bind_ok.mp emitted
      obtain ⟨register, _, loaded, emitted⟩ := Emission.bind_ok.mp emitted
      obtain ⟨builder, built, rfl⟩ := Emission.building_ok.mp loaded
      obtain ⟨rfl, rfl⟩ := Emission.pure_ok.mp emitted
      have grows := (Emission.pointer_emits code before pointer middle pointed ready.sound).1
      have line := Building.load_straight grows.sound.builder built
      have grows' := EmissionState.Grows.onBuilder grows.sound line.steps line.balanced line.states
      obtain ⟨storage, base, allocation, next, place, computes, has, held, _, typed, _⟩ :=
        pointer_runs pointed ready alike (covers.of_grows grows.sound grows') holds
      have holds' := computes.follows_on holds ready grows
      obtain ⟨storage', base', place', found⟩ := Host.literal_ok read
      cases place.symm.trans place'
      rw [← Host.typed_literal read place] at typed has
      have image := held.image holds.agrees
      rw [← computes.memory] at image
      have bytes := read_element image found
      rw [← Host.typed_literal read place] at bytes
      obtain ⟨next', runs, memory, has'⟩ := load_runs holds'.follows grows.sound.builder
        holds'.agrees.holds.size built covers.builder has typed bytes
      refine ⟨next', computes.trans ⟨runs, memory⟩ ready.sound grows, Frame.element_ok.mpr has', ?_⟩
      rintro _ ⟨⟩
      obtain ⟨_, _, _, rfl, rfl⟩ := (Building.load_ok grows.sound.builder.numbered).mp built
      simp [EmissionState.onBuilder]

end Stage

/-! ### What is written for an operand -/

namespace Code.Building

variable {builder after : FunctionBuilder} {base register : Register} {index operand : Operand}

theorem globalAddress_writes (numbered : builder.Numbered) {name : String}
    (built : globalAddress name builder = .ok register after) :
    builder.Writes [] after ∧ (name, register) ∈ after.addresses := by
  obtain ⟨_, _, looked, built⟩ := Action.bind_ok.mp built
  obtain ⟨rfl, rfl⟩ := Action.get_ok.mp looked
  cases cached : builder.addresses.lookup name with
  | some register' =>
      rw [cached] at built
      obtain ⟨rfl, rfl⟩ := Action.pure_ok.mp built
      exact ⟨.refl numbered, mem_of_lookup cached⟩
  | none =>
      rw [cached] at built
      dsimp only at built
      generalize ((builder.globals.find? fun global => global.name == name).map
        Global.dtype).or (builder.imported.lookup name) = dtype? at built
      cases dtype? with
      | none => exact (Action.fail_ok built).elim
      | some dtype =>
          obtain ⟨_, _, made, built⟩ := Action.bind_ok.mp built
          obtain ⟨rfl, rfl⟩ := newRegister_ok.mp made
          cases built
          exact ⟨.locating numbered name dtype, List.mem_cons_self ..⟩

end Code.Building

/-- The global that stands for a host storage: it took the place of the storage as state, or it
is a constant with its elements. -/
def EmissionState.globalOf? {ρ : Type} (state : EmissionState ρ) (storage : Nat) : Option String :=
  (state.states.lookup storage).or (state.constants.lookup storage)

namespace Emission

variable {ρ : Type} {state after : EmissionState ρ} {value : Value} {register : Register}

/-- Where a value begins when the code runs, and the type of the elements there.  A host array
begins in the global that stands for its storage. -/
inductive Begins (builder : FunctionBuilder) (globalOf? : Nat → Option String) (module : Module)
    (machine : State) (value : Value) : Pointer → DType → Prop where
  | emitted {register : Register} {start : Pointer} {dtype : DType}
      (place : value.place = .emitted register)
      (typed : builder.pointeeType register = .ok dtype)
      (has : machine.frame.Has register (.pointer start)) :
      Begins builder globalOf? module machine value start dtype
  | host {storage base index : Nat} {name : String} {global : Global}
      (place : value.place = .host storage base) (named : globalOf? storage = some name)
      (found : globalIndex? module name = some index)
      (listed : module.globals[index]? = some global) (fits : base < 2 ^ 63) :
      Begins builder globalOf? module machine value ⟨index, base * global.dtype.width⟩ global.dtype

theorem Begins.mono {builder later : FunctionBuilder} {globalOf? : Nat → Option String}
    {module : Module} {machine next : State} {start : Pointer} {dtype : DType}
    {code rest : List Instruction}
    (begins : Begins builder globalOf? module machine value start dtype)
    (writes : builder.Writes code later) (ran : Performs module code rest machine next) :
    Begins later globalOf? module next value start dtype := by
  cases begins with
  | emitted place typed has =>
      have old := writes.old (below_of_pointee typed)
      exact .emitted place (writes.pointee typed) (ran.has has old)
  | host place named found listed fits => exact .host place named found listed fits

theorem embed_writes (numbered : state.builder.Numbered) {storage : Nat}
    (done : (embed storage : Emission ρ Register) state = .ok register after) :
    state.builder.Writes [] after.builder ∧ ∃ name, after.globalOf? storage = some name ∧
      (name, register) ∈ after.builder.addresses := by
  obtain ⟨_, _, looked, done⟩ := bind_ok.mp done
  obtain ⟨rfl, rfl⟩ := state_ok.mp looked
  -- A global that is remembered.
  have remembered : ∀ name, state.globalOf? storage = some name →
      (building (Building.globalAddress name) : Emission ρ Register) state = .ok register after →
      state.builder.Writes [] after.builder ∧ ∃ name, after.globalOf? storage = some name ∧
        (name, register) ∈ after.builder.addresses := by
    intro name named located
    obtain ⟨builder, built, rfl⟩ := building_ok.mp located
    obtain ⟨writes, member⟩ := Building.globalAddress_writes numbered built
    exact ⟨writes, name, named, member⟩
  cases asState : state.states.lookup storage with
  | some name =>
      rw [asState] at done
      exact remembered name (by rw [EmissionState.globalOf?, asState, Option.some_or]) done
  | none =>
      rw [asState] at done
      cases asConstant : state.constants.lookup storage with
      | some name =>
          rw [asConstant] at done
          exact remembered name
            (by rw [EmissionState.globalOf?, asState, asConstant, Option.none_or]) done
      | none =>
          rw [asConstant] at done
          obtain ⟨name, _, declared, done⟩ := bind_ok.mp done
          obtain ⟨_, _, changed, done⟩ := bind_ok.mp done
          obtain ⟨builder, built, rfl⟩ := building_ok.mp declared
          obtain ⟨rfl, rfl⟩ := Building.global_ok.mp built
          cases change_ok.mp changed
          obtain ⟨builder', built', rfl⟩ := building_ok.mp done
          have declaring := Writes.declaring numbered "const" (state.heap.storage storage) false
          obtain ⟨writes, member⟩ := Building.globalAddress_writes declaring.numbered built'
          refine ⟨declaring.trans writes, _, ?_, member⟩
          change (state.states.lookup storage).or (List.lookup storage ((storage, _) :: _)) = _
          rw [asState, Option.none_or, List.lookup_cons_self]

/-- A pointer to where the value begins; the address of a global is taken in the prologue. -/
theorem pointer_achieves (regular : state.builder.Regular)
    (done : (pointer value : Emission ρ Register) state = .ok register after) :
    ∃ code, state.builder.Writes code after.builder ∧
      (∀ storage base, value.place = .host storage base →
        ∃ name, after.globalOf? storage = some name) ∧
      ∀ module machine start dtype,
        Begins state.builder after.globalOf? module machine value start dtype →
        Achieves module after.builder code machine fun next =>
          after.builder.pointeeType register = .ok dtype ∧
            next.frame.Has register (.pointer start) := by
  unfold pointer at done
  cases place : value.place with
  | unbound =>
      rw [place] at done
      exact (fail_ok done).elim
  | emitted register' =>
      rw [place] at done
      obtain ⟨rfl, rfl⟩ := pure_ok.mp done
      refine ⟨[], .refl regular.numbered, nofun, ?_⟩
      intro module machine start dtype begins
      cases begins with
      | emitted place' typed has =>
          cases place.symm.trans place'
          exact .none ⟨typed, has⟩
      | host place' => cases place.symm.trans place'
  | host storage base =>
      rw [place] at done
      obtain ⟨address, middle, embedded, done⟩ := bind_ok.mp done
      obtain ⟨writes, name, named, member⟩ := embed_writes regular.numbered embedded
      obtain ⟨builder, built, rfl⟩ := building_ok.mp done
      obtain ⟨code, dtype, writes', typed, typed', achieves⟩ :=
        Building.offset_achieves writes.numbered built
      refine ⟨code, writes.trans writes', ?_, ?_⟩
      · rintro _ _ ⟨⟩
        exact ⟨name, named⟩
      intro module machine start dtype' begins rest waiting suits
      cases begins with
      | emitted place' => cases place.symm.trans place'
      | @host _ _ index name' global place' named' found listed fits =>
          cases place.symm.trans place'
          cases named'.symm.trans named
          obtain ⟨index', global', found', listed', declared, has⟩ :=
            (suits.earlier writes').addresses name address member
          cases found.symm.trans found'
          cases listed.symm.trans listed'
          cases declared.symm.trans
            ((suits.earlier writes').types _ _ (Building.pointeeType_ok.mp typed))
          obtain ⟨next, ran, has'⟩ :=
            achieves module machine ⟨index, 0⟩ base has rfl fits rest waiting suits
          rw [Nat.zero_add] at has'
          exact ⟨next, ran, typed', has'⟩

/-- The element that a pointer register leads to, as an operand. -/
theorem operand_achieves (regular : state.builder.Regular) {operand : Operand}
    (done : (Emission.operand value : Emission ρ Operand) state = .ok operand after) :
    ∃ code, state.builder.Writes code after.builder ∧ Stage.Reads after.builder operand ∧
      ∀ module machine register pointer element, value.place = .emitted register →
        state.builder.pointeeType register = .ok element.dtype →
        machine.frame.Has register (.pointer pointer) →
        machine.memory.read pointer element.dtype.width = .ok element.bytes →
        Achieves module after.builder code machine
          fun next => next.frame.element operand = .ok element := by
  obtain ⟨_, _, looked, done⟩ := bind_ok.mp done
  obtain ⟨rfl, rfl⟩ := known_ok.mp looked
  cases known : literal? value state.heap with
  | some literal =>
      rw [known] at done
      obtain ⟨rfl, rfl⟩ := pure_ok.mp done
      refine ⟨[], .refl regular.numbered, nofun, ?_⟩
      intro module machine register pointer element place
      rw [literal?, Value.isHost, place] at known
      cases known
  | none =>
      rw [known] at done
      obtain ⟨address, middle, pointed, done⟩ := bind_ok.mp done
      obtain ⟨register, _, loaded, done⟩ := bind_ok.mp done
      obtain ⟨builder, built, rfl⟩ := building_ok.mp loaded
      obtain ⟨rfl, rfl⟩ := pure_ok.mp done
      obtain ⟨code, writes, _, achieves⟩ := pointer_achieves regular pointed
      obtain ⟨code', writes', below, achieves'⟩ := Building.load_achieves writes.numbered built
      refine ⟨code ++ code', writes.trans writes', ?_, ?_⟩
      · rintro _ ⟨⟩
        exact below
      intro module machine register' pointer element place typed has read
      refine .seq regular writes writes'
        (achieves module machine pointer element.dtype (.emitted place typed has)) ?_
      rintro rest next ran ⟨typed', has'⟩
      rw [← ran.memory] at read
      exact (achieves' module next pointer element has' typed' read).mono
        fun _ => Frame.element_ok.mpr

end Emission
end TensorGraph

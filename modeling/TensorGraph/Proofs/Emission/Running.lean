/-
Running straight code.

Between two points of the emission the machine runs what was appended in
between.  A run defines new registers only: what was in a register before, and
what the prologue put there, stays.  Each instruction of the builder is one
lemma about such runs.

Code that was written at the end of a block can also be looked at by itself,
whatever function it ends up in: a machine that comes to it with the registers
of the builder performs it.
-/

import TensorGraph.Proofs.Emission.Stage
import TensorGraph.Proofs.Machine.Image

namespace TensorGraph

open Code FunctionBuilder Machine
open Optimize (targets)

namespace Machine.Frame

variable {frame : Frame} {register : Register}

/-- The register holds the slot. -/
def Has (frame : Frame) (register : Register) (slot : Slot) : Prop :=
  frame.registers[register]? = some (some slot)

theorem slot_ok {slot : Slot} : frame.slot register = .ok slot ↔ frame.Has register slot := by
  unfold Frame.slot Has
  cases found : frame.registers[register]? with
  | none => simp
  | some slot? => cases slot? <;> simp

theorem pointer_of_has {pointer : Pointer} (has : frame.Has register (.pointer pointer)) :
    frame.pointer register = .ok pointer := by
  unfold Frame.pointer
  rw [slot_ok.mpr has]

theorem element_ok {value : Literal} :
    frame.element (.register register) = .ok value ↔ frame.Has register (.element value) := by
  rw [← slot_ok]
  cases found : frame.slot register with
  | error trap => simp [Frame.element, found]
  | ok slot => cases slot <;> simp [Frame.element, found]

end Machine.Frame

/-! ### Instructions that succeed -/

namespace Machine

variable {module : Module} {memory : Memory} {frame : Frame}

theorem effect_offset {target base : Register} {index : Operand} {place moved : Pointer}
    (has : frame.Has base (.pointer place)) {position : Int64}
    (read : frame.element index = .ok (.i64 position)) {dtype : DType}
    (pointee : frame.pointee base = .ok dtype)
    (reached : place.moved position.toInt dtype.width = .ok moved) :
    effect module memory frame (.offset target base index) =
      .ok (memory, some (target, .pointer moved)) := by
  simp only [effect, Frame.pointer_of_has has, read, pointee, bind, Except.bind, Literal.toInt64,
    reached, pure, Except.pure]

theorem effect_load {target pointer : Register} {place : Pointer}
    (has : frame.Has pointer (.pointer place)) {element : Literal}
    (pointee : frame.pointee pointer = .ok element.dtype)
    (read : memory.read place element.dtype.width = .ok element.bytes) :
    effect module memory frame (.load target pointer) =
      .ok (memory, some (target, .element element)) := by
  simp only [effect, Frame.pointer_of_has has, pointee, read, bind, Except.bind, Except.mapError,
    Literal.ofImage_bytes, pure, Except.pure]

theorem effect_store {pointer : Register} {value : Operand} {place : Pointer}
    (has : frame.Has pointer (.pointer place)) {element : Literal}
    (read : frame.element value = .ok element)
    (check : memory.check place element.bytes.length = .ok ()) :
    effect module memory frame (.store pointer value) =
      .ok (memory.put place element.bytes, none) := by
  simp only [effect, Frame.pointer_of_has has, read, check, bind, Except.bind, Except.mapError,
    pure, Except.pure]

theorem effect_binary {target : Register} {op : BinaryOp} {left right : Operand}
    {first second result : Literal} (read : frame.element left = .ok first)
    (read' : frame.element right = .ok second) (done : first.binary op second = .ok result) :
    effect module memory frame (.binary target op left right) =
      .ok (memory, some (target, .element result)) := by
  simp only [effect, read, read', done, bind, Except.bind, Except.mapError, pure, Except.pure]

theorem effect_unary {target : Register} {op : UnaryOp} {operand : Operand}
    {value result : Literal} (read : frame.element operand = .ok value)
    (done : value.unary op = .ok result) :
    effect module memory frame (.unary target op operand) =
      .ok (memory, some (target, .element result)) := by
  simp only [effect, read, done, bind, Except.bind, Except.mapError, pure, Except.pure]

theorem effect_compare {target : Register} {op : CompareOp} {left right : Operand}
    {first second : Literal} {result : Bool} (read : frame.element left = .ok first)
    (read' : frame.element right = .ok second) (done : first.compare op second = .ok result) :
    effect module memory frame (.compare target op left right) =
      .ok (memory, some (target, .element (.bool result))) := by
  simp only [effect, read, read', done, bind, Except.bind, Except.mapError, pure, Except.pure]

theorem effect_cast {target : Register} {operand : Operand} {dtype : DType} {value : Literal}
    (read : frame.element operand = .ok value) :
    effect module memory frame (.cast target operand dtype) =
      .ok (memory, some (target, .element (value.cast dtype))) := by
  simp only [effect, read, bind, Except.bind, pure, Except.pure]

theorem effect_move {destination source : Register} {bytes : Nat} {place origin : Pointer}
    (has : frame.Has destination (.pointer place)) (has' : frame.Has source (.pointer origin))
    {image : List UInt8} (read : memory.read origin bytes = .ok image)
    (check : memory.check place image.length = .ok ()) :
    effect module memory frame (.move destination source bytes) =
      .ok (memory.put place image, none) := by
  simp only [effect, Frame.pointer_of_has has, Frame.pointer_of_has has', read, check, bind,
    Except.bind, Except.mapError, pure, Except.pure]

theorem moved_nat (allocation offset index width : Nat) :
    (⟨allocation, offset⟩ : Pointer).moved index width =
      .ok ⟨allocation, offset + index * width⟩ := by
  unfold Pointer.moved
  have forward : (0 : Int) ≤ (offset : Int) + (index : Int) * width := by positivity
  rw [if_pos forward]
  congr 2

end Machine

namespace Stage

variable {stage : Stage} {builder after last : FunctionBuilder} {state next : State}

/-- The machine runs from `state` to `next` what `after` holds beyond `builder`. -/
structure Runs (stage : Stage) (builder after : FunctionBuilder) (state next : State) : Prop where
  reaches : Reaches stage.module state next
  follows : stage.Follows after next
  kept : ∀ register, register < builder.size ∨ register ∈ targets stage.builder.prologue →
    next.frame.registers[register]? = state.frame.registers[register]?
  room : next.frame.registers.size = state.frame.registers.size

namespace Runs

theorem refl (follows : stage.Follows builder state) : stage.Runs builder builder state state :=
  ⟨.refl, follows, fun _ _ => rfl, rfl⟩

theorem trans {final : State} (one : stage.Runs builder after state next)
    (two : stage.Runs after last next final) (grows : builder.size ≤ after.size) :
    stage.Runs builder last state final :=
  ⟨one.reaches.trans two.reaches, two.follows, fun register known =>
    (two.kept register (known.imp_left fun below => Nat.lt_of_lt_of_le below grows)).trans
      (one.kept register known),
    two.room.trans one.room⟩

theorem has (runs : stage.Runs builder after state next) {register : Register} {slot : Slot}
    (has : state.frame.Has register slot)
    (known : register < builder.size ∨ register ∈ targets stage.builder.prologue) :
    next.frame.Has register slot :=
  (runs.kept register known).trans has

/-- An operand of the code so far keeps its element. -/
theorem element (runs : stage.Runs builder after state next) {operand : Operand}
    {value : Literal} (read : state.frame.element operand = .ok value)
    (known : ∀ register, operand = .register register → register < builder.size) :
    next.frame.element operand = .ok value := by
  cases operand with
  | constant literal => exact read
  | register register =>
      exact Frame.element_ok.mpr (runs.has (Frame.element_ok.mp read) (.inl (known register rfl)))

end Runs

/-- Registers and the prologue are set up beside the running code. -/
theorem Follows.aside_runs (follows : stage.Follows builder state)
    (current : after.current = builder.current)
    (blocks : after.blockAt builder.current = builder.blockAt builder.current) :
    stage.Runs builder after state state :=
  ⟨.refl, follows.aside current blocks, fun _ _ => rfl, rfl⟩

/-- The type of a register that the code knows. -/
theorem pointee_of_function (function : state.frame.function = stage.function)
    (covers : builder.Grows stage.builder) {register : Register} {dtype : DType}
    (typed : builder.pointeeType register = .ok dtype) :
    state.frame.pointee register = .ok dtype := by
  have known := covers.types _ _ (Building.pointeeType_ok.mp typed)
  have same : state.frame.function.typeOf? register = some (.pointer dtype) := by
    rw [function]
    exact known
  unfold Frame.pointee
  rw [same]

theorem Follows.pointee (follows : stage.Follows builder state)
    (covers : builder.Grows stage.builder) {register : Register} {dtype : DType}
    (typed : builder.pointeeType register = .ok dtype) :
    state.frame.pointee register = .ok dtype :=
  pointee_of_function follows.function covers typed

/-- A register that a block defines is not one of the prologue. -/
theorem not_prologue_of_block (covers : builder.Grows stage.builder) {id : BlockId} {block : Block}
    (found : builder.blockAt id = some block) {target : Register}
    (defined : target ∈ targets block.instructions) :
    target ∉ targets stage.builder.prologue := by
  obtain ⟨instruction, member, defines⟩ := List.mem_filterMap.mp defined
  obtain ⟨later, found', extended⟩ := covers.blocks _ _ found
  obtain ⟨more, instructions, _⟩ := extended.instructions
  have inside : instruction ∈ stage.builder.function.instructions := by
    refine List.mem_flatMap.mpr ⟨later, List.mem_of_getElem? found', ?_⟩
    rw [instructions]
    exact List.mem_append_left _ member
  have single := stage.formed.single
  intro prepared
  exact (List.nodup_append.mp single).2.2 target prepared target
    (List.mem_filterMap.mpr ⟨instruction, inside, defines⟩) rfl

/-- A register that the code defines is not one of the prologue. -/
theorem not_prologue (numbered : builder.Numbered) (opened : builder.Opened)
    {instruction : Instruction}
    (covers : (builder.pushing instruction).Grows stage.builder) {target : Register}
    (defines : instruction.target? = some target) : target ∉ targets stage.builder.prologue := by
  obtain ⟨block, found, _⟩ := opened_iff.mp opened
  have there := numbered.blockAt_pushing instruction builder.current
  rw [if_pos rfl, found] at there
  refine not_prologue_of_block covers there (List.mem_filterMap.mpr ⟨instruction, ?_, defines⟩)
  simp

section Instructions

variable (follows : stage.Follows builder state) (formed : builder.Formed)
  (opened : builder.Opened) (room : state.frame.registers.size = stage.builder.size)

include follows formed opened room

/-- An instruction that defines a register is run. -/
theorem defines_runs {type : RegisterType} {instruction : Instruction}
    (covers : ((builder.registering type).pushing instruction).Grows stage.builder)
    (plain : Instruction.isCall instruction = false)
    (defines : instruction.target? = some builder.size) {slot : Slot}
    (done : effect stage.module state.memory state.frame instruction =
      .ok (state.memory, some (builder.size, slot))) :
    ∃ next, stage.Runs builder ((builder.registering type).pushing instruction) state next ∧
      next.memory = state.memory ∧ next.frame.Has builder.size slot := by
  have numbered := formed.numbered.registering type
  have opened' : (builder.registering type).Opened := opened
  have aside : stage.Follows (builder.registering type) state :=
    follows.aside rfl (blockAt_registering builder type builder.current)
  obtain ⟨next, moves, follows', memory, registers⟩ := aside.run numbered covers plain done
  have within : builder.size < state.frame.registers.size := by
    rw [room]
    refine Nat.lt_of_lt_of_le ?_ covers.size_le
    rw [size_pushing, size_registering]
    exact Nat.lt_succ_self _
  have fresh := not_prologue numbered opened' covers defines
  have changed : next.frame.registers =
      state.frame.registers.setIfInBounds builder.size (some slot) := registers
  refine ⟨next, ⟨.single moves, follows', ?_, ?_⟩, memory, ?_⟩
  · intro register known
    have different : builder.size ≠ register := by
      rintro rfl
      exact known.elim (Nat.lt_irrefl _) fresh
    rw [changed, Array.getElem?_setIfInBounds_ne different]
  · rw [changed, Array.size_setIfInBounds]
  · unfold Frame.Has
    rw [changed, Array.getElem?_setIfInBounds_self_of_lt within]

omit opened room in
/-- An instruction that only writes memory is run. -/
theorem writes_runs {instruction : Instruction}
    (covers : (builder.pushing instruction).Grows stage.builder)
    (plain : Instruction.isCall instruction = false) {memory : Memory}
    (done : effect stage.module state.memory state.frame instruction = .ok (memory, none)) :
    ∃ next, stage.Runs builder (builder.pushing instruction) state next ∧
      next.memory = memory := by
  obtain ⟨next, moves, follows', memory', registers⟩ :=
    follows.run formed.numbered covers plain done
  have same : next.frame.registers = state.frame.registers := registers
  exact ⟨next, ⟨.single moves, follows', fun _ _ => by rw [same], by rw [same]⟩, memory'⟩

omit opened in
theorem load_runs {pointer register : Register}
    (built : Building.load pointer builder = .ok register after)
    (covers : after.Grows stage.builder) {place : Pointer}
    (has : state.frame.Has pointer (.pointer place)) {element : Literal}
    (typed : builder.pointeeType pointer = .ok element.dtype)
    (read : state.memory.read place element.dtype.width = .ok element.bytes) :
    ∃ next, stage.Runs builder after state next ∧ next.memory = state.memory ∧
      next.frame.Has register (.element element) := by
  have grows := (Building.load_straight formed built).steps.grows formed
  obtain ⟨dtype, typed', opened, rfl, rfl⟩ := (Building.load_ok formed.numbered).mp built
  cases typed.symm.trans typed'
  exact defines_runs follows formed opened room covers rfl rfl
    (effect_load has (follows.pointee (grows.trans covers) typed) read)

omit opened in
theorem offset_runs {base register : Register} {index : Operand}
    (built : Building.offset base index builder = .ok register after)
    (covers : after.Grows stage.builder) {place moved : Pointer}
    (has : state.frame.Has base (.pointer place)) {position : Int64}
    (read : state.frame.element index = .ok (.i64 position)) {dtype : DType}
    (typed : builder.pointeeType base = .ok dtype)
    (reached : place.moved position.toInt dtype.width = .ok moved) :
    ∃ next, stage.Runs builder after state next ∧ next.memory = state.memory ∧
      next.frame.Has register (.pointer moved) := by
  obtain ⟨dtype', typed', _, cases⟩ := (Building.offset_ok formed.numbered).mp built
  cases typed.symm.trans typed'
  rcases cases with ⟨rfl, rfl, rfl⟩ | ⟨_, opened, rfl, rfl⟩
  · have zero : (0 : Int64) = position := by
      cases read
      rfl
    have same : moved = place := by
      rw [← zero] at reached
      simpa [Pointer.moved] using reached.symm
    exact ⟨state, .refl follows, rfl, same ▸ has⟩
  · have plain : Plain (.offset builder.size base index) := trivial
    have straight := Straight.define formed opened plain (.pointer dtype) rfl
    exact defines_runs follows formed opened room covers rfl rfl (effect_offset has read
      (follows.pointee ((straight.steps.grows formed).trans covers) typed) reached)

omit opened in
theorem binary_runs {op : BinaryOp} {left right : Operand} {register : Register}
    (built : Building.binary op left right builder = .ok register after)
    (covers : after.Grows stage.builder) {first second result : Literal}
    (read : state.frame.element left = .ok first) (read' : state.frame.element right = .ok second)
    (done : first.binary op second = .ok result) :
    ∃ next, stage.Runs builder after state next ∧ next.memory = state.memory ∧
      next.frame.Has register (.element result) := by
  obtain ⟨dtype, _, _, opened, rfl, rfl⟩ := (Building.binary_ok formed.numbered).mp built
  exact defines_runs follows formed opened room covers rfl rfl (effect_binary read read' done)

omit opened in
theorem unary_runs {op : UnaryOp} {operand : Operand} {register : Register}
    (built : Building.unary op operand builder = .ok register after)
    (covers : after.Grows stage.builder) {value result : Literal}
    (read : state.frame.element operand = .ok value) (done : value.unary op = .ok result) :
    ∃ next, stage.Runs builder after state next ∧ next.memory = state.memory ∧
      next.frame.Has register (.element result) := by
  obtain ⟨dtype, _, opened, rfl, rfl⟩ := (Building.unary_ok formed.numbered).mp built
  exact defines_runs follows formed opened room covers rfl rfl (effect_unary read done)

omit opened in
theorem compare_runs {op : CompareOp} {left right : Operand} {register : Register}
    (built : Building.compare op left right builder = .ok register after)
    (covers : after.Grows stage.builder) {first second : Literal} {result : Bool}
    (read : state.frame.element left = .ok first) (read' : state.frame.element right = .ok second)
    (done : first.compare op second = .ok result) :
    ∃ next, stage.Runs builder after state next ∧ next.memory = state.memory ∧
      next.frame.Has register (.element (.bool result)) := by
  obtain ⟨dtype, _, _, opened, rfl, rfl⟩ := (Building.compare_ok formed.numbered).mp built
  exact defines_runs follows formed opened room covers rfl rfl (effect_compare read read' done)

omit opened in
theorem cast_runs {operand : Operand} {dtype : DType} {register : Register}
    (built : Building.cast operand dtype builder = .ok register after)
    (covers : after.Grows stage.builder) {value : Literal}
    (read : state.frame.element operand = .ok value) :
    ∃ next, stage.Runs builder after state next ∧ next.memory = state.memory ∧
      next.frame.Has register (.element (value.cast dtype)) := by
  obtain ⟨_, opened, rfl, rfl⟩ := (Building.cast_ok formed.numbered).mp built
  exact defines_runs follows formed opened room covers rfl rfl (effect_cast read)

omit opened room in
theorem store_runs {pointer : Register} {value : Operand} {result : Unit}
    (built : Building.store pointer value builder = .ok result after)
    (covers : after.Grows stage.builder) {place : Pointer}
    (has : state.frame.Has pointer (.pointer place)) {element : Literal}
    (read : state.frame.element value = .ok element)
    (check : state.memory.check place element.bytes.length = .ok ()) :
    ∃ next, stage.Runs builder after state next ∧
      next.memory = state.memory.put place element.bytes := by
  obtain ⟨dtype, _, _, opened, rfl⟩ := (Building.store_ok formed.numbered).mp built
  exact writes_runs follows formed covers rfl (effect_store has read check)

omit opened room in
theorem move_runs {destination source : Register} {bytes : Nat} {result : Unit}
    (built : Building.move destination source bytes builder = .ok result after)
    (covers : after.Grows stage.builder) {place origin : Pointer}
    (has : state.frame.Has destination (.pointer place))
    (has' : state.frame.Has source (.pointer origin)) {image : List UInt8}
    (read : state.memory.read origin bytes = .ok image)
    (check : state.memory.check place image.length = .ok ()) :
    ∃ next, stage.Runs builder after state next ∧
      next.memory = state.memory.put place image := by
  obtain ⟨dtype, _, _, opened, rfl⟩ := (Building.move_ok formed.numbered).mp built
  exact writes_runs follows formed covers rfl (effect_move has has' read check)

omit opened room in
/-- Arithmetic that fails, and whose result is put into a slot at once. -/
theorem spilled_breaks {type : RegisterType} {dtype : DType} {slot : Register}
    {instruction : Instruction} {cause : Error}
    (covers : ((((builder.registering type).pushing instruction).allocating dtype 1).pushing
      (.store slot (.register builder.size))).Grows stage.builder)
    (defines : instruction.target? = some builder.size)
    (failed : Miscomputes state.frame cause instruction) :
    ∃ final, Breaks stage.module state cause final ∧ final.memory = state.memory := by
  have numbered := formed.numbered.registering type
  obtain ⟨block, found, here, done⟩ := follows.reached
  have waiting : ∃ rest, state.frame.pending =
      [instruction, .store slot (.register builder.size)] ++ rest := by
    let appended : Block :=
      { block with
        instructions := (block.instructions ++ [instruction]) ++
          [.store slot (.register builder.size)] }
    have grown : ∀ block', builder.blockAt builder.current = some block' →
        ((((builder.registering type).pushing instruction).allocating dtype 1).pushing
          (.store slot (.register builder.size))).blockAt builder.current = some appended ∧
          appended.instructions = block'.instructions ++
            [instruction, .store slot (.register builder.size)] := by
      intro block' found'
      cases found.symm.trans found'
      constructor
      · have one := (numbered.blockAt_pushing instruction builder.current).trans
          ((if_pos rfl).trans (congrArg (Option.map _) found))
        exact ((((numbered.pushing instruction).allocating dtype 1).blockAt_pushing
          (.store slot (.register builder.size)) builder.current).trans
            ((if_pos rfl).trans (congrArg (Option.map _) one)))
      · simp [appended]
    exact follows.pending covers grown
  obtain ⟨rest, waiting⟩ := waiting
  exact ⟨_, ⟨state, instruction, .store slot (.register builder.size) :: rest, builder.size, slot,
    .refl, waiting, failed, defines, List.mem_cons_self .., rfl⟩, rfl⟩

end Instructions
end Stage

/-! ### Code at the end of a block -/

namespace Code.FunctionBuilder

/-- The open block got `code` at its end, and nothing else was written.  The registers that the
code defines are new, and so are those for addresses that were not taken before. -/
structure Writes (builder : FunctionBuilder) (code : List Instruction) (after : FunctionBuilder) :
    Prop where
  numbered : after.Numbered
  current : after.current = builder.current
  blocks : ∀ id, after.blockAt id = (builder.blockAt id).map fun block =>
    if id = builder.current then
      { block with instructions := block.instructions ++ code }
    else
      block
  types : ∀ (register : Register) (type : RegisterType),
    builder.function.registerTypes[register]? = some type →
      after.function.registerTypes[register]? = some type
  size : builder.size ≤ after.size
  targets : ∀ target ∈ targets code, builder.size ≤ target ∧ target < after.size
  kept : ∀ entry ∈ builder.addresses, entry ∈ after.addresses
  taken : ∀ entry ∈ after.addresses, entry ∈ builder.addresses ∨
    (builder.size ≤ entry.2 ∧ entry.2 < after.size ∧ entry.2 ∉ Optimize.targets code)

/-- Blocks are numbered by position, and addresses that were taken stand in registers. -/
structure Regular (builder : FunctionBuilder) : Prop where
  numbered : builder.Numbered
  below : ∀ entry ∈ builder.addresses, entry.2 < builder.size

theorem Formed.regular {builder : FunctionBuilder} (formed : builder.Formed) :
    builder.Regular where
  numbered := formed.numbered
  below := by
    rintro ⟨name, register⟩ member
    refine formed.below register (List.mem_append_left _ ?_)
    exact List.mem_filterMap.mpr ⟨_, formed.addressed name register member, rfl⟩

theorem below_of_pointee {builder : FunctionBuilder} {register : Register}
    {dtype : DType} (typed : builder.pointeeType register = .ok dtype) : register < builder.size :=
  (Array.getElem?_eq_some_iff.mp (Building.pointeeType_ok.mp typed)).1

namespace Writes

variable {builder middle after : FunctionBuilder} {code more : List Instruction}

theorem refl (numbered : builder.Numbered) : builder.Writes [] builder where
  numbered := numbered
  current := rfl
  blocks := fun id => by
    cases builder.blockAt id <;> simp
  types := fun _ _ typed => typed
  size := Nat.le_refl _
  targets := fun _ member => absurd member List.not_mem_nil
  kept := fun _ member => member
  taken := fun _ member => .inl member

theorem trans (one : builder.Writes code middle) (two : middle.Writes more after) :
    builder.Writes (code ++ more) after where
  numbered := two.numbered
  current := two.current.trans one.current
  blocks := by
    intro id
    rw [two.blocks, one.blocks, one.current, Option.map_map]
    congr 1
    funext block
    by_cases here : id = builder.current <;> simp [here]
  types := fun register type typed => two.types register type (one.types register type typed)
  size := one.size.trans two.size
  targets := by
    intro target member
    rw [Optimize.targets, List.filterMap_append, List.mem_append] at member
    rcases member with member | member
    · obtain ⟨above, below⟩ := one.targets target member
      exact ⟨above, Nat.lt_of_lt_of_le below two.size⟩
    · obtain ⟨above, below⟩ := two.targets target member
      exact ⟨Nat.le_trans one.size above, below⟩
  kept := fun entry member => two.kept entry (one.kept entry member)
  taken := by
    intro entry member
    rw [Optimize.targets, List.filterMap_append, List.mem_append, not_or]
    rcases two.taken entry member with member | ⟨above, below, apart⟩
    · rcases one.taken entry member with member | ⟨above, below, apart⟩
      · exact .inl member
      · refine .inr ⟨above, Nat.lt_of_lt_of_le below two.size, apart, fun defined => ?_⟩
        exact Nat.not_lt.mpr (two.targets _ defined).1 below
    · refine .inr ⟨Nat.le_trans one.size above, below, fun defined => ?_, apart⟩
      exact Nat.not_lt.mpr above (one.targets _ defined).2

/-- Addresses that stand before the code are not among the registers that it defines. -/
theorem apart (writes : builder.Writes code after) (regular : builder.Regular)
    {entry : String × Register} (member : entry ∈ after.addresses) :
    entry.2 ∉ Optimize.targets code := by
  rcases writes.taken entry member with member | ⟨_, _, apart⟩
  · exact fun defined => Nat.not_lt.mpr (writes.targets _ defined).1 (regular.below entry member)
  · exact apart

theorem regular (writes : builder.Writes code after) (regular : builder.Regular) :
    after.Regular where
  numbered := writes.numbered
  below := by
    intro entry member
    rcases writes.taken entry member with member | ⟨_, below, _⟩
    · exact Nat.lt_of_lt_of_le (regular.below entry member) writes.size
    · exact below

/-- A pointer stays one. -/
theorem pointee (writes : builder.Writes code after) {register : Register} {dtype : DType}
    (typed : builder.pointeeType register = .ok dtype) : after.pointeeType register = .ok dtype :=
  Building.pointeeType_ok.mpr (writes.types _ _ (Building.pointeeType_ok.mp typed))

/-- Registers that were there before are not among those that the code defines. -/
theorem old (writes : builder.Writes code after) {register : Register}
    (below : register < builder.size) : register ∉ Optimize.targets code :=
  fun defined => Nat.not_lt.mpr (writes.targets register defined).1 below

/-- An instruction that defines a new register. -/
theorem defining (numbered : builder.Numbered) (type : RegisterType) {instruction : Instruction}
    (defines : instruction.target? = some builder.size) :
    builder.Writes [instruction] ((builder.registering type).pushing instruction) where
  numbered := (numbered.registering type).pushing instruction
  current := rfl
  blocks := by
    intro id
    rw [(numbered.registering type).blockAt_pushing, blockAt_registering]
    change (if id = builder.current then _ else _) = _
    split <;> cases builder.blockAt id <;> simp [*]
  types := by
    intro register type' typed
    exact (grows_registering builder type).types register type' typed
  size := by simp
  targets := by
    intro target member
    simp only [Optimize.targets, List.filterMap_cons, defines, List.filterMap_nil,
      List.mem_singleton] at member
    subst member
    simp
  kept := fun _ member => member
  taken := fun _ member => .inl member

/-- The address of a global, taken in the prologue. -/
theorem locating (numbered : builder.Numbered) (name : String) (dtype : DType) :
    builder.Writes []
      { builder.preparing dtype (.address builder.size name) with
        addresses := (name, builder.size) :: builder.addresses } where
  numbered := numbered
  current := rfl
  blocks := by
    intro id
    change builder.blockAt id = _
    cases builder.blockAt id <;> simp
  types := (grows_registering builder (.pointer dtype)).types
  size := by
    change builder.size ≤ (builder.registering (.pointer dtype)).size
    simp
  targets := fun _ member => absurd member List.not_mem_nil
  kept := fun _ member => List.mem_cons_of_mem _ member
  taken := by
    rintro entry (_ | ⟨_, member⟩)
    · refine .inr ⟨Nat.le_refl _, ?_, List.not_mem_nil⟩
      change builder.size < (builder.registering (.pointer dtype)).size
      simp
    · exact .inl member

/-- A global declared beside the code. -/
theorem declaring (numbered : builder.Numbered) (hint : String) (data : Storage)
    (isMutable : Bool) : builder.Writes [] (builder.declaring hint data isMutable) :=
  have same := refl numbered
  { same with }

end Writes
end Code.FunctionBuilder

/-! ### Running what was written -/

namespace Machine

/-- The machine runs `code`, which comes first of what it has to run; memory stays as it is, and
only the registers that the code defines change. -/
structure Performs (module : Module) (code rest : List Instruction) (machine next : State) :
    Prop where
  reaches : Reaches module machine next
  pending : next.frame.pending = rest
  memory : next.memory = machine.memory
  callers : next.callers = machine.callers
  function : next.frame.function = machine.frame.function
  block : next.frame.block = machine.frame.block
  kept : ∀ register, register ∉ targets code →
    next.frame.registers[register]? = machine.frame.registers[register]?
  room : next.frame.registers.size = machine.frame.registers.size

namespace Performs

variable {module : Module} {code more rest : List Instruction} {machine next last : State}

theorem refl (waiting : machine.frame.pending = rest) :
    Performs module [] rest machine machine :=
  ⟨.refl, waiting, rfl, rfl, rfl, rfl, fun _ _ => rfl, rfl⟩

theorem trans (one : Performs module code (more ++ rest) machine next)
    (two : Performs module more rest next last) :
    Performs module (code ++ more) rest machine last where
  reaches := one.reaches.trans two.reaches
  pending := two.pending
  memory := two.memory.trans one.memory
  callers := two.callers.trans one.callers
  function := two.function.trans one.function
  block := two.block.trans one.block
  kept := by
    intro register apart
    rw [targets, List.filterMap_append, List.mem_append, not_or] at apart
    rw [two.kept register apart.2, one.kept register apart.1]
  room := two.room.trans one.room

theorem has (performs : Performs module code rest machine next) {register : Register} {slot : Slot}
    (has : machine.frame.Has register slot) (apart : register ∉ targets code) :
    next.frame.Has register slot :=
  (performs.kept register apart).trans has

/-- An operand of registers that were there before keeps its element. -/
theorem element (performs : Performs module code rest machine next) {operand : Operand}
    {value : Literal} (read : machine.frame.element operand = .ok value)
    (apart : ∀ register, operand = .register register → register ∉ targets code) :
    next.frame.element operand = .ok value := by
  cases operand with
  | constant literal => exact read
  | register register =>
      exact Frame.element_ok.mpr (performs.has (Frame.element_ok.mp read) (apart register rfl))

/-- One instruction that defines a register. -/
theorem defining {instruction : Instruction} {target : Register} {slot : Slot}
    (waiting : machine.frame.pending = instruction :: rest)
    (plain : Instruction.isCall instruction = false)
    (defines : instruction.target? = some target) (within : target < machine.frame.registers.size)
    (done : effect module machine.memory machine.frame instruction =
      .ok (machine.memory, some (target, slot))) :
    ∃ next, Performs module [instruction] rest machine next ∧ next.frame.Has target slot := by
  let next := (machine.fetched rest).after (machine.memory, some (target, slot))
  have changed : next.frame.registers =
      machine.frame.registers.setIfInBounds target (some slot) := rfl
  refine ⟨next, ?_, ?_⟩
  · constructor
    case reaches => exact .single (.effect instruction rest _ waiting plain done)
    case pending => rfl
    case memory => rfl
    case callers => rfl
    case function => rfl
    case block => rfl
    case kept =>
      intro register apart
      have different : target ≠ register := by
        rintro rfl
        exact apart (List.mem_filterMap.mpr ⟨instruction, List.mem_singleton.mpr rfl, defines⟩)
      rw [changed, Array.getElem?_setIfInBounds_ne different]
    case room => rw [changed, Array.size_setIfInBounds]
  · rw [Frame.Has, changed, Array.getElem?_setIfInBounds_self_of_lt within]

end Performs

/-- The frame has the registers of the builder, and the prologue of its function has taken the
addresses of globals. -/
structure Frame.Suits (frame : Frame) (module : Module) (builder : FunctionBuilder) : Prop where
  types : ∀ (register : Register) (type : RegisterType),
    builder.function.registerTypes[register]? = some type →
      frame.function.typeOf? register = some type
  room : builder.size ≤ frame.registers.size
  addresses : ∀ name register, (name, register) ∈ builder.addresses →
    ∃ index global, globalIndex? module name = some index ∧ module.globals[index]? = some global ∧
      frame.function.typeOf? register = some (.pointer global.dtype) ∧
      frame.Has register (.pointer ⟨index, 0⟩)

namespace Frame.Suits

variable {module : Module} {builder after : FunctionBuilder} {code rest : List Instruction}
  {machine next : State} {frame : Frame}

theorem earlier (suits : frame.Suits module after) (writes : builder.Writes code after) :
    frame.Suits module builder where
  types := fun register type typed => suits.types register type (writes.types register type typed)
  room := Nat.le_trans writes.size suits.room
  addresses := fun name register member => suits.addresses name register (writes.kept _ member)

theorem performed (suits : machine.frame.Suits module builder)
    (performs : Performs module code rest machine next)
    (apart : ∀ entry ∈ builder.addresses, entry.2 ∉ targets code) :
    next.frame.Suits module builder where
  types := by
    rw [performs.function]
    exact suits.types
  room := by
    rw [performs.room]
    exact suits.room
  addresses := by
    intro name register member
    obtain ⟨index, global, found, listed, typed, has⟩ := suits.addresses name register member
    rw [performs.function]
    exact ⟨index, global, found, listed, typed, performs.has has (apart _ member)⟩

/-- What comes later suits the machine when it has run what was written first. -/
theorem onward {middle : FunctionBuilder} {more : List Instruction}
    (suits : machine.frame.Suits module after) (regular : builder.Regular)
    (one : builder.Writes code middle) (two : middle.Writes more after)
    (performs : Performs module code rest machine next) : next.frame.Suits module after := by
  refine suits.performed performs fun entry member defined => ?_
  refine (one.trans two).apart regular member ?_
  rw [targets, List.filterMap_append]
  exact List.mem_append_left _ defined

/-- The type of a register that the builder knows. -/
theorem pointee (suits : frame.Suits module builder) {register : Register} {dtype : DType}
    (typed : builder.pointeeType register = .ok dtype) : frame.pointee register = .ok dtype := by
  rw [Frame.pointee, suits.types register _ (Building.pointeeType_ok.mp typed)]

end Frame.Suits

/-- Where the machine has the code to run next, it runs it and comes to such a state. -/
def Achieves (module : Module) (builder : FunctionBuilder) (code : List Instruction)
    (machine : State) (holds : State → Prop) : Prop :=
  ∀ rest, machine.frame.pending = code ++ rest → machine.frame.Suits module builder →
    ∃ next, Performs module code rest machine next ∧ holds next

namespace Achieves

variable {module : Module} {builder middle after : FunctionBuilder} {code more : List Instruction}
  {machine : State} {between holds weaker : State → Prop}

/-- No code. -/
theorem none (held : holds machine) : Achieves module builder [] machine holds :=
  fun _ waiting _ => ⟨machine, .refl waiting, held⟩

theorem mono (achieves : Achieves module builder code machine holds)
    (implies : ∀ next, holds next → weaker next) :
    Achieves module builder code machine weaker := by
  intro rest waiting suits
  obtain ⟨next, ran, held⟩ := achieves rest waiting suits
  exact ⟨next, ran, implies next held⟩

/-- Some code, and what was written behind it. -/
theorem seq (regular : builder.Regular) (one : builder.Writes code middle)
    (two : middle.Writes more after) (first : Achieves module middle code machine between)
    (second : ∀ rest next, Performs module code rest machine next → between next →
      Achieves module after more next holds) :
    Achieves module after (code ++ more) machine holds := by
  intro rest waiting suits
  rw [List.append_assoc] at waiting
  obtain ⟨next, ran, held⟩ := first (more ++ rest) waiting (suits.earlier two)
  obtain ⟨last, ran', done⟩ :=
    second (more ++ rest) next ran held rest ran.pending (suits.onward regular one two ran)
  exact ⟨last, ran.trans ran', done⟩

/-- An instruction that was written to define a new register. -/
theorem new {type : RegisterType} {instruction : Instruction} {slot : Slot}
    (plain : Instruction.isCall instruction = false)
    (defines : instruction.target? = some builder.size)
    (done : machine.frame.Suits module ((builder.registering type).pushing instruction) →
      effect module machine.memory machine.frame instruction =
        .ok (machine.memory, some (builder.size, slot))) :
    Achieves module ((builder.registering type).pushing instruction) [instruction] machine
      fun next => next.frame.Has builder.size slot := by
  intro rest waiting suits
  refine Performs.defining waiting plain defines (Nat.lt_of_lt_of_le ?_ suits.room) (done suits)
  rw [size_pushing, size_registering]
  exact Nat.lt_succ_self _

end Achieves
end Machine

/-! ### Instructions -/

namespace Code.Building

variable {builder after : FunctionBuilder} {base register : Register} {index operand : Operand}

theorem load_achieves (numbered : builder.Numbered)
    (built : load base builder = .ok register after) :
    ∃ code, builder.Writes code after ∧ register < after.size ∧
      ∀ module machine pointer element, machine.frame.Has base (.pointer pointer) →
        builder.pointeeType base = .ok element.dtype →
        machine.memory.read pointer element.dtype.width = .ok element.bytes →
        Achieves module after code machine
          fun next => next.frame.Has register (.element element) := by
  obtain ⟨dtype, _, _, rfl, rfl⟩ := (load_ok numbered).mp built
  have writes := Writes.defining numbered (.element dtype)
    (show (Instruction.load builder.size base).target? = some builder.size from rfl)
  refine ⟨_, writes, by simp, ?_⟩
  intro module machine pointer element has typed read
  exact .new rfl rfl fun suits => effect_load has ((suits.earlier writes).pointee typed) read

theorem cast_achieves (numbered : builder.Numbered) {dtype : DType}
    (built : cast operand dtype builder = .ok register after) :
    ∃ code, builder.Writes code after ∧ register < after.size ∧
      ∀ module machine value, machine.frame.element operand = .ok value →
        Achieves module after code machine
          fun next => next.frame.Has register (.element (value.cast dtype)) := by
  obtain ⟨_, _, rfl, rfl⟩ := (cast_ok numbered).mp built
  refine ⟨_, .defining numbered (.element dtype) rfl, by simp, ?_⟩
  intro module machine value read
  exact .new rfl rfl fun _ => effect_cast read

theorem binary_achieves (numbered : builder.Numbered) {op : BinaryOp} {left right : Operand}
    (built : binary op left right builder = .ok register after) :
    ∃ code, builder.Writes code after ∧ register < after.size ∧
      ∀ module machine first second result, machine.frame.element left = .ok first →
        machine.frame.element right = .ok second → first.binary op second = .ok result →
        Achieves module after code machine
          fun next => next.frame.Has register (.element result) := by
  obtain ⟨dtype, _, _, _, rfl, rfl⟩ := (binary_ok numbered).mp built
  refine ⟨_, .defining numbered (.element dtype) rfl, by simp, ?_⟩
  intro module machine first second result read read' done
  exact .new rfl rfl fun _ => effect_binary read read' done

/-- The pointer is moved by a number of elements, which takes no code if it is known to be
none. -/
theorem offset_achieves (numbered : builder.Numbered)
    (built : offset base index builder = .ok register after) :
    ∃ code dtype, builder.Writes code after ∧ builder.pointeeType base = .ok dtype ∧
      after.pointeeType register = .ok dtype ∧
      ∀ module machine pointer position, machine.frame.Has base (.pointer pointer) →
        machine.frame.element index = .ok (.i64 (Int64.ofNat position)) → position < 2 ^ 63 →
        Achieves module after code machine fun next => next.frame.Has register
          (.pointer ⟨pointer.allocation, pointer.offset + position * dtype.width⟩) := by
  obtain ⟨dtype, typed, _, ⟨rfl, rfl, rfl⟩ | ⟨_, _, rfl, rfl⟩⟩ := (offset_ok numbered).mp built
  · refine ⟨[], dtype, .refl numbered, typed, typed, ?_⟩
    intro module machine pointer position has read fits
    obtain rfl : position = 0 := by
      have same : (0 : Int64) = Int64.ofNat position := Literal.i64.inj (Except.ok.inj read)
      have exact' : (Int64.ofNat position).toInt = position := Int64.toInt_ofNat_of_lt fits
      rw [← same] at exact'
      exact Int.ofNat_eq_zero.mp exact'.symm
    rw [Nat.zero_mul, Nat.add_zero]
    exact .none has
  · have writes := Writes.defining numbered (.pointer dtype)
      (show (Instruction.offset builder.size base index).target? = some builder.size from rfl)
    refine ⟨_, dtype, writes, typed, pointeeType_ok.mpr Array.getElem?_push_size, ?_⟩
    intro module machine pointer position has read fits
    refine .new rfl rfl fun suits =>
      effect_offset has read ((suits.earlier writes).pointee typed) ?_
    rw [Int64.toInt_ofNat_of_lt fits]
    exact moved_nat pointer.allocation pointer.offset position dtype.width

end Code.Building

end TensorGraph

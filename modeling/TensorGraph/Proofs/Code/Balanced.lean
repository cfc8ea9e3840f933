/-
Balanced building.

A part of a kernel goes on in the open block, may branch and loop in blocks of
its own, and leaves exactly one open block behind.  All other blocks that it
finds stay as they are, open or closed.
-/

import TensorGraph.Proofs.Code.Building

namespace TensorGraph.Code.FunctionBuilder

/-- The block of a number. -/
def blockAt (builder : FunctionBuilder) (id : BlockId) : Option Block :=
  builder.function.blocks[id]?

structure Balanced (builder after : FunctionBuilder) : Prop where
  others : ∀ id < builder.nextBlock, id ≠ builder.current → after.blockAt id = builder.blockAt id
  opened : after.Opened
  closed : ∀ id, id ≠ after.current → builder.nextBlock ≤ id ∨ id = builder.current →
    ∀ block, after.blockAt id = some block → block.terminator? ≠ none
  current : after.current = builder.current ∨ builder.nextBlock ≤ after.current
  next : builder.nextBlock ≤ after.nextBlock

namespace Numbered

variable {builder : FunctionBuilder}

theorem blockAt_eq_none (numbered : builder.Numbered) {id : BlockId} :
    builder.blockAt id = none ↔ builder.nextBlock ≤ id := by
  rw [blockAt, List.getElem?_eq_none_iff, numbered.length_blocks]

theorem current_lt (numbered : builder.Numbered) (opened : builder.Opened) :
    builder.current < builder.nextBlock := by
  obtain ⟨block, found, _⟩ := opened
  rw [← numbered.length_blocks]
  exact (List.getElem?_eq_some_iff.mp found).1

private theorem blockAt_changing (numbered : builder.Numbered) (change : Block → Block)
    (id : BlockId) :
    (builder.changing change).blockAt id =
      if id = builder.current then (builder.blockAt id).map change else builder.blockAt id := by
  rw [blockAt, numbered.blocks_changing, List.getElem?_modify, blockAt]
  by_cases same : id = builder.current
  · rw [if_pos same]
    cases builder.function.blocks[id]? <;> simp [same]
  · rw [if_neg same]
    cases builder.function.blocks[id]? <;> simp [Ne.symm same]

theorem blockAt_pushing (numbered : builder.Numbered) (instruction : Instruction) (id : BlockId) :
    (builder.pushing instruction).blockAt id =
      if id = builder.current then
        (builder.blockAt id).map fun block =>
          { block with instructions := block.instructions ++ [instruction] }
      else builder.blockAt id :=
  numbered.blockAt_changing _ id

theorem blockAt_closing (numbered : builder.Numbered) (terminator : Terminator) (id : BlockId) :
    (builder.closing terminator).blockAt id =
      if id = builder.current then
        (builder.blockAt id).map fun block => { block with terminator? := some terminator }
      else builder.blockAt id :=
  numbered.blockAt_changing _ id

theorem blockAt_appending (numbered : builder.Numbered) (label : String) (id : BlockId) :
    (builder.appending label).blockAt id =
      if id = builder.nextBlock then some (Block.empty builder.nextBlock label)
      else builder.blockAt id := by
  rw [blockAt, FunctionBuilder.appending, List.getElem?_append, numbered.length_blocks]
  by_cases same : id = builder.nextBlock
  · rw [if_pos same, if_neg (by rw [same]; exact Nat.lt_irrefl _), same, Nat.sub_self]
    rfl
  · rw [if_neg same]
    by_cases below : id < builder.nextBlock
    · rw [if_pos below, blockAt]
    · have above : builder.nextBlock < id := Nat.lt_of_le_of_ne (Nat.not_lt.mp below) (Ne.symm same)
      rw [if_neg below, numbered.blockAt_eq_none.mpr (Nat.le_of_lt above)]
      exact List.getElem?_eq_none (Nat.sub_pos_of_lt above)

end Numbered

@[simp]
theorem blockAt_registering (builder : FunctionBuilder) (type : RegisterType) (id : BlockId) :
    (builder.registering type).blockAt id = builder.blockAt id :=
  rfl

@[simp]
theorem blockAt_seeking (builder : FunctionBuilder) (block id : BlockId) :
    (builder.seeking block).blockAt id = builder.blockAt id :=
  rfl

@[simp]
theorem blockAt_preparing (builder : FunctionBuilder) (dtype : DType) (instruction : Instruction)
    (id : BlockId) : (builder.preparing dtype instruction).blockAt id = builder.blockAt id :=
  rfl

@[simp]
theorem blockAt_allocating (builder : FunctionBuilder) (dtype : DType) (count : Nat)
    (id : BlockId) : (builder.allocating dtype count).blockAt id = builder.blockAt id :=
  rfl

theorem opened_iff {builder : FunctionBuilder} :
    builder.Opened ↔ ∃ block, builder.blockAt builder.current = some block ∧
      block.terminator? = none :=
  Iff.rfl

namespace Balanced

variable {builder after : FunctionBuilder}

/-- Code in the current block alone. -/
theorem straight (formed : after.Formed) (opened : after.Opened)
    (current : after.current = builder.current) (next : after.nextBlock = builder.nextBlock)
    (others : ∀ id, id ≠ builder.current → after.blockAt id = builder.blockAt id) :
    builder.Balanced after where
  others := fun id _ different => others id different
  opened := opened
  closed := by
    intro id different side block found
    rcases side with above | same
    · rw [← next, ← formed.numbered.blockAt_eq_none] at above
      rw [above] at found
      cases found
    · exact absurd (same.trans current.symm) different
  current := .inl current
  next := Nat.le_of_eq next.symm

theorem refl (formed : builder.Formed) (opened : builder.Opened) : builder.Balanced builder :=
  straight formed opened rfl rfl fun _ _ => rfl

theorem trans {last : FunctionBuilder} (one : builder.Balanced after)
    (two : after.Balanced last) : builder.Balanced last where
  others := by
    intro id below different
    have away : id ≠ after.current := by
      rcases one.current with same | above
      · rwa [same]
      · exact Nat.ne_of_lt (Nat.lt_of_lt_of_le below above)
    rw [two.others id (Nat.lt_of_lt_of_le below one.next) away, one.others id below different]
  opened := two.opened
  closed := by
    intro id different side block found
    by_cases late : after.nextBlock ≤ id ∨ id = after.current
    · exact two.closed id different late block found
    · rw [not_or, Nat.not_le] at late
      rw [two.others id late.1 late.2] at found
      exact one.closed id late.2 side block found
  current := by
    rcases two.current with same | above
    · rw [same]
      exact one.current
    · exact .inr (Nat.le_trans one.next above)
  next := Nat.le_trans one.next two.next

end Balanced

/-! ### Straight code -/

/-- Steps inside the current block, or outside all blocks. -/
structure Straight (builder after : FunctionBuilder) : Prop where
  steps : Steps builder after
  balanced : builder.Balanced after
  current : after.current = builder.current
  next : after.nextBlock = builder.nextBlock
  states : after.states = builder.states

namespace Straight

variable {builder after : FunctionBuilder}

theorem refl (formed : builder.Formed) (opened : builder.Opened) : builder.Straight builder :=
  ⟨Relation.ReflTransGen.refl, Balanced.refl formed opened, rfl, rfl, rfl⟩

theorem trans {last : FunctionBuilder} (one : builder.Straight after)
    (two : after.Straight last) : builder.Straight last :=
  ⟨one.steps.trans two.steps, one.balanced.trans two.balanced, two.current.trans one.current,
    two.next.trans one.next, two.states.trans one.states⟩

theorem formed (straight : builder.Straight after) (formed : builder.Formed) : after.Formed :=
  Steps.formed straight.steps formed

theorem opened (straight : builder.Straight after) : after.Opened :=
  straight.balanced.opened

/-- A step that leaves the blocks alone. -/
theorem aside (formed : builder.Formed) (opened : builder.Opened) (step : Step builder after)
    (current : after.current = builder.current) (next : after.nextBlock = builder.nextBlock)
    (states : after.states = builder.states)
    (blocks : ∀ id, after.blockAt id = builder.blockAt id) : builder.Straight after := by
  refine ⟨Relation.ReflTransGen.single step, ?_, current, next, states⟩
  refine Balanced.straight (step.formed formed) ?_ current next fun id _ => blocks id
  rw [opened_iff, current, blocks]
  exact opened

theorem opened_pushing (formed : builder.Formed) (opened : builder.Opened)
    (instruction : Instruction) : (builder.pushing instruction).Opened := by
  obtain ⟨block, found, open'⟩ := opened
  have here := formed.numbered.blockAt_pushing instruction builder.current
  rw [if_pos rfl, blockAt, blockAt, found] at here
  exact ⟨{ block with instructions := block.instructions ++ [instruction] }, here, open'⟩

theorem write (formed : builder.Formed) (opened : builder.Opened) {instruction : Instruction}
    (plain : Plain instruction) (silent : instruction.target? = none) :
    builder.Straight (builder.pushing instruction) := by
  have step := Step.write builder instruction opened plain silent
  refine ⟨Relation.ReflTransGen.single step, ?_, rfl, rfl, rfl⟩
  refine Balanced.straight (step.formed formed) (opened_pushing formed opened instruction) rfl rfl
    fun id different => ?_
  rw [formed.numbered.blockAt_pushing, if_neg different]

theorem define (formed : builder.Formed) (opened : builder.Opened) {instruction : Instruction}
    (plain : Plain instruction) (type : RegisterType)
    (defines : instruction.target? = some builder.size) :
    builder.Straight ((builder.registering type).pushing instruction) := by
  have step := Step.define builder type instruction opened plain defines
  have registered := formed.registering type
  refine ⟨Relation.ReflTransGen.single step, ?_, rfl, rfl, rfl⟩
  refine Balanced.straight (step.formed formed) (opened_pushing registered opened instruction) rfl
    rfl fun id different => ?_
  rw [registered.numbered.blockAt_pushing]
  exact if_neg different

theorem allocate (formed : builder.Formed) (opened : builder.Opened) (dtype : DType)
    (count : Nat) : builder.Straight (builder.allocating dtype count) :=
  aside formed opened (Step.allocate builder dtype count) rfl rfl rfl fun _ => rfl

theorem locate (formed : builder.Formed) (opened : builder.Opened) {global : Global}
    (listed : global ∈ builder.globals) : builder.Straight (builder.locating global) :=
  aside formed opened (Step.locate builder global listed) rfl rfl rfl fun _ => rfl

theorem declare (formed : builder.Formed) (opened : builder.Opened) (hint : String)
    (data : Storage) (isMutable : Bool) :
    builder.Straight (builder.declaring hint data isMutable) :=
  aside formed opened (Step.declare builder hint data isMutable) rfl rfl rfl fun _ => rfl

end Straight
end TensorGraph.Code.FunctionBuilder

namespace TensorGraph.Code.Building

open FunctionBuilder

variable {builder after : FunctionBuilder}

/-! ### Actions that stay in the block -/

theorem alloca_straight (formed : builder.Formed) (opened : builder.Opened) {dtype : DType}
    {count : Nat} {register : Register} (done : alloca dtype count builder = .ok register after) :
    builder.Straight after := by
  obtain ⟨_, rfl⟩ := alloca_ok.mp done
  exact Straight.allocate formed opened dtype count

theorem global_straight (formed : builder.Formed) (opened : builder.Opened) {hint : String}
    {data : Storage} {isMutable : Bool} {name : String}
    (done : global hint data isMutable builder = .ok name after) : builder.Straight after := by
  obtain ⟨_, rfl⟩ := global_ok.mp done
  exact Straight.declare formed opened hint data isMutable

theorem globalAddress_straight (formed : builder.Formed) (opened : builder.Opened) {name : String}
    {register : Register} (done : globalAddress name builder = .ok register after) :
    builder.Straight after := by
  rcases (globalAddress_ok formed).mp done with ⟨_, rfl⟩ | ⟨_, _, global, listed, _, rfl⟩
  · exact Straight.refl formed opened
  · exact Straight.locate formed opened listed

theorem offset_straight (formed : builder.Formed) (opened : builder.Opened)
    {base register : Register} {index : Operand}
    (done : offset base index builder = .ok register after) : builder.Straight after := by
  obtain ⟨dtype, _, _, ⟨_, _, rfl⟩ | ⟨_, _, _, rfl⟩⟩ := (offset_ok formed.numbered).mp done
  · exact Straight.refl formed opened
  · exact Straight.define formed opened (by trivial) _ rfl

theorem load_straight (formed : builder.Formed) {pointer register : Register}
    (done : load pointer builder = .ok register after) : builder.Straight after := by
  obtain ⟨dtype, _, opened, _, rfl⟩ := (load_ok formed.numbered).mp done
  exact Straight.define formed opened (by trivial) _ rfl

theorem store_straight (formed : builder.Formed) {pointer : Register} {value : Operand}
    {result : Unit} (done : store pointer value builder = .ok result after) :
    builder.Straight after := by
  obtain ⟨dtype, _, _, opened, rfl⟩ := (store_ok formed.numbered).mp done
  exact Straight.write formed opened trivial rfl

theorem move_straight (formed : builder.Formed) {destination source : Register} {bytes : Nat}
    {result : Unit} (done : move destination source bytes builder = .ok result after) :
    builder.Straight after := by
  obtain ⟨dtype, _, _, opened, rfl⟩ := (move_ok formed.numbered).mp done
  exact Straight.write formed opened trivial rfl

theorem binary_straight (formed : builder.Formed) {op : BinaryOp} {left right : Operand}
    {register : Register} (done : binary op left right builder = .ok register after) :
    builder.Straight after := by
  obtain ⟨dtype, _, _, opened, _, rfl⟩ := (binary_ok formed.numbered).mp done
  exact Straight.define formed opened (by trivial) _ rfl

theorem unary_straight (formed : builder.Formed) {op : UnaryOp} {operand : Operand}
    {register : Register} (done : unary op operand builder = .ok register after) :
    builder.Straight after := by
  obtain ⟨dtype, _, opened, _, rfl⟩ := (unary_ok formed.numbered).mp done
  exact Straight.define formed opened (by trivial) _ rfl

theorem compare_straight (formed : builder.Formed) {op : CompareOp} {left right : Operand}
    {register : Register} (done : compare op left right builder = .ok register after) :
    builder.Straight after := by
  obtain ⟨dtype, _, _, opened, _, rfl⟩ := (compare_ok formed.numbered).mp done
  exact Straight.define formed opened (by trivial) _ rfl

theorem cast_straight (formed : builder.Formed) {operand : Operand} {dtype : DType}
    {register : Register} (done : cast operand dtype builder = .ok register after) :
    builder.Straight after := by
  obtain ⟨_, opened, _, rfl⟩ := (cast_ok formed.numbered).mp done
  exact Straight.define formed opened (by trivial) _ rfl

end TensorGraph.Code.Building

/-
Steps of a function builder.

Whatever a builder does is a row of steps: it defines a register in the open
block, writes, closes a block, appends one, moves on to another one, or obtains
memory and addresses in the prologue.  No step forgets code: what was built
stays a part of what is built later.
-/

import TensorGraph.Code.FunctionBuilder
import TensorGraph.Proofs.Optimize.WellFormed

namespace TensorGraph.Code

open Optimize (targets)

namespace FunctionBuilder

/-! ### Single steps -/

/-- Number of registers. -/
def size (builder : FunctionBuilder) : Nat :=
  builder.function.registerTypes.size

/-- A new register. -/
def registering (builder : FunctionBuilder) (type : RegisterType) : FunctionBuilder :=
  { builder with
    function :=
      { builder.function with registerTypes := builder.function.registerTypes.push type } }

/-- The current block changed. -/
def changing (builder : FunctionBuilder) (change : Block → Block) : FunctionBuilder :=
  { builder with
    function :=
      { builder.function with
        blocks := Building.changeBlock builder.current change builder.function.blocks } }

def pushing (builder : FunctionBuilder) (instruction : Instruction) : FunctionBuilder :=
  builder.changing fun block =>
    { block with instructions := block.instructions ++ [instruction] }

def closing (builder : FunctionBuilder) (terminator : Terminator) : FunctionBuilder :=
  builder.changing fun block => { block with terminator? := some terminator }

def appending (builder : FunctionBuilder) (label : String) : FunctionBuilder :=
  { builder with
    nextBlock := builder.nextBlock + 1
    function :=
      { builder.function with
        blocks := builder.function.blocks ++ [Block.empty builder.nextBlock label] } }

def seeking (builder : FunctionBuilder) (block : BlockId) : FunctionBuilder :=
  { builder with current := block }

/-- A new pointer register, defined in the prologue. -/
def preparing (builder : FunctionBuilder) (dtype : DType) (instruction : Instruction) :
    FunctionBuilder :=
  { builder.registering (.pointer dtype) with prologue := builder.prologue ++ [instruction] }

def allocating (builder : FunctionBuilder) (dtype : DType) (count : Nat) : FunctionBuilder :=
  builder.preparing dtype (.alloca builder.size dtype count)

def locating (builder : FunctionBuilder) (global : Global) : FunctionBuilder :=
  { builder.preparing global.dtype (.address builder.size global.name) with
    addresses := (global.name, builder.size) :: builder.addresses }

/-- The name that the next global gets for a hint. -/
def nextName (builder : FunctionBuilder) (hint : String) : String :=
  builder.function.name ++ "." ++ hint ++ "." ++ toString builder.nameCounter

def declaring (builder : FunctionBuilder) (hint : String) (data : Storage) (isMutable : Bool) :
    FunctionBuilder :=
  { builder with
    nameCounter := builder.nameCounter + 1
    globals :=
      insertGlobal
        { name := builder.nextName hint
          data := data
          isMutable := isMutable }
        builder.globals }

@[simp]
theorem size_registering (builder : FunctionBuilder) (type : RegisterType) :
    (builder.registering type).size = builder.size + 1 := by
  simp [size, registering]

@[simp]
theorem size_pushing (builder : FunctionBuilder) (instruction : Instruction) :
    (builder.pushing instruction).size = builder.size :=
  rfl

@[simp]
theorem size_closing (builder : FunctionBuilder) (terminator : Terminator) :
    (builder.closing terminator).size = builder.size :=
  rfl

@[simp]
theorem size_appending (builder : FunctionBuilder) (label : String) :
    (builder.appending label).size = builder.size :=
  rfl

@[simp]
theorem size_seeking (builder : FunctionBuilder) (block : BlockId) :
    (builder.seeking block).size = builder.size :=
  rfl

@[simp]
theorem size_preparing (builder : FunctionBuilder) (dtype : DType) (instruction : Instruction) :
    (builder.preparing dtype instruction).size = builder.size + 1 :=
  size_registering builder (.pointer dtype)

@[simp]
theorem size_allocating (builder : FunctionBuilder) (dtype : DType) (count : Nat) :
    (builder.allocating dtype count).size = builder.size + 1 :=
  size_preparing builder dtype _

@[simp]
theorem size_locating (builder : FunctionBuilder) (global : Global) :
    (builder.locating global).size = builder.size + 1 :=
  size_preparing builder global.dtype (.address builder.size global.name)

@[simp]
theorem size_declaring (builder : FunctionBuilder) (hint : String) (data : Storage)
    (isMutable : Bool) : (builder.declaring hint data isMutable).size = builder.size :=
  rfl

@[simp]
theorem types_registering (builder : FunctionBuilder) (type : RegisterType) :
    (builder.registering type).function.registerTypes = builder.function.registerTypes.push type :=
  rfl

@[simp]
theorem types_pushing (builder : FunctionBuilder) (instruction : Instruction) :
    (builder.pushing instruction).function.registerTypes = builder.function.registerTypes :=
  rfl

@[simp]
theorem types_closing (builder : FunctionBuilder) (terminator : Terminator) :
    (builder.closing terminator).function.registerTypes = builder.function.registerTypes :=
  rfl

@[simp]
theorem types_appending (builder : FunctionBuilder) (label : String) :
    (builder.appending label).function.registerTypes = builder.function.registerTypes :=
  rfl

@[simp]
theorem types_seeking (builder : FunctionBuilder) (block : BlockId) :
    (builder.seeking block).function.registerTypes = builder.function.registerTypes :=
  rfl

@[simp]
theorem types_allocating (builder : FunctionBuilder) (dtype : DType) (count : Nat) :
    (builder.allocating dtype count).function.registerTypes =
      builder.function.registerTypes.push (.pointer dtype) :=
  rfl

@[simp]
theorem states_registering (builder : FunctionBuilder) (type : RegisterType) :
    (builder.registering type).states = builder.states :=
  rfl

@[simp]
theorem states_pushing (builder : FunctionBuilder) (instruction : Instruction) :
    (builder.pushing instruction).states = builder.states :=
  rfl

@[simp]
theorem states_closing (builder : FunctionBuilder) (terminator : Terminator) :
    (builder.closing terminator).states = builder.states :=
  rfl

@[simp]
theorem states_appending (builder : FunctionBuilder) (label : String) :
    (builder.appending label).states = builder.states :=
  rfl

@[simp]
theorem states_seeking (builder : FunctionBuilder) (block : BlockId) :
    (builder.seeking block).states = builder.states :=
  rfl

@[simp]
theorem states_allocating (builder : FunctionBuilder) (dtype : DType) (count : Nat) :
    (builder.allocating dtype count).states = builder.states :=
  rfl

/-- The current block exists and has no terminator yet. -/
def Opened (builder : FunctionBuilder) : Prop :=
  ∃ block, builder.function.blocks[builder.current]? = some block ∧ block.terminator? = none

/-- Blocks are numbered by position. -/
def Numbered (builder : FunctionBuilder) : Prop :=
  builder.function.blocks.map Block.id = List.range builder.nextBlock

/-- An instruction that a block of built code can hold. -/
def Plain : Instruction → Prop
  | .alloca _ _ _ | .address _ _ | .call _ _ => False
  | _ => True

inductive Step : FunctionBuilder → FunctionBuilder → Prop where
  | define (builder : FunctionBuilder) (type : RegisterType) (instruction : Instruction)
      (opened : builder.Opened) (plain : Plain instruction)
      (defines : instruction.target? = some builder.size) :
      Step builder ((builder.registering type).pushing instruction)
  | write (builder : FunctionBuilder) (instruction : Instruction)
      (opened : builder.Opened) (plain : Plain instruction)
      (silent : instruction.target? = none) :
      Step builder (builder.pushing instruction)
  | close (builder : FunctionBuilder) (terminator : Terminator) (opened : builder.Opened)
      (known : ∀ target ∈ terminator.successors, target < builder.nextBlock) :
      Step builder (builder.closing terminator)
  | append (builder : FunctionBuilder) (label : String) : Step builder (builder.appending label)
  | seek (builder : FunctionBuilder) (block : BlockId) : Step builder (builder.seeking block)
  | allocate (builder : FunctionBuilder) (dtype : DType) (count : Nat) :
      Step builder (builder.allocating dtype count)
  | locate (builder : FunctionBuilder) (global : Global) (listed : global ∈ builder.globals) :
      Step builder (builder.locating global)
  | declare (builder : FunctionBuilder) (hint : String) (data : Storage) (isMutable : Bool) :
      Step builder (builder.declaring hint data isMutable)
  | note (builder : FunctionBuilder) (states : List StateGlobal) :
      Step builder { builder with states := states }

/-- Any number of steps. -/
abbrev Steps : FunctionBuilder → FunctionBuilder → Prop :=
  Relation.ReflTransGen Step

/-! ### What every builder keeps to -/

/-- The registers that are defined so far. -/
def defined (builder : FunctionBuilder) : List Register :=
  targets builder.prologue ++ targets builder.function.instructions

structure Formed (builder : FunctionBuilder) : Prop where
  numbered : builder.Numbered
  nonempty : 0 < builder.nextBlock
  parameters : ∀ register ∈ builder.function.parameters, register < builder.size
  below : ∀ register ∈ builder.defined, register < builder.size
  single : builder.defined.Nodup
  fresh : ∀ register ∈ builder.defined, register ∉ builder.function.parameters
  plain : ∀ instruction ∈ builder.function.instructions, Plain instruction
  /-- Branches lead to blocks. -/
  closed : ∀ block ∈ builder.function.blocks, ∀ terminator, block.terminator? = some terminator →
    ∀ target ∈ terminator.successors, target < builder.nextBlock
  prepared : ∀ instruction ∈ builder.prologue,
    (∃ register dtype count, instruction = .alloca register dtype count ∧
      builder.function.registerTypes[register]? = some (.pointer dtype)) ∨
    ∃ register, ∃ global ∈ builder.globals, instruction = .address register global.name ∧
      builder.function.registerTypes[register]? = some (.pointer global.dtype)
  named : ∀ global ∈ builder.globals, ∃ before count, count < builder.nameCounter ∧
    global.name = before ++ "." ++ toString count
  apart : (builder.globals.map Global.name).Nodup
  own : builder.imported = []
  addressed : ∀ name register, (name, register) ∈ builder.addresses →
    .address register name ∈ builder.prologue

/-! ### Blocks by number -/

private theorem changeBlock_eq (change : Block → Block) (blocks : List Block) (first id count : Nat)
    (numbered : blocks.map Block.id = List.range' first count) :
    Building.changeBlock (first + id) change blocks = blocks.modify id change := by
  induction blocks generalizing first id count with
  | nil => cases id <;> rfl
  | cons block rest inductionHypothesis =>
      cases count with
      | zero => cases numbered
      | succ count =>
          rw [List.range'_succ, List.map_cons, List.cons.injEq] at numbered
          obtain ⟨here, later⟩ := numbered
          rw [Building.changeBlock]
          cases id with
          | zero => rw [Nat.add_zero, if_pos here, List.modify_zero_cons]
          | succ id =>
              have past : block.id ≠ first + (id + 1) := by
                rw [here]
                exact Nat.ne_of_lt (Nat.lt_add_of_pos_right (Nat.succ_pos id))
              rw [if_neg past, List.modify_succ_cons, Nat.add_comm id 1, ← Nat.add_assoc,
                inductionHypothesis (first + 1) id count later]

private theorem map_id_modify (blocks : List Block) (position : Nat) {change : Block → Block}
    (same : ∀ block, (change block).id = block.id) :
    (blocks.modify position change).map Block.id = blocks.map Block.id := by
  induction blocks generalizing position with
  | nil => cases position <;> rfl
  | cons block rest inductionHypothesis =>
      cases position with
      | zero => rw [List.modify_zero_cons, List.map_cons, List.map_cons, same]
      | succ position =>
          rw [List.modify_succ_cons, List.map_cons, List.map_cons, inductionHypothesis]

namespace Numbered

variable {builder : FunctionBuilder}

theorem length_blocks (numbered : builder.Numbered) :
    builder.function.blocks.length = builder.nextBlock := by
  have lengths := congrArg List.length numbered
  simpa using lengths

theorem id_of_getElem (numbered : builder.Numbered) {id : BlockId} {block : Block}
    (found : builder.function.blocks[id]? = some block) : block.id = id := by
  have within : id < builder.function.blocks.length := (List.getElem?_eq_some_iff.mp found).1
  have position : (builder.function.blocks.map Block.id)[id]? = some block.id := by
    rw [List.getElem?_map, found, Option.map_some]
  rw [numbered, List.getElem?_range (by rw [← numbered.length_blocks]; exact within)] at position
  exact (Option.some.inj position).symm

theorem distinct (numbered : builder.Numbered) : (builder.function.blocks.map Block.id).Nodup := by
  rw [numbered]
  exact List.nodup_range

theorem block?_eq (numbered : builder.Numbered) (id : BlockId) :
    builder.function.block? id = builder.function.blocks[id]? := by
  cases found : builder.function.blocks[id]? with
  | some block =>
      have here := Optimize.block?_of_mem numbered.distinct (List.mem_of_getElem? found)
      rwa [numbered.id_of_getElem found] at here
  | none =>
      have outside : builder.function.blocks.length ≤ id := List.getElem?_eq_none_iff.mp found
      rw [numbered.length_blocks] at outside
      cases here : builder.function.block? id with
      | none => rfl
      | some block =>
          have listed := Optimize.block?_isSome.mp (Option.isSome_of_mem here)
          rw [numbered, List.mem_range] at listed
          exact absurd listed (Nat.not_lt.mpr outside)

theorem blocks_changing (numbered : builder.Numbered) (change : Block → Block) :
    (builder.changing change).function.blocks =
      builder.function.blocks.modify builder.current change := by
  have listed := numbered
  rw [Numbered, List.range_eq_range'] at listed
  have same := changeBlock_eq change builder.function.blocks 0 builder.current _ listed
  rwa [Nat.zero_add] at same

theorem changing (numbered : builder.Numbered) {change : Block → Block}
    (same : ∀ block, (change block).id = block.id) : (builder.changing change).Numbered := by
  rw [Numbered, numbered.blocks_changing, map_id_modify _ _ same]
  exact numbered

theorem pushing (numbered : builder.Numbered) (instruction : Instruction) :
    (builder.pushing instruction).Numbered :=
  numbered.changing fun _ => rfl

theorem closing (numbered : builder.Numbered) (terminator : Terminator) :
    (builder.closing terminator).Numbered :=
  numbered.changing fun _ => rfl

theorem registering (numbered : builder.Numbered) (type : RegisterType) :
    (builder.registering type).Numbered :=
  numbered

theorem allocating (numbered : builder.Numbered) (dtype : DType) (count : Nat) :
    (builder.allocating dtype count).Numbered :=
  numbered

theorem seeking (numbered : builder.Numbered) (block : BlockId) :
    (builder.seeking block).Numbered :=
  numbered

theorem appending (numbered : builder.Numbered) (label : String) :
    (builder.appending label).Numbered := by
  rw [Numbered, FunctionBuilder.appending, List.map_append, numbered, List.range_succ]
  rfl

end Numbered

/-! ### Names of globals -/

private theorem takeWhile_digits (before : List Char) (count : Nat) :
    (before ++ '.' :: Nat.toDigits 10 count).reverse.takeWhile Char.isDigit =
      (Nat.toDigits 10 count).reverse := by
  have digits : ∀ digit ∈ (Nat.toDigits 10 count).reverse, digit.isDigit = true := by
    intro digit member
    exact Nat.isDigit_of_mem_toDigits (by decide) (by decide) (List.mem_reverse.mp member)
  rw [List.reverse_append, List.reverse_cons, List.append_assoc, List.takeWhile_append_of_pos digits,
    List.singleton_append, List.takeWhile_cons_of_neg (by decide), List.append_nil]

/-- The number at the end of a name is a part of the name. -/
theorem counter_inj {before after : String} {first second : Nat}
    (same : before ++ "." ++ toString first = after ++ "." ++ toString second) :
    first = second := by
  have listed : ∀ (text : String) (count : Nat), (text ++ "." ++ toString count).toList =
      text.toList ++ '.' :: Nat.toDigits 10 count := by
    intro text count
    simp [String.toList_append]
  have lists := congrArg String.toList same
  rw [listed, listed] at lists
  have digits := congrArg (fun text => text.reverse.takeWhile Char.isDigit) lists
  simp only [takeWhile_digits, List.reverse_inj] at digits
  have values := congrArg (fun text => Nat.ofDigitChars 10 text 0) digits
  simpa using values

theorem mem_insertGlobal {global : Global} {globals : List Global}
    (fresh : global.name ∉ globals.map Global.name) {other : Global} :
    other ∈ insertGlobal global globals ↔ other = global ∨ other ∈ globals := by
  induction globals with
  | nil => simp [insertGlobal]
  | cons head rest inductionHypothesis =>
      rw [List.map_cons, List.mem_cons, not_or] at fresh
      rw [insertGlobal, if_neg fresh.1]
      split
      · rw [List.mem_cons]
      · rw [List.mem_cons, inductionHypothesis fresh.2, List.mem_cons]
        tauto

theorem names_insertGlobal {global : Global} {globals : List Global}
    (fresh : global.name ∉ globals.map Global.name) :
    ((insertGlobal global globals).map Global.name).Perm (global.name :: globals.map Global.name) := by
  induction globals with
  | nil => exact List.Perm.refl _
  | cons head rest inductionHypothesis =>
      rw [List.map_cons, List.mem_cons, not_or] at fresh
      rw [insertGlobal, if_neg fresh.1]
      split
      · exact List.Perm.refl _
      · rw [List.map_cons, List.map_cons]
        exact ((inductionHypothesis fresh.2).cons head.name).trans (List.Perm.swap _ _ _)

theorem nextName_fresh {builder : FunctionBuilder}
    (named : ∀ global ∈ builder.globals, ∃ before count, count < builder.nameCounter ∧
      global.name = before ++ "." ++ toString count)
    (hint : String) : builder.nextName hint ∉ builder.globals.map Global.name := by
  rintro listed
  obtain ⟨global, member, same_name⟩ := List.mem_map.mp listed
  obtain ⟨before, count, below, spelled⟩ := named global member
  have same := counter_inj (spelled.symm.trans same_name)
  exact absurd same (Nat.ne_of_lt below)

theorem Formed.nextName_fresh {builder : FunctionBuilder} (formed : builder.Formed)
    (hint : String) : builder.nextName hint ∉ builder.globals.map Global.name :=
  FunctionBuilder.nextName_fresh formed.named hint

/-! ### Steps keep builders formed -/

private theorem flatMap_modify_push (blocks : List Block) (position : Nat)
    (instruction : Instruction) (within : position < blocks.length) :
    ((blocks.modify position fun block =>
        { block with instructions := block.instructions ++ [instruction] }).flatMap
          Block.instructions).Perm (instruction :: blocks.flatMap Block.instructions) := by
  induction blocks generalizing position with
  | nil => exact absurd within (Nat.not_lt_zero _)
  | cons block rest inductionHypothesis =>
      cases position with
      | zero =>
          rw [List.modify_zero_cons, List.flatMap_cons, List.flatMap_cons, List.append_assoc]
          exact List.perm_middle
      | succ position =>
          rw [List.modify_succ_cons, List.flatMap_cons, List.flatMap_cons]
          exact ((inductionHypothesis position (Nat.lt_of_succ_lt_succ within)).append_left _).trans
            List.perm_middle

theorem flatMap_modify_close (blocks : List Block) (position : Nat)
    (terminator : Terminator) :
    (blocks.modify position fun block =>
        { block with terminator? := some terminator }).flatMap Block.instructions =
      blocks.flatMap Block.instructions := by
  induction blocks generalizing position with
  | nil => cases position <;> rfl
  | cons block rest inductionHypothesis =>
      cases position with
      | zero => rfl
      | succ position =>
          rw [List.modify_succ_cons, List.flatMap_cons, List.flatMap_cons, inductionHypothesis]

namespace Formed

variable {builder : FunctionBuilder}

theorem registering (formed : builder.Formed) (type : RegisterType) :
    (builder.registering type).Formed := by
  have grown := builder.size_registering type
  have kept : ∀ (register : Register) (held : RegisterType),
      builder.function.registerTypes[register]? = some held →
        (builder.registering type).function.registerTypes[register]? = some held := by
    intro register held found
    have within : register < builder.function.registerTypes.size :=
      (Array.getElem?_eq_some_iff.mp found).1
    rw [FunctionBuilder.registering, Array.getElem?_push_lt within,
      ← Array.getElem?_eq_getElem within]
    exact found
  refine
    { formed with
      parameters := ?_
      below := ?_
      prepared := ?_ }
  · intro register member
    rw [grown]
    exact Nat.lt_succ_of_lt (formed.parameters register member)
  · intro register member
    rw [grown]
    exact Nat.lt_succ_of_lt (formed.below register member)
  · intro instruction member
    rcases formed.prepared instruction member with
      ⟨register, dtype, count, shape, typed⟩ | ⟨register, global, listed, shape, typed⟩
    · exact .inl ⟨register, dtype, count, shape, kept register _ typed⟩
    · exact .inr ⟨register, global, listed, shape, kept register _ typed⟩

/-- A step that defines some more registers, and no old one again, defines all of them
once. -/
private theorem defines_once (formed : builder.Formed) {after : FunctionBuilder}
    {new : List Register} (grown : after.defined.Perm (new ++ builder.defined))
    (single : new.Nodup) (above : ∀ register ∈ new, builder.size ≤ register)
    (parameters : after.function.parameters = builder.function.parameters) :
    after.defined.Nodup ∧ ∀ register ∈ after.defined, register ∉ after.function.parameters := by
  constructor
  · rw [grown.nodup_iff, List.nodup_append]
    refine ⟨single, formed.single, ?_⟩
    rintro register member other earlier rfl
    exact absurd (formed.below register earlier) (Nat.not_lt.mpr (above register member))
  · intro register member
    rw [parameters]
    rcases List.mem_append.mp (grown.mem_iff.mp member) with later | earlier
    · intro listed
      exact absurd (formed.parameters register listed) (Nat.not_lt.mpr (above register later))
    · exact formed.fresh register earlier

theorem pushing (formed : builder.Formed) {instruction : Instruction}
    (opened : builder.Opened) (plain : Plain instruction)
    (fresh : ∀ register, instruction.target? = some register →
      register < builder.size ∧ register ∉ builder.defined ∧
        register ∉ builder.function.parameters) :
    (builder.pushing instruction).Formed := by
  obtain ⟨block, found, _⟩ := opened
  have within : builder.current < builder.function.blocks.length :=
    (List.getElem?_eq_some_iff.mp found).1
  have blocks := formed.numbered.blocks_changing fun block =>
    { block with instructions := block.instructions ++ [instruction] }
  have instructions : (builder.pushing instruction).function.instructions.Perm
      (instruction :: builder.function.instructions) := by
    rw [Function.instructions, FunctionBuilder.pushing, blocks]
    exact flatMap_modify_push _ _ instruction within
  have grown : (builder.pushing instruction).defined.Perm
      (instruction.target?.toList ++ builder.defined) := by
    have later := (instructions.filterMap Instruction.target?).append_left
      (targets builder.prologue)
    refine later.trans ?_
    rw [List.filterMap_cons]
    cases instruction.target? with
    | none => exact List.Perm.refl _
    | some register => exact List.perm_middle
  have new : ∀ register ∈ (builder.pushing instruction).defined,
      instruction.target? = some register ∨ register ∈ builder.defined := by
    intro register member
    rcases List.mem_append.mp (grown.mem_iff.mp member) with later | earlier
    · exact .inl (Option.mem_toList.mp later)
    · exact .inr earlier
  refine
    { formed with
      numbered := formed.numbered.pushing instruction
      below := ?_
      single := ?_
      fresh := ?_
      plain := ?_
      closed := ?_ }
  · intro register member
    rcases new register member with later | earlier
    · exact (fresh register later).1
    · exact formed.below register earlier
  · rw [grown.nodup_iff, List.nodup_append]
    refine ⟨Option.toList_nodup _, formed.single, ?_⟩
    rintro register member other earlier rfl
    exact (fresh register (Option.mem_toList.mp member)).2.1 earlier
  · intro register member
    rcases new register member with later | earlier
    · exact (fresh register later).2.2
    · exact formed.fresh register earlier
  · intro other member
    rcases List.mem_cons.mp (instructions.mem_iff.mp member) with rfl | earlier
    · exact plain
    · exact formed.plain other earlier
  · intro other member
    rw [FunctionBuilder.pushing, blocks] at member
    obtain ⟨position, found⟩ := List.getElem?_of_mem member
    rw [List.getElem?_modify] at found
    obtain ⟨before, earlier, rfl⟩ := Option.map_eq_some_iff.mp found
    intro terminator ends
    apply formed.closed before (List.mem_of_getElem? earlier) terminator
    split at ends <;> exact ends

theorem closing (formed : builder.Formed) {terminator : Terminator}
    (known : ∀ target ∈ terminator.successors, target < builder.nextBlock) :
    (builder.closing terminator).Formed := by
  have blocks := formed.numbered.blocks_changing fun block => { block with terminator? := some terminator }
  have instructions : (builder.closing terminator).function.instructions =
      builder.function.instructions := by
    rw [Function.instructions, FunctionBuilder.closing, blocks, flatMap_modify_close]
    rfl
  have same : (builder.closing terminator).defined = builder.defined := by
    rw [FunctionBuilder.defined, instructions]
    rfl
  refine
    { formed with
      numbered := formed.numbered.closing terminator
      below := ?_
      single := ?_
      fresh := ?_
      plain := ?_
      closed := ?_ }
  · rw [same]
    exact formed.below
  · rw [same]
    exact formed.single
  · rw [same]
    exact formed.fresh
  · rw [instructions]
    exact formed.plain
  · intro other member
    rw [FunctionBuilder.closing, blocks] at member
    obtain ⟨position, found⟩ := List.getElem?_of_mem member
    rw [List.getElem?_modify] at found
    obtain ⟨before, earlier, rfl⟩ := Option.map_eq_some_iff.mp found
    intro ending ends
    split at ends
    · cases ends
      exact known
    · exact formed.closed before (List.mem_of_getElem? earlier) ending ends

theorem appending (formed : builder.Formed) (label : String) :
    (builder.appending label).Formed := by
  have instructions : (builder.appending label).function.instructions =
      builder.function.instructions := by
    simp [Function.instructions, FunctionBuilder.appending, Block.empty]
  have same : (builder.appending label).defined = builder.defined := by
    rw [FunctionBuilder.defined, instructions]
    rfl
  refine
    { formed with
      numbered := formed.numbered.appending label
      nonempty := Nat.succ_pos _
      below := ?_
      single := ?_
      fresh := ?_
      plain := ?_
      closed := ?_ }
  · rw [same]
    exact formed.below
  · rw [same]
    exact formed.single
  · rw [same]
    exact formed.fresh
  · rw [instructions]
    exact formed.plain
  · intro block member terminator ends target leads
    rcases List.mem_append.mp member with earlier | new
    · exact Nat.lt_succ_of_lt (formed.closed block earlier terminator ends target leads)
    · rw [List.mem_singleton] at new
      rw [new] at ends
      cases ends

theorem preparing (formed : builder.Formed) {dtype : DType} {instruction : Instruction}
    (defines : instruction.target? = some builder.size)
    (prepared : (∃ count, instruction = .alloca builder.size dtype count) ∨
      ∃ global ∈ builder.globals, global.dtype = dtype ∧
        instruction = .address builder.size global.name) :
    (builder.preparing dtype instruction).Formed := by
  have registered := formed.registering (.pointer dtype)
  have grown : (builder.preparing dtype instruction).defined.Perm
      ([builder.size] ++ builder.defined) := by
    have shape : targets (builder.prologue ++ [instruction]) =
        targets builder.prologue ++ [builder.size] := by
      simp [targets, defines]
    change (targets (builder.prologue ++ [instruction]) ++ _).Perm _
    rw [shape, List.append_assoc]
    exact List.perm_middle
  have typed : (builder.preparing dtype instruction).function.registerTypes[builder.size]? =
      some (.pointer dtype) := by
    simp [FunctionBuilder.preparing, FunctionBuilder.registering, FunctionBuilder.size]
  have once := formed.defines_once grown (List.nodup_singleton _)
    (fun register member => Nat.le_of_eq (List.mem_singleton.mp member).symm) rfl
  refine
    { registered with
      below := ?_
      single := once.1
      fresh := once.2
      prepared := ?_
      addressed := ?_ }
  · intro register member
    rw [size_preparing]
    rcases List.mem_append.mp (grown.mem_iff.mp member) with new | earlier
    · rw [List.mem_singleton.mp new]
      exact Nat.lt_succ_self _
    · exact Nat.lt_succ_of_lt (formed.below register earlier)
  · intro other member
    rcases List.mem_append.mp member with earlier | new
    · exact registered.prepared other earlier
    · rw [List.mem_singleton.mp new]
      rcases prepared with ⟨count, shape⟩ | ⟨global, listed, rfl, shape⟩
      · exact .inl ⟨_, dtype, count, shape, typed⟩
      · exact .inr ⟨_, global, listed, shape, typed⟩
  · intro name register member
    exact List.mem_append_left _ (formed.addressed name register member)

theorem locating (formed : builder.Formed) {global : Global}
    (listed : global ∈ builder.globals) : (builder.locating global).Formed := by
  have prepared : (builder.preparing global.dtype (.address builder.size global.name)).Formed :=
    formed.preparing rfl (.inr ⟨global, listed, rfl, rfl⟩)
  refine { prepared with addressed := ?_ }
  intro name register member
  rcases List.mem_cons.mp member with same | earlier
  · cases same
    exact List.mem_append_right _ (List.mem_singleton.mpr rfl)
  · exact prepared.addressed name register earlier

theorem declaring (formed : builder.Formed) (hint : String) (data : Storage)
    (isMutable : Bool) : (builder.declaring hint data isMutable).Formed := by
  have fresh := formed.nextName_fresh hint
  refine
    { formed with
      prepared := ?_
      named := ?_
      apart := ?_ }
  · intro instruction member
    rcases formed.prepared instruction member with
      memory | ⟨register, global, listed, shape, typed⟩
    · exact .inl memory
    · exact .inr ⟨register, global, (mem_insertGlobal fresh).mpr (.inr listed), shape, typed⟩
  · intro global member
    rcases (mem_insertGlobal fresh).mp member with rfl | earlier
    · exact ⟨_, builder.nameCounter, Nat.lt_succ_self _, rfl⟩
    · obtain ⟨before, count, below, spelled⟩ := formed.named global earlier
      exact ⟨before, count, Nat.lt_succ_of_lt below, spelled⟩
  · rw [FunctionBuilder.declaring, (names_insertGlobal fresh).nodup_iff, List.nodup_cons]
    exact ⟨fresh, formed.apart⟩

end Formed

theorem Step.formed {builder after : FunctionBuilder} (step : Step builder after)
    (formed : builder.Formed) : after.Formed := by
  cases step with
  | define type instruction opened plain defines =>
      refine (formed.registering type).pushing opened plain fun register target => ?_
      cases defines.symm.trans target
      refine ⟨by simp, fun earlier => ?_, fun listed => ?_⟩
      · exact absurd (formed.below _ earlier) (Nat.lt_irrefl _)
      · exact absurd (formed.parameters _ listed) (Nat.lt_irrefl _)
  | write instruction opened plain silent =>
      refine formed.pushing opened plain fun register target => ?_
      rw [silent] at target
      cases target
  | close terminator opened known => exact formed.closing known
  | append label => exact formed.appending label
  | seek block => exact { formed with }
  | allocate dtype count => exact formed.preparing rfl (.inl ⟨count, rfl⟩)
  | locate global listed => exact formed.locating listed
  | declare hint data isMutable => exact formed.declaring hint data isMutable
  | note states => exact { formed with }

theorem Steps.formed {builder after : FunctionBuilder} (steps : Steps builder after)
    (formed : builder.Formed) : after.Formed := by
  induction steps with
  | refl => exact formed
  | tail _ step inductionHypothesis => exact step.formed inductionHypothesis

/-! ### Steps forget nothing -/

/-- The block holds what it held before; once it is closed it stays the same. -/
structure Extends (block after : Block) : Prop where
  id : after.id = block.id
  instructions : ∃ more, after.instructions = block.instructions ++ more ∧
    ∀ terminator, block.terminator? = some terminator →
      more = [] ∧ after.terminator? = some terminator

theorem Extends.refl (block : Block) : Extends block block :=
  ⟨rfl, [], (List.append_nil _).symm, fun _ ends => ⟨rfl, ends⟩⟩

theorem Extends.trans {first second third : Block} (one : Extends first second)
    (two : Extends second third) : Extends first third := by
  obtain ⟨id, more, instructions, closed⟩ := one
  obtain ⟨id', more', instructions', closed'⟩ := two
  refine ⟨id'.trans id, more ++ more', ?_, ?_⟩
  · rw [instructions', instructions, List.append_assoc]
  · intro terminator ends
    obtain ⟨none, ends'⟩ := closed terminator ends
    obtain ⟨none', ends''⟩ := closed' terminator ends'
    exact ⟨by rw [none, none', List.append_nil], ends''⟩

structure Grows (builder after : FunctionBuilder) : Prop where
  parameters : after.function.parameters = builder.function.parameters
  name : after.function.name = builder.function.name
  types : ∀ (register : Register) (type : RegisterType),
    builder.function.registerTypes[register]? = some type →
      after.function.registerTypes[register]? = some type
  /-- The prologue only gets new registers. -/
  prologue : ∃ more, after.prologue = builder.prologue ++ more ∧
    ∀ register ∈ targets more, builder.size ≤ register
  blocks : ∀ (id : BlockId) (block : Block), builder.function.blocks[id]? = some block →
    ∃ later, after.function.blocks[id]? = some later ∧ Extends block later
  globals : ∀ global ∈ builder.globals, global ∈ after.globals
  next : builder.nextBlock ≤ after.nextBlock

namespace Grows

theorem refl (builder : FunctionBuilder) : builder.Grows builder :=
  { parameters := rfl
    name := rfl
    types := fun _ _ typed => typed
    prologue := ⟨[], (List.append_nil _).symm, fun _ member => absurd member List.not_mem_nil⟩
    blocks := fun _ block found => ⟨block, found, Extends.refl block⟩
    globals := fun _ member => member
    next := Nat.le_refl _ }

theorem size_le {builder after : FunctionBuilder} (grows : builder.Grows after) :
    builder.size ≤ after.size := by
  by_contra shrunk
  have within : after.size < builder.function.registerTypes.size := Nat.lt_of_not_le shrunk
  have typed := grows.types after.size _ (Array.getElem?_eq_getElem within)
  exact absurd (Array.getElem?_eq_some_iff.mp typed).1 (Nat.lt_irrefl _)

theorem trans {first second third : FunctionBuilder} (one : first.Grows second)
    (two : second.Grows third) : first.Grows third := by
  refine ⟨two.parameters.trans one.parameters, two.name.trans one.name,
    fun register type typed => two.types _ _ (one.types _ _ typed), ?_, ?_,
    fun global member => two.globals _ (one.globals _ member), Nat.le_trans one.next two.next⟩
  · obtain ⟨more, prologue, above⟩ := one.prologue
    obtain ⟨more', prologue', above'⟩ := two.prologue
    refine ⟨more ++ more', by rw [prologue', prologue, List.append_assoc], ?_⟩
    intro register member
    rw [targets, List.filterMap_append, List.mem_append] at member
    rcases member with earlier | later
    · exact above register earlier
    · exact Nat.le_trans one.size_le (above' register later)
  · intro id block found
    obtain ⟨later, found', extends'⟩ := one.blocks id block found
    obtain ⟨last, found'', extends''⟩ := two.blocks id later found'
    exact ⟨last, found'', extends'.trans extends''⟩

/-- A register of the prologue that an earlier builder had already was defined there. -/
theorem mem_prologue {builder after : FunctionBuilder} (grows : builder.Grows after)
    {instruction : Instruction} (member : instruction ∈ after.prologue) {register : Register}
    (defines : instruction.target? = some register) (below : register < builder.size) :
    instruction ∈ builder.prologue := by
  obtain ⟨more, prologue, above⟩ := grows.prologue
  rw [prologue, List.mem_append] at member
  rcases member with earlier | later
  · exact earlier
  · have defined : register ∈ targets more := List.mem_filterMap.mpr ⟨instruction, later, defines⟩
    exact absurd below (Nat.not_lt.mpr (above register defined))

end Grows

theorem grows_registering (builder : FunctionBuilder) (type : RegisterType) :
    builder.Grows (builder.registering type) := by
  refine { Grows.refl builder with types := ?_ }
  intro register held typed
  have within : register < builder.function.registerTypes.size :=
    (Array.getElem?_eq_some_iff.mp typed).1
  rw [registering, Array.getElem?_push_lt within, ← Array.getElem?_eq_getElem within]
  exact typed

private theorem grows_changing {builder : FunctionBuilder} (numbered : builder.Numbered)
    (opened : builder.Opened) {change : Block → Block}
    (extends' : ∀ block : Block, block.terminator? = none → Extends block (change block)) :
    builder.Grows (builder.changing change) := by
  refine { Grows.refl builder with blocks := ?_ }
  obtain ⟨current, here, open'⟩ := opened
  intro id block found
  rw [numbered.blocks_changing, List.getElem?_modify, found]
  by_cases same : builder.current = id
  · subst same
    cases here.symm.trans found
    exact ⟨change current, by simp, extends' _ open'⟩
  · exact ⟨block, by simp [same], Extends.refl block⟩

private theorem extends_push (instruction : Instruction) (block : Block)
    (open' : block.terminator? = none) :
    Extends block { block with instructions := block.instructions ++ [instruction] } := by
  refine ⟨rfl, [instruction], rfl, ?_⟩
  intro terminator ends
  rw [open'] at ends
  cases ends

theorem grows_pushing {builder : FunctionBuilder} (numbered : builder.Numbered)
    (opened : builder.Opened) (instruction : Instruction) :
    builder.Grows (builder.pushing instruction) :=
  grows_changing numbered opened (extends_push instruction)

theorem grows_closing {builder : FunctionBuilder} (numbered : builder.Numbered)
    (opened : builder.Opened) (terminator : Terminator) :
    builder.Grows (builder.closing terminator) := by
  refine grows_changing numbered opened fun block open' => ⟨rfl, [], ?_, ?_⟩
  · exact (List.append_nil _).symm
  · intro earlier ends
    rw [open'] at ends
    cases ends

theorem grows_appending (builder : FunctionBuilder) (label : String) :
    builder.Grows (builder.appending label) := by
  refine { Grows.refl builder with blocks := ?_, next := Nat.le_succ _ }
  intro id block found
  refine ⟨block, ?_, Extends.refl block⟩
  rw [appending, List.getElem?_append_left (List.getElem?_eq_some_iff.mp found).1]
  exact found

theorem grows_seeking (builder : FunctionBuilder) (block : BlockId) :
    builder.Grows (builder.seeking block) :=
  { Grows.refl builder with }

theorem grows_preparing (builder : FunctionBuilder) (dtype : DType)
    {instruction : Instruction} (defines : instruction.target? = some builder.size) :
    builder.Grows (builder.preparing dtype instruction) := by
  refine { grows_registering builder (.pointer dtype) with prologue := ⟨[instruction], rfl, ?_⟩ }
  intro register member
  have same : register = builder.size := by simpa [targets, defines] using member
  exact Nat.le_of_eq same.symm

theorem Step.grows {builder after : FunctionBuilder} (step : Step builder after)
    (formed : builder.Formed) : builder.Grows after := by
  cases step with
  | define type instruction opened plain defines =>
      exact (grows_registering builder type).trans
        (grows_pushing (formed.numbered.registering type) opened instruction)
  | write instruction opened plain silent => exact grows_pushing formed.numbered opened instruction
  | close terminator opened known => exact grows_closing formed.numbered opened terminator
  | append label => exact grows_appending builder label
  | seek block => exact grows_seeking builder block
  | allocate dtype count => exact grows_preparing builder dtype rfl
  | locate global listed =>
      exact { grows_preparing builder global.dtype
        rfl with }
  | declare hint data isMutable =>
      refine { Grows.refl builder with globals := ?_ }
      intro global member
      exact (mem_insertGlobal (formed.nextName_fresh hint)).mpr (.inr member)
  | note states => exact { Grows.refl builder with }

theorem Steps.grows {builder after : FunctionBuilder} (steps : Steps builder after)
    (formed : builder.Formed) : builder.Grows after := by
  induction steps with
  | refl => exact Grows.refl builder
  | tail steps step inductionHypothesis =>
      exact inductionHypothesis.trans (step.grows (Steps.formed steps formed))

end FunctionBuilder
end TensorGraph.Code

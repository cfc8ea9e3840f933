/-
The weight of code.

A function weighs one for each instruction, each block, each register where a
constant could stand and each conditional branch.  Folding constants and
removing dead code say that they changed something exactly when they made the
function lighter; otherwise they leave it as it was.
-/

import TensorGraph.Proofs.Optimize.ConstantFolding
import TensorGraph.Proofs.Optimize.DeadCode

namespace TensorGraph

namespace Code

/-- A register may give way to a constant. -/
def Operand.weight (operand : Operand) : Nat :=
  operand.register?.isSome.toNat

/-- One for the instruction, and one for each register where a constant could stand. -/
def Instruction.weight (instruction : Instruction) : Nat :=
  1 + (instruction.operands.map Operand.weight).sum

def Terminator.isConditional : Terminator → Bool
  | branch _ _ _ _ => true
  | _ => false

/-- The way on depends on a condition. -/
def isConditional (terminator? : Option Terminator) : Bool :=
  (terminator?.map Terminator.isConditional).getD false

def Block.weight (block : Block) : Nat :=
  1 + (block.instructions.map Instruction.weight).sum + (isConditional block.terminator?).toNat

/-- Instructions, blocks, registers in the place of constants and conditional branches. -/
def Function.weight (function : Function) : Nat :=
  function.instructionCount + function.blocks.length +
    ((function.instructions.flatMap Instruction.operands).filterMap Operand.register?).length +
    (function.blocks.filter fun block => isConditional block.terminator?).length

theorem Instruction.weight_pos (instruction : Instruction) : 0 < instruction.weight := by
  unfold weight
  omega

theorem Block.weight_pos (block : Block) : 0 < block.weight := by
  unfold weight
  omega

private theorem length_registers (operands : List Operand) :
    (operands.filterMap Operand.register?).length = (operands.map Operand.weight).sum := by
  induction operands with
  | nil => rfl
  | cons operand rest ih =>
      rw [List.map_cons, List.sum_cons, ← ih, Operand.weight, List.filterMap_cons]
      cases operand.register? with
      | none => simp
      | some register => simp [Nat.add_comm]

private theorem sum_weights (instructions : List Instruction) :
    (instructions.map Instruction.weight).sum = instructions.length +
      ((instructions.flatMap Instruction.operands).filterMap Operand.register?).length := by
  induction instructions with
  | nil => rfl
  | cons instruction rest ih =>
      rw [List.map_cons, List.sum_cons, ih, List.flatMap_cons, List.filterMap_append,
        List.length_append, length_registers instruction.operands, Instruction.weight,
        List.length_cons]
      omega

/-- A function weighs as much as its blocks. -/
theorem Function.weight_eq_sum (function : Function) :
    function.weight = (function.blocks.map Block.weight).sum := by
  have general : ∀ blocks : List Block,
      ((blocks.flatMap Block.instructions).map Instruction.weight).sum + blocks.length +
        (blocks.filter fun block => isConditional block.terminator?).length =
          (blocks.map Block.weight).sum := by
    intro blocks
    induction blocks with
    | nil => rfl
    | cons block rest ih =>
        rw [List.flatMap_cons, List.map_append, List.sum_append, List.map_cons, List.sum_cons,
          ← ih, Block.weight, List.length_cons, List.filter_cons]
        cases isConditional block.terminator? with
        | false => simp only [Bool.false_eq_true, if_false, Bool.toNat_false]; omega
        | true => simp only [if_true, Bool.toNat_true, List.length_cons]; omega
  have blocks := general function.blocks
  have inside := sum_weights function.instructions
  unfold weight instructionCount
  unfold instructions at inside ⊢
  omega

end Code

namespace Optimize

open Code

/-! ### Reports -/

/-- What was done to something is reported as a change exactly when it got lighter, and
otherwise nothing was done. -/
structure Reports {α : Type} (weight : α → Nat) (before : α) (result : α × Bool) : Prop where
  kept : result.2 = false → result.1 = before
  lighter : result.2 = true → weight result.1 < weight before

namespace Reports

variable {α : Type} {weight : α → Nat} {before middle after : α} {first second changed : Bool}

theorem unchanged : Reports weight before (before, false) :=
  ⟨fun _ => rfl, fun changed => absurd changed Bool.false_ne_true⟩

theorem le (reports : Reports weight before (after, changed)) : weight after ≤ weight before := by
  cases changed with
  | false => rw [show after = before from reports.kept rfl]
  | true => exact (show weight after < weight before from reports.lighter rfl).le

/-- One change after another. -/
theorem trans (earlier : Reports weight before (middle, first))
    (later : Reports weight middle (after, second)) :
    Reports weight before (after, first || second) := by
  constructor
  · intro none
    obtain ⟨quiet, still⟩ := Bool.or_eq_false_iff.mp none
    exact (later.kept still).trans (earlier.kept quiet)
  · intro some
    rcases Bool.or_eq_true_iff.mp some with changed | changed
    · exact later.le.trans_lt (earlier.lighter changed)
    · exact (later.lighter changed).trans_le earlier.le

/-- What is done to every member of a list. -/
theorem all {change : α → α} {flag : α → Bool} {items : List α}
    (each : ∀ item ∈ items, Reports weight item (change item, flag item)) :
    Reports (fun items => (items.map weight).sum) items (items.map change, items.any flag) := by
  induction items with
  | nil => exact unchanged
  | cons item rest ih =>
      obtain ⟨first, others⟩ := List.forall_mem_cons.mp each
      have later := ih others
      rw [List.map_cons, List.any_cons]
      constructor
      · intro none
        obtain ⟨quiet, still⟩ := Bool.or_eq_false_iff.mp none
        exact congrArg₂ List.cons (first.kept quiet) (later.kept still)
      · intro some
        have below := first.le
        have within := later.le
        simp only [List.map_cons, List.sum_cons] at within ⊢
        rcases Bool.or_eq_true_iff.mp some with changed | changed
        · have less : weight (change item) < weight item := first.lighter changed
          omega
        · have less : ((rest.map change).map weight).sum < (rest.map weight).sum :=
            later.lighter changed
          omega

end Reports

/-- Every member that goes takes at least one with it. -/
theorem sum_map_sublist {α : Type} {weight : α → Nat} (positive : ∀ item, 0 < weight item)
    {fewer items : List α} (sublist : fewer.Sublist items) :
    (fewer.map weight).sum + items.length ≤ (items.map weight).sum + fewer.length := by
  induction sublist with
  | slnil => exact le_rfl
  | cons item _ ih =>
      have := positive item
      simp only [List.map_cons, List.sum_cons, List.length_cons]
      omega
  | cons_cons item _ ih =>
      simp only [List.map_cons, List.sum_cons, List.length_cons]
      omega

theorem reports_filter {α : Type} {weight : α → Nat} (positive : ∀ item, 0 < weight item)
    (keep : α → Bool) (items : List α) :
    Reports (fun items => (items.map weight).sum) items
      (items.filter keep, (items.filter keep).length != items.length) := by
  constructor
  · intro same
    exact List.filter_sublist.eq_of_length (by simpa using same)
  · intro shorter
    have fewer := List.length_filter_le keep items
    have different : (items.filter keep).length ≠ items.length := bne_iff_ne.mp shorter
    have sum := sum_map_sublist positive (List.filter_sublist (p := keep) (l := items))
    simp only
    omega

/-- A block is changed in its instructions and in its ending. -/
theorem reports_block {block : Block} {instructions : List Instruction}
    {terminator? : Option Terminator} {first second : Bool}
    (inside : Reports (fun items => (items.map Instruction.weight).sum) block.instructions
      (instructions, first))
    (ending : Reports (fun terminator? => (isConditional terminator?).toNat) block.terminator?
      (terminator?, second)) :
    Reports Block.weight block
      ({ block with
          instructions := instructions
          terminator? := terminator? }, first || second) := by
  constructor
  · intro none
    obtain ⟨quiet, still⟩ := Bool.or_eq_false_iff.mp none
    rw [show instructions = block.instructions from inside.kept quiet,
      show terminator? = block.terminator? from ending.kept still]
  · intro some
    have below := inside.le
    have within := ending.le
    simp only [Block.weight] at below within ⊢
    rcases Bool.or_eq_true_iff.mp some with changed | changed
    · have less := inside.lighter changed
      simp only at less
      omega
    · have less := ending.lighter changed
      simp only at less
      omega

/-- A function is changed in its blocks. -/
theorem reports_blocks {function : Function} {blocks : List Block} {changed : Bool}
    (each : Reports (fun blocks => (blocks.map Block.weight).sum) function.blocks
      (blocks, changed)) :
    Reports Function.weight function ({ function with blocks := blocks }, changed) := by
  constructor
  · intro none
    rw [show blocks = function.blocks from each.kept none]
  · intro some
    rw [Function.weight_eq_sum, Function.weight_eq_sum]
    exact each.lighter some

/-! ### Constants -/

section Constants

variable (constants : Constants)

theorem reports_substitute (operand : Operand) :
    Reports Operand.weight operand
      (constants.substitute operand, constants.isRewritten operand) := by
  cases operand with
  | constant value => exact .unchanged
  | register register =>
      unfold Constants.substitute Constants.isRewritten Constants.holds
      dsimp only [Operand.register?, Option.map_some, Option.getD_some]
      cases constants.lookup register with
      | none => exact .unchanged
      | some value => exact ⟨fun none => absurd none (by simp), fun _ => Nat.zero_lt_one⟩

theorem operands_mapOperands (change : Operand → Operand) (instruction : Instruction) :
    (instruction.mapOperands change).operands = instruction.operands.map change := by
  cases instruction <;> rfl

theorem mapOperands_of_operands {change : Operand → Operand} {instruction : Instruction}
    (fixed : instruction.operands.map change = instruction.operands) :
    instruction.mapOperands change = instruction := by
  cases instruction <;> simp_all [Instruction.operands, Instruction.mapOperands]

theorem reports_mapOperands (instruction : Instruction) :
    Reports Instruction.weight instruction
      (instruction.mapOperands constants.substitute,
        instruction.operands.any constants.isRewritten) := by
  have operands := Reports.all fun operand (_ : operand ∈ instruction.operands) =>
    reports_substitute constants operand
  constructor
  · exact fun none => mapOperands_of_operands (operands.kept none)
  · intro some
    have lighter := operands.lighter some
    simp only [Instruction.weight, operands_mapOperands] at lighter ⊢
    omega

/-- The condition of the terminator is known. -/
def decides : Option Terminator → Bool
  | some (.branch condition _ _ _) => (constants.value? condition).isSome
  | _ => false

theorem reports_foldTerminator (terminator? : Option Terminator) :
    Reports (fun terminator? => (isConditional terminator?).toNat) terminator?
      (foldTerminator constants terminator?, decides constants terminator?) := by
  rcases terminator? with _ | ⟨target⟩ | ⟨condition, onTrue, onFalse, hint?⟩ | _
  case some.branch =>
    unfold foldTerminator decides
    dsimp only
    cases constants.value? condition with
    | none => exact .unchanged
    | some value => exact ⟨fun none => absurd none (by simp), fun _ => Nat.zero_lt_one⟩
  all_goals exact .unchanged

theorem foldBlock_eq (block : Block) :
    constants.foldBlock block =
      (foldedBlock constants block,
        ((block.instructions.filter fun instruction => !constants.isComputed instruction).length !=
            block.instructions.length ||
          (block.instructions.filter fun instruction => !constants.isComputed instruction).any
            fun instruction => instruction.operands.any constants.isRewritten) ||
          decides constants block.terminator?) := by
  refine Prod.ext rfl ?_
  simp only [Constants.foldBlock]
  congr 1
  rcases block.terminator? with _ | ⟨target⟩ | ⟨condition, onTrue, onFalse, hint?⟩ | _ <;>
    simp [decides]

theorem reports_foldBlock (block : Block) :
    Reports Block.weight block (constants.foldBlock block) := by
  rw [foldBlock_eq]
  refine reports_block ?_ (reports_foldTerminator constants block.terminator?)
  exact (reports_filter Instruction.weight_pos _ block.instructions).trans
    (Reports.all fun instruction _ => reports_mapOperands constants instruction)

end Constants

/-- Folding constants reports a change exactly when it made the function lighter. -/
theorem reports_foldConstants (function : Function) :
    Reports Function.weight function (foldConstants function) := by
  have blocks := Reports.all fun block (_ : block ∈ function.blocks) =>
    reports_foldBlock (Constants.ofFunction function) block
  unfold foldConstants
  dsimp only
  rw [List.any_map, List.map_map]
  exact reports_blocks blocks

/-! ### Dead code -/

/-- A block lost an instruction in the sweep. -/
def isSwept (function : Function) (block : Block) : Bool :=
  (swept function block).instructions.length != block.instructions.length

theorem reports_sweep (function : Function) :
    Reports Function.weight function (sweep function, function.blocks.any (isSwept function)) := by
  rw [sweep_eq]
  refine reports_blocks (Reports.all fun block _ => ?_)
  have ending : Reports (fun terminator? => (isConditional terminator?).toNat) block.terminator?
      (block.terminator?, false) := .unchanged
  have block := reports_block (reports_filter Instruction.weight_pos (keeps function)
    block.instructions) ending
  rwa [Bool.or_false] at block

/-- Counting the instructions shows whether the sweep took one. -/
theorem any_isSwept (function : Function) :
    function.blocks.any (isSwept function) = true ↔
      (sweep function).instructionCount < function.instructionCount := by
  constructor
  · intro some
    obtain ⟨block, member, fewer⟩ := List.any_eq_true.mp some
    rw [sweep_eq]
    simp only [Function.instructionCount, Function.instructions, List.flatMap_map,
      List.length_flatMap]
    have bounded : ∀ block : Block,
        (swept function block).instructions.length ≤ block.instructions.length :=
      fun block => List.length_filter_le _ _
    exact List.sum_lt_sum _ _ (fun block _ => bounded block)
      ⟨block, member, lt_of_le_of_ne (bounded block) (bne_iff_ne.mp fewer)⟩
  · intro less
    by_contra none
    have same := (reports_sweep function).kept (Bool.not_eq_true _ ▸ none)
    simp only at same
    rw [same] at less
    exact lt_irrefl _ less

/-- Removing dead code reports a change exactly when it made the function lighter. -/
theorem reports_removeDeadCode (function : Function) :
    Reports Function.weight function (removeDeadCode function) := by
  induction function using removeDeadCode.induct with
  | case1 function next less ih =>
      have swept := reports_sweep function
      rw [(any_isSwept function).mpr less] at swept
      rw [removeDeadCode, if_pos less]
      have both := swept.trans ih
      rwa [Bool.true_or] at both
  | case2 function next same =>
      have swept := reports_sweep function
      rw [Bool.eq_false_iff.mpr fun some => same ((any_isSwept function).mp some)] at swept
      rw [removeDeadCode, if_neg same]
      exact swept

end Optimize
end TensorGraph

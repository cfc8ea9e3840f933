/-
Branches, stage by stage.

A branch is three blocks: one for each answer, and the one where both go on.
Each of its stages is a builder of its own, so that what a block holds can be
read off.
-/

import TensorGraph.Proofs.Code.Loop

namespace TensorGraph.Code.FunctionBuilder

section Stages

variable (builder : FunctionBuilder)

/-- The three blocks of a branch, still empty. -/
def branchFrame (trueLabel falseLabel mergeLabel : String) : FunctionBuilder :=
  ((builder.appending trueLabel).appending falseLabel).appending mergeLabel

/-- The first answer, open. -/
def branchOpened (trueLabel falseLabel mergeLabel : String) (test : Operand) : FunctionBuilder :=
  ((builder.branchFrame trueLabel falseLabel mergeLabel).closing
    (.branch test builder.nextBlock (builder.nextBlock + 1) none)).seeking builder.nextBlock

/-- The second answer, open; the first block of the branch is `start`. -/
def branchTurned (start : BlockId) : FunctionBuilder :=
  (builder.closing (.jump (start + 2))).seeking (start + 1)

/-- The block where both answers go on. -/
def branchClosed (start : BlockId) : FunctionBuilder :=
  (builder.closing (.jump (start + 2))).seeking (start + 2)

end Stages

variable {builder : FunctionBuilder} {trueLabel falseLabel mergeLabel : String} {test : Operand}

theorem steps_branchFrame (builder : FunctionBuilder) (trueLabel falseLabel mergeLabel : String) :
    Steps builder (builder.branchFrame trueLabel falseLabel mergeLabel) :=
  ((Relation.ReflTransGen.single (Step.append builder trueLabel)).tail
    (Step.append _ falseLabel)).tail (Step.append _ mergeLabel)

theorem steps_branchOpened {trueLabel falseLabel mergeLabel : String}
    (opened : (builder.branchFrame trueLabel falseLabel mergeLabel).Opened) (test : Operand) :
    Steps builder (builder.branchOpened trueLabel falseLabel mergeLabel test) := by
  refine ((steps_branchFrame builder trueLabel falseLabel mergeLabel).tail
    (Step.close _ (.branch test builder.nextBlock (builder.nextBlock + 1) none) opened ?_)).tail
      (Step.seek _ builder.nextBlock)
  intro target member
  have next : (builder.branchFrame trueLabel falseLabel mergeLabel).nextBlock =
      builder.nextBlock + 3 := rfl
  rw [next]
  simp only [Terminator.successors, List.mem_cons, List.not_mem_nil, or_false] at member
  rcases member with rfl | rfl
  · exact Nat.lt_add_of_pos_right (by decide)
  · exact Nat.add_lt_add_left (by decide) _

theorem numbered_branchFrame (numbered : builder.Numbered)
    (trueLabel falseLabel mergeLabel : String) :
    (builder.branchFrame trueLabel falseLabel mergeLabel).Numbered :=
  ((numbered.appending trueLabel).appending falseLabel).appending mergeLabel

theorem blockAt_branchFrame (numbered : builder.Numbered) (id : Nat) :
    (builder.branchFrame trueLabel falseLabel mergeLabel).blockAt id =
      if id = builder.nextBlock + 2 then some (Block.empty (builder.nextBlock + 2) mergeLabel)
      else if id = builder.nextBlock + 1 then
        some (Block.empty (builder.nextBlock + 1) falseLabel)
      else if id = builder.nextBlock then some (Block.empty builder.nextBlock trueLabel)
      else builder.blockAt id := by
  have one := numbered.appending trueLabel
  have two := one.appending falseLabel
  rw [branchFrame, two.blockAt_appending, one.blockAt_appending, numbered.blockAt_appending]
  rfl

theorem blockAt_branchOpened (numbered : builder.Numbered) (opened : builder.Opened) (id : Nat) :
    (builder.branchOpened trueLabel falseLabel mergeLabel test).blockAt id =
      if id = builder.nextBlock + 2 then some (Block.empty (builder.nextBlock + 2) mergeLabel)
      else if id = builder.nextBlock + 1 then
        some (Block.empty (builder.nextBlock + 1) falseLabel)
      else if id = builder.nextBlock then some (Block.empty builder.nextBlock trueLabel)
      else if id = builder.current then
        (builder.blockAt id).map fun block =>
          { block with
            terminator? := some (.branch test builder.nextBlock (builder.nextBlock + 1) none) }
      else builder.blockAt id := by
  have below : builder.current < builder.nextBlock := numbered.current_lt opened
  have closed := (numbered_branchFrame numbered trueLabel falseLabel mergeLabel).blockAt_closing
    (.branch test builder.nextBlock (builder.nextBlock + 1) none) id
  rw [blockAt_branchFrame numbered] at closed
  refine closed.trans ?_
  change (if id = builder.current then _ else _) = _
  by_cases here : id = builder.current
  · have small : id < builder.nextBlock := here ▸ below
    have away : ∀ more, id ≠ builder.nextBlock + more := fun more =>
      Nat.ne_of_lt (Nat.lt_of_lt_of_le small (Nat.le_add_right _ more))
    simp only [if_pos here, if_neg (away 2), if_neg (away 1), if_neg (Nat.ne_of_lt small)]
  · simp only [if_neg here]

variable (trueLabel falseLabel mergeLabel test) in
/-- The three blocks of a branch are empty when it opens. -/
theorem blockAt_branchOpened_empty (numbered : builder.Numbered) (opened : builder.Opened)
    {more : Nat} (among : more ≤ 2) :
    ∃ text, (builder.branchOpened trueLabel falseLabel mergeLabel test).blockAt
      (builder.nextBlock + more) = some (Block.empty (builder.nextBlock + more) text) := by
  rw [blockAt_branchOpened numbered opened]
  have cases : more = 0 ∨ more = 1 ∨ more = 2 := by omega
  rcases cases with rfl | rfl | rfl
  · exact ⟨trueLabel, by simp⟩
  · exact ⟨falseLabel, by simp⟩
  · exact ⟨mergeLabel, by simp⟩

variable (trueLabel falseLabel mergeLabel test) in
theorem opened_branchOpened (numbered : builder.Numbered) (opened : builder.Opened) :
    (builder.branchOpened trueLabel falseLabel mergeLabel test).Opened := by
  obtain ⟨text, empty⟩ := blockAt_branchOpened_empty trueLabel falseLabel mergeLabel test numbered
    opened (Nat.zero_le 2)
  exact opened_iff.mpr ⟨_, empty, rfl⟩

theorem blockAt_branchTurned {body : FunctionBuilder} (numbered : body.Numbered) (start id : Nat) :
    (body.branchTurned start).blockAt id =
      if id = body.current then
        (body.blockAt id).map fun block => { block with terminator? := some (.jump (start + 2)) }
      else body.blockAt id :=
  numbered.blockAt_closing (.jump (start + 2)) id

theorem blockAt_branchClosed {other : FunctionBuilder} (numbered : other.Numbered)
    (start id : Nat) :
    (other.branchClosed start).blockAt id =
      if id = other.current then
        (other.blockAt id).map fun block => { block with terminator? := some (.jump (start + 2)) }
      else other.blockAt id :=
  numbered.blockAt_closing (.jump (start + 2)) id

section Closing

variable {body other : FunctionBuilder}

/-- Neither answer ends in one of the blocks that the other starts in. -/
private theorem current_of_balanced
    (balanced : (builder.branchOpened trueLabel falseLabel mergeLabel test).Balanced body)
    (balanced' : (body.branchTurned builder.nextBlock).Balanced other) :
    (body.current = builder.nextBlock ∨ builder.nextBlock + 3 ≤ body.current) ∧
      (other.current = builder.nextBlock + 1 ∨ body.nextBlock ≤ other.current) ∧
      builder.nextBlock + 3 ≤ body.nextBlock :=
  ⟨balanced.current, balanced'.current, balanced.next⟩

theorem opened_branchTurned (formed : builder.Formed) (opened : builder.Opened)
    (formed' : body.Formed)
    (balanced : (builder.branchOpened trueLabel falseLabel mergeLabel test).Balanced body) :
    ∃ text, (body.branchTurned builder.nextBlock).blockAt (builder.nextBlock + 1) =
      some (Block.empty (builder.nextBlock + 1) text) := by
  have inside : body.current = builder.nextBlock ∨ builder.nextBlock + 3 ≤ body.current :=
    balanced.current
  have away : ∀ id : Nat, id = builder.nextBlock + 1 → id ≠ body.current := by
    intro id here same
    rcases inside with first | above
    · rw [← same, here] at first
      exact absurd first (Nat.ne_of_gt (Nat.lt_succ_self _))
    · rw [← same, here] at above
      exact absurd above (by omega)
  have kept := balanced.others (builder.nextBlock + 1)
    (show builder.nextBlock + 1 < builder.nextBlock + 3 by omega)
    (show builder.nextBlock + 1 ≠ builder.nextBlock from Nat.ne_of_gt (Nat.lt_succ_self _))
  obtain ⟨text, empty⟩ := blockAt_branchOpened_empty trueLabel falseLabel mergeLabel test
    formed.numbered opened (show 1 ≤ 2 by decide)
  refine ⟨text, ?_⟩
  rw [blockAt_branchTurned formed'.numbered, if_neg (away _ rfl), kept, empty]

/-- A branch around balanced answers is balanced, and goes on in an empty block. -/
theorem balanced_branch (formed : builder.Formed) (opened : builder.Opened)
    (formed' : body.Formed) (formed'' : other.Formed)
    (balanced : (builder.branchOpened trueLabel falseLabel mergeLabel test).Balanced body)
    (balanced' : (body.branchTurned builder.nextBlock).Balanced other) :
    builder.Balanced (other.branchClosed builder.nextBlock) ∧
      ∃ text, (other.branchClosed builder.nextBlock).blockAt (builder.nextBlock + 2) =
        some (Block.empty (builder.nextBlock + 2) text) := by
  have numbered := formed.numbered
  have below : builder.current < builder.nextBlock := numbered.current_lt opened
  obtain ⟨inside, inside', grown⟩ := current_of_balanced balanced balanced'
  have last := blockAt_branchClosed formed''.numbered builder.nextBlock
  have turned := blockAt_branchTurned formed'.numbered builder.nextBlock
  have start := fun id => @blockAt_branchOpened builder trueLabel falseLabel mergeLabel test
    numbered opened id
  have kept : ∀ id : Nat, id < builder.nextBlock + 3 → id ≠ builder.nextBlock →
      body.blockAt id = (builder.branchOpened trueLabel falseLabel mergeLabel test).blockAt id :=
    fun id within different => balanced.others id within different
  have kept' : ∀ id : Nat, id < body.nextBlock → id ≠ builder.nextBlock + 1 →
      other.blockAt id = (body.branchTurned builder.nextBlock).blockAt id :=
    fun id within different => balanced'.others id within different
  -- The blocks that neither answer starts or ends in.
  have untouched : ∀ id : Nat, id < builder.nextBlock + 3 → id ≠ builder.nextBlock →
      id ≠ builder.nextBlock + 1 →
      (other.branchClosed builder.nextBlock).blockAt id =
        (builder.branchOpened trueLabel falseLabel mergeLabel test).blockAt id := by
    intro id within first second
    have away : id ≠ body.current := by
      rcases inside with same | above
      · rwa [same]
      · exact Nat.ne_of_lt (Nat.lt_of_lt_of_le within above)
    have away' : id ≠ other.current := by
      rcases inside' with same | above
      · rwa [same]
      · exact Nat.ne_of_lt (Nat.lt_of_lt_of_le (Nat.lt_of_lt_of_le within grown) above)
    rw [last, if_neg away', kept' id (Nat.lt_of_lt_of_le within grown) second, turned,
      if_neg away, kept id within first]
  have empty : ∃ text, (other.branchClosed builder.nextBlock).blockAt (builder.nextBlock + 2) =
      some (Block.empty (builder.nextBlock + 2) text) := by
    refine ⟨mergeLabel, ?_⟩
    rw [untouched (builder.nextBlock + 2) (by omega) (by omega) (by omega), start, if_pos rfl]
  refine ⟨?_, empty⟩
  constructor
  case others =>
    intro id within different
    have small : (id : Nat) < builder.nextBlock := within
    have away : ∀ more, id ≠ builder.nextBlock + more := fun more =>
      Nat.ne_of_lt (Nat.lt_of_lt_of_le small (Nat.le_add_right _ more))
    rw [untouched id (Nat.lt_add_right 3 small) (Nat.ne_of_lt small) (away 1), start,
      if_neg (away 2), if_neg (away 1), if_neg (Nat.ne_of_lt small), if_neg different]
  case opened =>
    obtain ⟨text, found⟩ := empty
    exact ⟨_, found, rfl⟩
  case closed =>
    change ∀ id : Nat, id ≠ builder.nextBlock + 2 → builder.nextBlock ≤ id ∨ id = builder.current →
      ∀ block, (other.branchClosed builder.nextBlock).blockAt id = some block → _
    intro id different side block found
    by_cases ends : id = other.current
    · rw [last, if_pos ends] at found
      obtain ⟨before, _, rfl⟩ := Option.map_eq_some_iff.mp found
      simp
    by_cases second : body.nextBlock ≤ id ∨ id = builder.nextBlock + 1
    · rw [last, if_neg ends] at found
      exact balanced'.closed id ends second block found
    rw [not_or, Nat.not_le] at second
    by_cases ends' : id = body.current
    · rw [last, if_neg ends, kept' id second.1 second.2, turned, if_pos ends'] at found
      obtain ⟨before, _, rfl⟩ := Option.map_eq_some_iff.mp found
      simp
    by_cases first : builder.nextBlock + 3 ≤ id ∨ id = builder.nextBlock
    · rw [last, if_neg ends, kept' id second.1 second.2, turned, if_neg ends'] at found
      exact balanced.closed id ends' first block found
    · rw [not_or, Nat.not_le] at first
      have here : id = builder.current := by
        rcases side with above | same
        · have := second.2
          omega
        · exact same
      have small : id < builder.nextBlock := by
        rw [here]
        exact below
      rw [untouched id first.1 first.2 second.2, start, if_neg (by omega), if_neg (by omega),
        if_neg (by omega), if_pos here] at found
      obtain ⟨before, _, rfl⟩ := Option.map_eq_some_iff.mp found
      simp
  case current => exact .inr (Nat.le_add_right _ 2)
  case next =>
    have next : body.nextBlock ≤ other.nextBlock := balanced'.next
    exact Nat.le_trans (Nat.le_trans (Nat.le_add_right _ 3) grown) next

end Closing
end TensorGraph.Code.FunctionBuilder

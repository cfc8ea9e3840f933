/-
Removing unreachable blocks and merging chains preserve calls.

The worklist has enough turns to follow every branch, so the blocks that it
finds are closed under successors and control never leaves them.

A block that is the only successor of its only predecessor runs right after it
and nowhere else, so its instructions may stand behind those of the
predecessor.
-/

import TensorGraph.Optimize.ControlFlow
import TensorGraph.Proofs.Optimize.ControlFlow.Threading
import TensorGraph.Proofs.Optimize.Improvement

namespace TensorGraph.Optimize

open Code Machine

/-! ### The worklist -/

/-- The blocks that are not seen yet. -/
def unseen (function : Function) (seen : List BlockId) : List Block :=
  function.blocks.filter fun block => !seen.contains block.id

private theorem length_filter_lt {items : List Block} {fewer more : Block → Bool}
    (contained : ∀ block, fewer block = true → more block = true) {block : Block}
    (member : block ∈ items) (lost : fewer block = false) (held : more block = true) :
    (items.filter fewer).length < (items.filter more).length := by
  induction items with
  | nil => cases member
  | cons head rest inductionHypothesis =>
      have weakly : (rest.filter fewer).length ≤ (rest.filter more).length :=
        (List.monotone_filter_right rest contained).length_le
      rcases List.mem_cons.mp member with rfl | later
      · rw [List.filter_cons_of_neg (by simp [lost]), List.filter_cons_of_pos held,
          List.length_cons]
        omega
      · have strictly := inductionHypothesis later
        cases here : fewer head with
        | true =>
            rw [List.filter_cons_of_pos here, List.filter_cons_of_pos (contained head here),
              List.length_cons, List.length_cons]
            omega
        | false =>
            rw [List.filter_cons_of_neg (by simp [here])]
            cases held' : more head with
            | true =>
                rw [List.filter_cons_of_pos held', List.length_cons]
                omega
            | false =>
                rw [List.filter_cons_of_neg (by simp [held'])]
                exact strictly

theorem length_successors (terminator : Terminator) : terminator.successors.length ≤ 2 := by
  cases terminator <;> simp [Terminator.successors]

/-- A block that is seen for the first time pays for its successors. -/
theorem successors_paid (function : Function) (seen : List BlockId) (id : BlockId)
    (fresh : id ∉ seen) :
    (successorsOf function id).length + 2 * (unseen function (id :: seen)).length ≤
      2 * (unseen function seen).length := by
  have weakly : (unseen function (id :: seen)).length ≤ (unseen function seen).length := by
    refine (List.monotone_filter_right function.blocks ?_).length_le
    intro block unknown
    simp only [List.contains_eq_mem, List.mem_cons, Bool.not_eq_true', decide_eq_false_iff_not,
      not_or] at unknown ⊢
    exact unknown.2
  unfold successorsOf
  cases found : function.block? id with
  | none =>
      simp only [List.length_nil]
      omega
  | some block =>
      have member := List.mem_of_find?_eq_some found
      have named : block.id = id := by
        have := List.find?_some found
        simpa using this
      have strictly : (unseen function (id :: seen)).length < (unseen function seen).length := by
        refine length_filter_lt ?_ member ?_ ?_
        · intro other unknown
          simp only [List.contains_eq_mem, List.mem_cons, Bool.not_eq_true',
            decide_eq_false_iff_not, not_or] at unknown ⊢
          exact unknown.2
        · simp [named]
        · simpa [named] using fresh
      have few : ((block.terminator?.map Terminator.successors).getD []).length ≤ 2 := by
        cases block.terminator? with
        | none => simp
        | some terminator => exact length_successors terminator
      simp only
      omega

/-- Everything seen or queued is found, and what is found is closed under successors. -/
theorem reach_closed (function : Function) (turns : Nat) (queue seen : List BlockId)
    (enough : queue.length + 2 * (unseen function seen).length ≤ turns)
    (pending : ∀ id ∈ seen, ∀ successor ∈ successorsOf function id,
      successor ∈ seen ∨ successor ∈ queue) :
    (∀ id, id ∈ seen ∨ id ∈ queue → id ∈ reach function turns queue seen) ∧
      ∀ id ∈ reach function turns queue seen, ∀ successor ∈ successorsOf function id,
        successor ∈ reach function turns queue seen := by
  induction turns generalizing queue seen with
  | zero =>
      have empty : queue = [] := List.length_eq_zero_iff.mp (by omega)
      subst empty
      simpa [reach] using pending
  | succ turns inductionHypothesis =>
      cases queue with
      | nil => simpa [reach] using pending
      | cons id queue =>
          simp only [List.length_cons] at enough
          by_cases again : id ∈ seen
          · have step : reach function (turns + 1) (id :: queue) seen =
                reach function turns queue seen := by
              simp [reach, again]
            rw [step]
            obtain ⟨found, closed⟩ := inductionHypothesis queue seen (by omega) (by
              intro other known successor leads
              rcases pending other known successor leads with here | queued
              · exact .inl here
              · rcases List.mem_cons.mp queued with rfl | later
                · exact .inl again
                · exact .inr later)
            refine ⟨?_, closed⟩
            rintro other (known | queued)
            · exact found other (.inl known)
            · rcases List.mem_cons.mp queued with rfl | later
              · exact found other (.inl again)
              · exact found other (.inr later)
          · have step : reach function (turns + 1) (id :: queue) seen =
                reach function turns (queue ++ successorsOf function id) (id :: seen) := by
              simp [reach, again]
            rw [step]
            have paid := successors_paid function seen id again
            obtain ⟨found, closed⟩ := inductionHypothesis (queue ++ successorsOf function id)
              (id :: seen) (by rw [List.length_append]; omega) (by
                intro other known successor leads
                rcases List.mem_cons.mp known with rfl | old
                · exact .inr (List.mem_append_right _ leads)
                · rcases pending other old successor leads with here | queued
                  · exact .inl (List.mem_cons_of_mem _ here)
                  · rcases List.mem_cons.mp queued with rfl | later
                    · exact .inl (List.mem_cons_self ..)
                    · exact .inr (List.mem_append_left _ later))
            refine ⟨?_, closed⟩
            rintro other (known | queued)
            · exact found other (.inl (List.mem_cons_of_mem _ known))
            · rcases List.mem_cons.mp queued with rfl | later
              · exact found other (.inl (List.mem_cons_self ..))
              · exact found other (.inr (List.mem_append_left _ later))

theorem reachable_closed (function : Function) :
    (∀ entry, function.entry? = some entry → entry ∈ reachable function) ∧
      ∀ id ∈ reachable function, ∀ successor ∈ successorsOf function id,
        successor ∈ reachable function := by
  unfold reachable
  cases entered : function.entry? with
  | none => simp
  | some entry =>
      have few : (unseen function []).length ≤ function.blocks.length :=
        List.length_filter_le _ _
      obtain ⟨found, closed⟩ := reach_closed function (2 * function.blocks.length + 2) [entry] []
        (by simp only [List.length_cons, List.length_nil]; omega) (by simp)
      refine ⟨?_, closed⟩
      rintro other same
      cases same
      exact found entry (.inr (List.mem_cons_self ..))

/-! ### The pass -/

/-- The successors of a reachable block are reachable. -/
theorem reachable_successor {function : Function} (formed : WellFormed function) {block : Block}
    (member : block ∈ function.blocks) (live : block.id ∈ reachable function)
    {terminator : Terminator} (ends : block.terminator? = some terminator) {target : BlockId}
    (leads : target ∈ terminator.successors) : target ∈ reachable function := by
  refine (reachable_closed function).2 block.id live target ?_
  simpa [successorsOf, block?_of_mem formed.distinct member, ends] using leads

theorem blocks_removeUnreachable (function : Function) :
    (removeUnreachable function).1.blocks =
      function.blocks.filter fun block => (reachable function).contains block.id :=
  rfl

theorem removeUnreachable_formed {function : Function} (formed : WellFormed function) :
    WellFormed (removeUnreachable function).1 := by
  have fewer : (targets (removeUnreachable function).1.instructions).Sublist
      (targets function.instructions) :=
    targets_sublist (List.Sublist.flatMap List.filter_sublist _)
  refine ⟨?_, ?_, ?_, fewer.nodup formed.single, ?_, ?_⟩
  · rw [blocks_removeUnreachable]
    cases shape : function.blocks with
    | nil => exact absurd shape formed.nonempty
    | cons block blocks =>
        have live := (reachable_closed function).1 block.id (by simp [Function.entry?, shape])
        rw [List.filter_cons_of_pos (by simpa using live)]
        simp
  · exact (List.filter_sublist.map _).nodup formed.distinct
  · intro block member
    obtain ⟨inside, live⟩ := List.mem_filter.mp member
    obtain ⟨terminator, ends, targets⟩ := formed.closed block inside
    refine ⟨terminator, ends, ?_⟩
    intro target leads
    obtain ⟨next, present, named⟩ := List.mem_map.mp (targets target leads)
    have reached := reachable_successor formed inside (by simpa using live) ends leads
    refine List.mem_map.mpr ⟨next, List.mem_filter.mpr ⟨present, ?_⟩, named⟩
    simpa [named] using reached
  · exact fun register member => formed.fresh register (fewer.subset member)
  · exact fun register member => formed.typed register (fewer.subset member)

/-- A reachable block is found under its number as before. -/
theorem blockOf_removeUnreachable {function : Function} (formed : WellFormed function)
    {id : BlockId} (live : id ∈ reachable function) {block : Block}
    (found : Frame.blockOf? function id = some block) :
    Frame.blockOf? (removeUnreachable function).1 id = some block := by
  obtain ⟨member, rfl⟩ := mem_of_blockOf found
  refine blockOf_of_mem (removeUnreachable_formed formed).distinct ?_
  exact List.mem_filter.mpr ⟨member, by simpa using live⟩

private def unreachableSimulation (function : Function) (formed : WellFormed function) :
    PlainSimulation function (removeUnreachable function).1 :=
  { live := fun _ => True
    follows := fun position position' => position' = position ∧
      (∀ instruction ∈ position.pending, instruction ∈ function.instructions) ∧
      ∀ terminator, position.terminator? = some terminator →
        ∀ target ∈ terminator.successors, target ∈ reachable function
    header := ⟨rfl, rfl, rfl, rfl⟩
    used := fun _ _ _ _ => trivial
    within := fun _ _ follows => follows.2.1
    entry := by
      intro block blocks shape
      have member : block ∈ function.blocks := by
        rw [shape]
        exact List.mem_cons_self ..
      have live := (reachable_closed function).1 block.id (by simp [Function.entry?, shape])
      refine ⟨block, blocks.filter fun block => (reachable function).contains block.id, _, ?_,
        .here _, rfl, fun _ inside => mem_instructions member inside, ?_⟩
      · rw [blocks_removeUnreachable, shape, List.filter_cons_of_pos (by simpa using live)]
      · exact fun _ ends _ leads => reachable_successor formed member live ends leads
    instruction := by
      rintro instruction pending terminator? position' ⟨rfl, within, leads⟩
      exact .inr ⟨pending, terminator?, .here _, rfl,
        fun other member => within other (List.mem_cons_of_mem _ member), leads⟩
    jump := by
      rintro target position' ⟨rfl, _, leads⟩ block known
      have live := leads _ rfl target (by simp [Terminator.successors])
      obtain ⟨member, named⟩ := mem_of_blockOf known
      refine ⟨_, .one (blockOf_removeUnreachable formed live known), rfl,
        fun _ inside => mem_instructions member inside, ?_⟩
      exact fun _ ends _ leads => reachable_successor formed member (by rw [named]; exact live)
        ends leads
    branch := by
      rintro condition onTrue onFalse hint? position' ⟨rfl, _, leads⟩
      refine ⟨fun _ _ => trivial, onTrue, onFalse, hint?, .here _, ?_⟩
      intro side block known
      have live := leads _ rfl (if side then onTrue else onFalse) (by
        cases side <;> simp [Terminator.successors])
      obtain ⟨member, named⟩ := mem_of_blockOf known
      refine ⟨block, _, blockOf_removeUnreachable formed live known, .here _, rfl,
        fun _ inside => mem_instructions member inside, ?_⟩
      exact fun _ ends _ leads => reachable_successor formed member (by rw [named]; exact live)
        ends leads
    leave := by
      rintro position' ⟨rfl, _, _⟩
      exact .here _
    stored := by
      rintro position position' ⟨rfl, _, _⟩ pointer register member
      exact member }

theorem removeUnreachable_improves {function : Function} (formed : WellFormed function) :
    Improvement function (removeUnreachable function).1 := by
  refine ⟨removeUnreachable_formed formed,
    ⟨(unreachableSimulation function formed).simulation⟩, ?_⟩
  intro instruction member
  obtain ⟨block, kept, inside⟩ := List.mem_flatMap.mp member
  exact ⟨instruction, mem_instructions (List.mem_filter.mp kept).1 inside, id,
    (mapOperands_of_fixed (fun _ => rfl) instruction).symm⟩

/-- Two blocks that may become one. -/
structure Mergeable (function : Function) (first second : Block) : Prop where
  before : first ∈ function.blocks
  behind : second ∈ function.blocks
  jumps : first.terminator? = some (.jump second.id)
  different : second.id ≠ first.id
  inner : some second.id ≠ function.entry?
  only : predecessorCount function second.id = 1

/-- The block that both become. -/
def mergedBlock (first second : Block) : Block :=
  { first with
    instructions := first.instructions ++ second.instructions
    terminator? := second.terminator? }

/-- A block of the function after the merge. -/
def mergedAt (first second block : Block) : Block :=
  if block.id = first.id then mergedBlock block second else block

def mergedBlocks (first second : Block) (blocks : List Block) : List Block :=
  (blocks.filter fun block => block.id != second.id).map (mergedAt first second)

@[simp]
theorem id_mergedAt (first second block : Block) : (mergedAt first second block).id = block.id := by
  unfold mergedAt
  split <;> rfl

theorem map_mergedAt_of_absent {first second : Block} {blocks : List Block}
    (absent : first.id ∉ blocks.map Block.id) : blocks.map (mergedAt first second) = blocks := by
  conv_rhs => rw [← List.map_id blocks]
  refine List.map_congr_left ?_
  intro block member
  refine if_neg ?_
  intro same
  exact absent (List.mem_map.mpr ⟨block, member, same⟩)

theorem absorb_eq_map (first second : Block) (blocks : List Block)
    (distinct : (blocks.map Block.id).Nodup) :
    absorb first.id second blocks = blocks.map (mergedAt first second) := by
  induction blocks with
  | nil => rfl
  | cons head rest inductionHypothesis =>
      rw [List.map_cons, List.nodup_cons] at distinct
      rw [absorb, List.map_cons]
      split
      · rename_i same
        rw [map_mergedAt_of_absent (by rw [← same]; exact distinct.1), mergedAt, if_pos same]
        rfl
      · rename_i other
        rw [inductionHypothesis distinct.2, mergedAt, if_neg other]

theorem eraseIdx_eq_filter (second : Block) (blocks : List Block) (position : Nat)
    (found : blocks[position]? = some second) (distinct : (blocks.map Block.id).Nodup) :
    blocks.eraseIdx position = blocks.filter fun block => block.id != second.id := by
  induction blocks generalizing position with
  | nil => cases found
  | cons head rest inductionHypothesis =>
      rw [List.map_cons, List.nodup_cons] at distinct
      cases position with
      | zero =>
          cases found
          rw [List.eraseIdx_cons_zero, List.filter_cons_of_neg (by simp)]
          refine (List.filter_eq_self.mpr ?_).symm
          intro block member
          simp only [bne_iff_ne, ne_eq]
          intro same
          exact distinct.1 (List.mem_map.mpr ⟨block, member, same⟩)
      | succ position =>
          have later : rest[position]? = some second := by simpa using found
          rw [List.eraseIdx_cons_succ, inductionHypothesis position later distinct.2,
            List.filter_cons_of_pos]
          simp only [bne_iff_ne, ne_eq]
          intro same
          exact distinct.1 (List.mem_map.mpr ⟨second, List.mem_of_getElem? later, same.symm⟩)

/-! ### The pair -/

variable {function : Function} {first second : Block}

/-- The function after one merge. -/
def merged (function : Function) (first second : Block) : Function :=
  { function with blocks := mergedBlocks first second function.blocks }

/-- No block but the first leads to the second. -/
theorem Mergeable.alone (pair : Mergeable function first second) {block : Block}
    (member : block ∈ function.blocks) (other : block ≠ first) {terminator : Terminator}
    (ends : block.terminator? = some terminator) : second.id ∉ terminator.successors := by
  intro leads
  have split := List.perm_cons_erase pair.before
  have remaining : block ∈ function.blocks.erase first := (List.mem_erase_of_ne other).mpr member
  have count := pair.only
  unfold predecessorCount at count
  rw [(split.flatMap_right _).count_eq, List.flatMap_cons, List.count_append] at count
  have one : ((first.terminator?.map Terminator.successors).getD []).count second.id = 1 := by
    simp [pair.jumps, Terminator.successors]
  have more : 0 < ((function.blocks.erase first).flatMap fun block =>
      (block.terminator?.map Terminator.successors).getD []).count second.id := by
    refine List.count_pos_iff.mpr (List.mem_flatMap.mpr ⟨block, remaining, ?_⟩)
    simpa [ends] using leads
  omega

theorem mem_mergedBlocks (first second : Block) {block : Block} (member : block ∈ function.blocks)
    (kept : block.id ≠ second.id) :
    mergedAt first second block ∈ (merged function first second).blocks :=
  List.mem_map.mpr ⟨block, List.mem_filter.mpr ⟨member, by simpa using kept⟩, rfl⟩

theorem ids_merged : (merged function first second).blocks.map Block.id =
    (function.blocks.map Block.id).filter fun id => id != second.id := by
  simp only [merged, mergedBlocks, List.map_map, List.filter_map]
  exact List.map_congr_left fun block _ => id_mergedAt first second block

theorem perm_absorbed (blocks : List Block) (distinct : (blocks.map Block.id).Nodup)
    (present : first ∈ blocks) :
    ((blocks.map (mergedAt first second)).flatMap Block.instructions).Perm
      (second.instructions ++ blocks.flatMap Block.instructions) := by
  induction blocks with
  | nil => cases present
  | cons head rest inductionHypothesis =>
      rw [List.map_cons, List.nodup_cons] at distinct
      rw [List.map_cons, List.flatMap_cons, List.flatMap_cons]
      have swap : (head.instructions ++ second.instructions).Perm
          (second.instructions ++ head.instructions) := List.perm_append_comm
      by_cases same : head.id = first.id
      · rw [map_mergedAt_of_absent (by rw [← same]; exact distinct.1), mergedAt, if_pos same,
          mergedBlock, ← List.append_assoc]
        exact swap.append_right _
      · have later : first ∈ rest := by
          rcases List.mem_cons.mp present with rfl | later
          · exact absurd rfl same
          · exact later
        rw [mergedAt, if_neg same]
        refine ((inductionHypothesis distinct.2 later).append_left head.instructions).trans ?_
        rw [← List.append_assoc, ← List.append_assoc]
        exact swap.append_right _

/-- The instructions only change their order. -/
theorem perm_merged (formed : WellFormed function) (pair : Mergeable function first second) :
    (merged function first second).instructions.Perm function.instructions := by
  have kept : first ∈ function.blocks.filter fun block => block.id != second.id :=
    List.mem_filter.mpr ⟨pair.before, by simpa using pair.different.symm⟩
  have distinct : ((function.blocks.filter fun block => block.id != second.id).map
      Block.id).Nodup := (List.filter_sublist.map _).nodup formed.distinct
  refine (perm_absorbed _ distinct kept).trans ?_
  obtain ⟨position, within, same⟩ := List.mem_iff_getElem.mp pair.behind
  have found : function.blocks[position]? = some second := by
    rw [List.getElem?_eq_getElem within, same]
  rw [← eraseIdx_eq_filter second function.blocks position found formed.distinct]
  have whole := List.getElem_cons_eraseIdx_perm within
  rw [same] at whole
  exact whole.flatMap_right Block.instructions

theorem merged_formed (formed : WellFormed function) (pair : Mergeable function first second) :
    WellFormed (merged function first second) := by
  have order := perm_merged formed pair
  have defines : (targets (merged function first second).instructions).Perm
      (targets function.instructions) := order.filterMap _
  have closed : ∀ block ∈ function.blocks, block ≠ first → ∃ terminator,
      block.terminator? = some terminator ∧ ∀ target ∈ terminator.successors,
        target ∈ (merged function first second).blocks.map Block.id := by
    intro block member other
    obtain ⟨terminator, ends, successors⟩ := formed.closed block member
    refine ⟨terminator, ends, ?_⟩
    intro target leads
    rw [ids_merged]
    refine List.mem_filter.mpr ⟨successors target leads, ?_⟩
    simp only [bne_iff_ne, ne_eq]
    rintro rfl
    exact pair.alone member other ends leads
  refine ⟨?_, ?_, ?_, defines.nodup_iff.mpr formed.single, ?_, ?_⟩
  · intro empty
    have := mem_mergedBlocks first second pair.before pair.different.symm
    rw [empty] at this
    cases this
  · rw [ids_merged]
    exact formed.distinct.filter _
  · intro block' member'
    obtain ⟨block, kept, rfl⟩ := List.mem_map.mp member'
    obtain ⟨member, _⟩ := List.mem_filter.mp kept
    unfold mergedAt
    split
    · refine closed second pair.behind ?_
      rintro rfl
      exact pair.different rfl
    · rename_i other
      refine closed block member ?_
      rintro rfl
      exact other rfl
  · exact fun register member => formed.fresh register (defines.mem_iff.mp member)
  · exact fun register member => formed.typed register (defines.mem_iff.mp member)

/-- Control stands at the same place; what the second block adds stands behind the
first. -/
def MergedPosition (function : Function) (second : Block) (position position' : Position) :
    Prop :=
  (∀ instruction ∈ position.pending, instruction ∈ function.instructions) ∧
    ((position' = position ∧ ∀ terminator, position.terminator? = some terminator →
        second.id ∉ terminator.successors) ∨
      (position.terminator? = some (.jump second.id) ∧
        position' = ⟨position.pending ++ second.instructions, second.terminator?⟩))

theorem Mergeable.apart (pair : Mergeable function first second) : second ≠ first := by
  rintro rfl
  exact pair.different rfl

theorem merged_start (formed : WellFormed function) (pair : Mergeable function first second)
    {block : Block} (member : block ∈ function.blocks) :
    MergedPosition function second (startOf block) (startOf (mergedAt first second block)) := by
  refine ⟨fun _ inside => mem_instructions member inside, ?_⟩
  by_cases same : block.id = first.id
  · have equal : block = first := by
      have here := blockOf_of_mem formed.distinct member
      rw [same, blockOf_of_mem formed.distinct pair.before] at here
      exact (Option.some.inj here).symm
    subst equal
    refine .inr ⟨pair.jumps, ?_⟩
    rw [mergedAt, if_pos rfl]
    rfl
  · refine .inl ⟨?_, ?_⟩
    · rw [mergedAt, if_neg same]
    · intro terminator ends
      refine pair.alone member ?_ ends
      rintro rfl
      exact same rfl

theorem merged_block (formed : WellFormed function) (pair : Mergeable function first second)
    {id : BlockId} (other : id ≠ second.id) {block : Block}
    (found : Frame.blockOf? function id = some block) :
    Frame.blockOf? (merged function first second) id = some (mergedAt first second block) ∧
      MergedPosition function second (startOf block) (startOf (mergedAt first second block)) := by
  obtain ⟨member, rfl⟩ := mem_of_blockOf found
  refine ⟨?_, merged_start formed pair member⟩
  have here := mem_mergedBlocks first second member other
  have := blockOf_of_mem (merged_formed formed pair).distinct here
  rwa [id_mergedAt] at this

private def mergeSimulation (formed : WellFormed function)
    (pair : Mergeable function first second) :
    PlainSimulation function (merged function first second) :=
  { live := fun _ => True
    follows := MergedPosition function second
    header := ⟨rfl, rfl, rfl, rfl⟩
    used := fun _ _ _ _ => trivial
    within := fun _ _ follows => follows.1
    entry := by
      intro block blocks shape
      have member : block ∈ function.blocks := by
        rw [shape]
        exact List.mem_cons_self ..
      have kept : block.id ≠ second.id := by
        intro same
        refine pair.inner ?_
        simp [Function.entry?, shape, same]
      refine ⟨mergedAt first second block, mergedBlocks first second blocks, _, ?_, .here _,
        merged_start formed pair member⟩
      simp only [merged, mergedBlocks, shape]
      rw [List.filter_cons_of_pos (by simpa using kept), List.map_cons]
    instruction := by
      rintro instruction pending terminator? position' ⟨within, ⟨rfl, avoids⟩ | ⟨ends, rfl⟩⟩
      · exact .inr ⟨pending, terminator?, .here _,
          fun other member => within other (List.mem_cons_of_mem _ member), .inl ⟨rfl, avoids⟩⟩
      · exact .inr ⟨pending ++ second.instructions, second.terminator?, .here _,
          fun other member => within other (List.mem_cons_of_mem _ member), .inr ⟨ends, rfl⟩⟩
    jump := by
      rintro target position' ⟨_, ⟨rfl, avoids⟩ | ⟨ends, rfl⟩⟩ block known
      · have other : target ≠ second.id := by
          rintro rfl
          exact avoids _ rfl (by simp [Terminator.successors])
        obtain ⟨found', follows⟩ := merged_block formed pair other known
        exact ⟨_, .one found', follows⟩
      · cases ends
        have same : block = second := by
          rw [blockOf_of_mem formed.distinct pair.behind] at known
          exact (Option.some.inj known).symm
        subst same
        refine ⟨_, .here _, fun _ inside => mem_instructions pair.behind inside, .inl ⟨rfl, ?_⟩⟩
        exact fun terminator ends => pair.alone pair.behind pair.apart ends
    branch := by
      rintro condition onTrue onFalse hint? position' ⟨_, ⟨rfl, avoids⟩ | ⟨ends, rfl⟩⟩
      · refine ⟨fun _ _ => trivial, onTrue, onFalse, hint?, .here _, ?_⟩
        intro side block known
        have other : (if side then onTrue else onFalse) ≠ second.id := by
          intro same
          refine avoids _ rfl ?_
          rw [← same]
          cases side <;> simp [Terminator.successors]
        obtain ⟨found', follows⟩ := merged_block formed pair other known
        exact ⟨_, _, found', .here _, follows⟩
      · cases ends
    leave := by
      rintro position' ⟨_, ⟨rfl, _⟩ | ⟨ends, _⟩⟩
      · exact .here _
      · cases ends
    stored := by
      rintro position position' ⟨_, ⟨rfl, _⟩ | ⟨_, rfl⟩⟩ pointer register member
      · exact member
      · exact List.mem_append_left _ member }

theorem merged_improves (formed : WellFormed function)
    (pair : Mergeable function first second) :
    Improvement function (merged function first second) := by
  refine ⟨merged_formed formed pair, ⟨(mergeSimulation formed pair).simulation⟩, ?_⟩
  intro instruction member
  exact ⟨instruction, (perm_merged formed pair).mem_iff.mp member, id,
    (mapOperands_of_fixed (fun _ => rfl) instruction).symm⟩

/-! ### The passes -/

/-- A chain that is found is a pair of blocks that may become one. -/
theorem mergeable_of_chain {predecessor successor : BlockId}
    (found : chain? function = some (predecessor, successor)) {position : Nat} {absorbed : Block}
    (located : function.blocks.findIdx? (fun block => block.id == successor) = some position)
    (known : function.blocks[position]? = some absorbed) :
    ∃ first, Mergeable function first absorbed ∧ first.id = predecessor ∧
      absorbed.id = successor := by
  have named : absorbed.id = successor := by
    obtain ⟨within, matching, _⟩ := List.findIdx?_eq_some_iff_getElem.mp located
    rw [List.getElem?_eq_getElem within] at known
    cases known
    simpa using matching
  obtain ⟨first, member, passes⟩ := List.exists_of_findSome?_eq_some found
  split at passes
  · rename_i target ends
    split at passes
    · rename_i conditions
      cases passes
      simp only [Bool.and_eq_true, bne_iff_ne, ne_eq, beq_iff_eq] at conditions
      obtain ⟨⟨different, inner⟩, only⟩ := conditions
      subst named
      exact ⟨first, ⟨member, List.mem_of_getElem? known, ends, different, inner, only⟩, rfl, rfl⟩
    · cases passes
  · cases passes

/-- Merging chains improves a function. -/
theorem mergeChains_improves (function : Function) (formed : WellFormed function) :
    Improves function (mergeChains function).1 := by
  fun_induction mergeChains function with
  | case1 _ _ => exact .refl
  | case2 _ _ _ _ _ => exact .refl
  | case3 _ _ _ _ _ _ _ => exact .refl
  | case4 function predecessor successor found position located absorbed known next
      inductionHypothesis =>
      obtain ⟨first, pair, rfl, rfl⟩ := mergeable_of_chain found located known
      have shape : next = merged function first absorbed := by
        have distinct : ((function.blocks.filter fun block => block.id != absorbed.id).map
            Block.id).Nodup := (List.filter_sublist.map _).nodup formed.distinct
        simp only [next, merged, mergedBlocks]
        rw [eraseIdx_eq_filter absorbed function.blocks position known formed.distinct,
          absorb_eq_map first absorbed _ distinct]
      have step := merged_improves formed pair
      rw [← shape] at step
      exact .head step (inductionHypothesis step.formed)

/-- Simplifying control flow improves a function. -/
theorem simplifyControlFlow_improves (function : Function) (formed : WellFormed function) :
    Improves function (simplifyControlFlow function).1 := by
  have removed := removeUnreachable_improves formed
  have threaded := threadForwarders_improves removed.formed
  simp only [simplifyControlFlow]
  split
  · have again := removeUnreachable_improves threaded.formed
    exact (Relation.ReflTransGen.single removed).tail threaded |>.tail again |>.trans
      (mergeChains_improves _ again.formed)
  · exact (Relation.ReflTransGen.single removed).tail threaded |>.trans
      (mergeChains_improves _ threaded.formed)

end TensorGraph.Optimize

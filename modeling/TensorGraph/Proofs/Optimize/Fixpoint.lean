/-
Rounds of passes come to rest.

Every reported change makes a function lighter by at least one, so there are no
more changes than the function weighs.  With one round more than that, the last
round found nothing to change, and no further round ever will.

Leading control past forwarders takes nothing away by itself.  But the last
forwarder that was led past is entered by no other block afterwards, not even
around a cycle of empty blocks, so the removal of unreachable blocks that
follows takes it.
-/

import TensorGraph.Optimize.Pipeline
import TensorGraph.Proofs.Optimize.Weight

namespace TensorGraph.Optimize

open Code

/-! ### Unreachable blocks -/

theorem reports_removeUnreachable (function : Function) :
    Reports Function.weight function (removeUnreachable function) :=
  reports_blocks (reports_filter Block.weight_pos _ function.blocks)

/-- A block that no other block leads to is not found from others. -/
theorem reach_avoids {function : Function} {avoided : BlockId}
    (entered : ∀ id, id ≠ avoided → avoided ∉ successorsOf function id) (turns : Nat)
    {queue seen : List BlockId} (queued : avoided ∉ queue) (unseen : avoided ∉ seen) :
    avoided ∉ reach function turns queue seen := by
  induction turns generalizing queue seen with
  | zero => simpa [reach] using unseen
  | succ turns ih =>
      cases queue with
      | nil => simpa [reach] using unseen
      | cons id queue =>
          rw [List.mem_cons, not_or] at queued
          obtain ⟨different, queued⟩ := queued
          rw [reach]
          split
          · exact ih queued unseen
          · refine ih ?_ ?_
            · rw [List.mem_append, not_or]
              exact ⟨queued, entered id (Ne.symm different)⟩
            · rw [List.mem_cons, not_or]
              exact ⟨different, unseen⟩

/-- A block beside the entry that no other block leads to is removed. -/
theorem removeUnreachable_cuts {function : Function} {id : BlockId}
    (present : id ∈ function.blocks.map Block.id) (inner : some id ≠ function.entry?)
    (entered : function.blocks.any (leadsTo id) = false) :
    (removeUnreachable function).2 = true := by
  have apart : ∀ other, other ≠ id → id ∉ successorsOf function other := by
    intro other different leads
    unfold successorsOf at leads
    split at leads
    case h_2 => exact absurd leads List.not_mem_nil
    case h_1 block found =>
      have named : block.id = other := by
        simpa using List.find?_some found
      have led := List.any_eq_false.mp entered block (List.mem_of_find?_eq_some found)
      apply led
      unfold leadsTo
      rw [named, bne_iff_ne.mpr different, Bool.true_and, List.contains_iff_mem]
      exact leads
  have unreached : id ∉ reachable function := by
    unfold reachable
    split
    case h_1 => exact List.not_mem_nil
    case h_2 entry entered =>
      refine reach_avoids apart _ ?_ List.not_mem_nil
      rintro (_ | ⟨_, ⟨⟩⟩)
      exact inner entered.symm
  obtain ⟨block, member, rfl⟩ := List.mem_map.mp present
  unfold removeUnreachable
  dsimp only
  rw [bne_iff_ne]
  intro same
  have whole := List.filter_eq_self.mp (List.filter_sublist.eq_of_length same) block member
  exact unreached (List.contains_iff_mem.mp whole)

/-! ### Forwarders -/

/-- A forwarder is a block beside the entry, and does not lead to itself. -/
theorem apart_of_forwarder {function : Function} {forwarder target : BlockId}
    (forwards : (forwarder, target) ∈ forwarders function) :
    forwarder ∈ function.blocks.map Block.id ∧ some forwarder ≠ function.entry? ∧
      target ≠ forwarder := by
  obtain ⟨block, member, passes⟩ := List.mem_filterMap.mp forwards
  split at passes
  case isFalse => cases passes
  case isTrue empty =>
    split at passes
    case h_2 => cases passes
    case h_1 next ends =>
      split at passes
      case isTrue => cases passes
      case isFalse different =>
        cases passes
        rw [Bool.and_eq_true, bne_iff_ne] at empty
        exact ⟨List.mem_map_of_mem member, empty.1, different⟩

theorem not_mem_successors_retarget {source target : BlockId} (different : target ≠ source)
    (terminator : Terminator) : source ∉ (terminator.retarget source target).successors := by
  have moved : ∀ block : BlockId, source ≠ if block = source then target else block := by
    intro block
    split
    case isTrue => exact Ne.symm different
    case isFalse other => exact Ne.symm other
  cases terminator with
  | jump block =>
      have first := moved block
      simpa [Terminator.retarget, Terminator.mapTargets, Terminator.successors] using first
  | branch condition onTrue onFalse hint? =>
      have both := And.intro (moved onTrue) (moved onFalse)
      simpa [Terminator.retarget, Terminator.mapTargets, Terminator.successors] using both
  | leave => exact List.not_mem_nil

section Bypass

variable {blocks : List Block} {forwarder target : BlockId}

/-- Nothing leads to a forwarder any more once every way is led past it. -/
theorem any_leadsTo_bypass (different : target ≠ forwarder) :
    (bypass blocks forwarder target).any (leadsTo forwarder) = false := by
  rw [List.any_eq_false]
  intro changed member
  obtain ⟨block, -, rfl⟩ := List.mem_map.mp member
  split
  case isFalse quiet => exact quiet
  case isTrue leads =>
    unfold leadsTo
    cases ends : block.terminator? with
    | none => simp
    | some terminator =>
        simp [not_mem_successors_retarget different terminator]

theorem bypass_of_quiet (quiet : blocks.any (leadsTo forwarder) = false) :
    bypass blocks forwarder target = blocks := by
  conv => rhs; rw [← List.map_id blocks]
  exact List.map_congr_left fun block member =>
    if_neg (List.any_eq_false.mp quiet block member)

theorem ids_bypass : (bypass blocks forwarder target).map Block.id = blocks.map Block.id := by
  rw [bypass, List.map_map]
  refine List.map_congr_left fun block _ => ?_
  rw [Function.comp_apply]
  split <;> rfl

/-- A block that leads elsewhere weighs what it did. -/
theorem weights_bypass :
    (bypass blocks forwarder target).map Block.weight = blocks.map Block.weight := by
  rw [bypass, List.map_map]
  refine List.map_congr_left fun block _ => ?_
  rw [Function.comp_apply]
  split
  case isFalse => rfl
  case isTrue =>
    rcases block with ⟨id, label, instructions, _ | ⟨target⟩ | ⟨condition, onTrue, onFalse, hint?⟩ |
      _⟩ <;> rfl

end Bypass

/-- What is known while control is led past one forwarder after the other. -/
structure Bypassed (function : Function) (blocks : List Block) (changed : Bool) : Prop where
  ids : blocks.map Block.id = function.blocks.map Block.id
  weights : blocks.map Block.weight = function.blocks.map Block.weight
  kept : changed = false → blocks = function.blocks
  /-- The last forwarder for which a way changed. -/
  freed : changed = true → ∃ forwarder target, (forwarder, target) ∈ forwarders function ∧
    blocks.any (leadsTo forwarder) = false

theorem Bypassed.step {function : Function} {blocks : List Block} {changed : Bool}
    (before : Bypassed function blocks changed) {forwarder target : BlockId}
    (forwards : (forwarder, target) ∈ forwarders function) :
    Bypassed function (bypass blocks forwarder target)
      (changed || blocks.any (leadsTo forwarder)) := by
  cases led : blocks.any (leadsTo forwarder) with
  | false =>
      rw [bypass_of_quiet led, Bool.or_false]
      exact before
  | true =>
      refine ⟨ids_bypass.trans before.ids, weights_bypass.trans before.weights, ?_, ?_⟩
      · exact fun none => absurd none (by simp)
      · exact fun _ => ⟨forwarder, target, forwards,
          any_leadsTo_bypass (apart_of_forwarder forwards).2.2⟩

theorem foldl_bypassed {function : Function} (pairs : List (BlockId × BlockId))
    (members : ∀ pair ∈ pairs, pair ∈ forwarders function) (state : List Block × Bool)
    (before : Bypassed function state.1 state.2) :
    Bypassed function
      (pairs.foldl (fun (blocks, changed) (forwarder, target) =>
        (bypass blocks forwarder target, changed || blocks.any (leadsTo forwarder))) state).1
      (pairs.foldl (fun (blocks, changed) (forwarder, target) =>
        (bypass blocks forwarder target, changed || blocks.any (leadsTo forwarder))) state).2 := by
  induction pairs generalizing state with
  | nil => exact before
  | cons pair pairs ih =>
      obtain ⟨first, others⟩ := List.forall_mem_cons.mp members
      exact ih others _ (before.step first)

theorem bypassed_threadForwarders (function : Function) :
    Bypassed function (threadForwarders function).1.blocks (threadForwarders function).2 :=
  foldl_bypassed (forwarders function) (fun _ member => member) (function.blocks, false)
    ⟨rfl, rfl, fun _ => rfl, fun changed => absurd changed Bool.false_ne_true⟩

/-- Leading control past forwarders, with the removal of what was left without a way to it. -/
theorem reports_threadForwarders (function : Function) :
    Reports Function.weight function
      (if (threadForwarders function).2 then (removeUnreachable (threadForwarders function).1).1
        else (threadForwarders function).1, (threadForwarders function).2) := by
  have bypassed := bypassed_threadForwarders function
  constructor
  · intro none
    simp only at none
    rw [none, if_neg Bool.false_ne_true]
    have blocks := bypassed.kept none
    exact congrArg (fun blocks => { function with blocks := blocks }) blocks
  · intro some
    simp only at some
    obtain ⟨forwarder, target, forwards, entered⟩ := bypassed.freed some
    obtain ⟨present, inner, -⟩ := apart_of_forwarder forwards
    have entry : Function.entry? (threadForwarders function).1 = function.entry? := by
      unfold Function.entry?
      rw [← List.head?_map, bypassed.ids, List.head?_map]
    have cut : (removeUnreachable (threadForwarders function).1).2 = true :=
      removeUnreachable_cuts (bypassed.ids ▸ present) (entry ▸ inner) entered
    rw [some, if_pos rfl]
    calc (removeUnreachable (threadForwarders function).1).1.weight
        < (threadForwarders function).1.weight := (reports_removeUnreachable _).lighter cut
      _ = function.weight := by
          rw [Function.weight_eq_sum, Function.weight_eq_sum, bypassed.weights]

/-! ### Chains -/

/-- A block that absorbs another one takes over its instructions and its ending. -/
theorem weight_absorb (id : BlockId) (absorbed : Block) (blocks : List Block) :
    ((absorb id absorbed blocks).map Block.weight).sum + 1 ≤
      (blocks.map Block.weight).sum + absorbed.weight := by
  induction blocks with
  | nil =>
      have := absorbed.weight_pos
      simp only [absorb, List.map_nil, List.sum_nil]
      omega
  | cons block rest ih =>
      rw [absorb]
      split
      · simp only [List.map_cons, List.sum_cons, Block.weight, List.map_append, List.sum_append]
        omega
      · simp only [List.map_cons, List.sum_cons]
        omega

theorem weight_eraseIdx {blocks : List Block} {position : Nat} {absorbed : Block}
    (known : blocks[position]? = some absorbed) :
    absorbed.weight + ((blocks.eraseIdx position).map Block.weight).sum =
      (blocks.map Block.weight).sum := by
  obtain ⟨within, rfl⟩ := List.getElem?_eq_some_iff.mp known
  have same := (List.getElem_cons_eraseIdx_perm within).map Block.weight |>.sum_eq
  rwa [List.map_cons, List.sum_cons] at same

/-- Merging chains reports a change exactly when it made the function lighter. -/
theorem reports_mergeChains (function : Function) :
    Reports Function.weight function (mergeChains function) := by
  fun_induction mergeChains function with
  | case1 _ _ => exact .unchanged
  | case2 _ _ _ _ _ => exact .unchanged
  | case3 _ _ _ _ _ _ _ => exact .unchanged
  | case4 function predecessor successor found position located absorbed known merged ih =>
      have step : Reports Function.weight function (merged, true) := by
        refine ⟨fun none => absurd none (by simp), fun _ => ?_⟩
        have together := weight_absorb predecessor absorbed (function.blocks.eraseIdx position)
        have erased := weight_eraseIdx known
        simp only [Function.weight_eq_sum, merged]
        omega
      exact step.trans ih

/-- Simplifying control flow reports a change exactly when it made the function lighter. -/
theorem reports_simplifyControlFlow (function : Function) :
    Reports Function.weight function (simplifyControlFlow function) :=
  ((reports_removeUnreachable function).trans (reports_threadForwarders _)).trans
    (reports_mergeChains _)

/-! ### Rounds -/

/-- Every pass reports a change exactly when it made the function lighter. -/
theorem reports_run (pass : FunctionPass) (function : Function) :
    Reports Function.weight function (pass.run function) := by
  cases pass with
  | constantFolding => exact reports_foldConstants function
  | deadCode => exact reports_removeDeadCode function
  | controlFlow => exact reports_simplifyControlFlow function

/-- The number of changes that were reported is paid for in weight. -/
structure Tallies (before : Function) (result : Function × Nat) : Prop where
  kept : result.2 = 0 → result.1 = before
  paid : result.1.weight + result.2 ≤ before.weight

namespace Tallies

variable {before middle after : Function} {first second : Nat}

theorem of_reports {changed : Bool} (reports : Reports Function.weight before (after, changed)) :
    Tallies before (after, changed.toNat) := by
  cases changed with
  | false => exact ⟨fun _ => reports.kept rfl, reports.le⟩
  | true => exact ⟨fun none => absurd none Nat.one_ne_zero, reports.lighter rfl⟩

theorem trans (earlier : Tallies before (middle, first)) (later : Tallies middle (after, second)) :
    Tallies before (after, first + second) := by
  constructor
  · intro none
    obtain ⟨quiet, still⟩ := Nat.add_eq_zero_iff.mp none
    exact (later.kept still).trans (earlier.kept quiet)
  · have early := earlier.paid
    have late := later.paid
    simp only at early late ⊢
    omega

end Tallies

namespace Optimizer

/-- The changes of a round are counted on from any number. -/
private theorem foldl_tallies (passes : List FunctionPass) (start : Function × Nat) :
    ∃ after more,
      passes.foldl (fun state pass =>
          ((pass.run state.1).1, if (pass.run state.1).2 then state.2 + 1 else state.2)) start =
        (after, start.2 + more) ∧ Tallies start.1 (after, more) := by
  induction passes generalizing start with
  | nil => exact ⟨start.1, 0, rfl, fun _ => rfl, le_rfl⟩
  | cons pass passes ih =>
      have first := Tallies.of_reports (reports_run pass start.1)
      rw [List.foldl_cons]
      obtain ⟨after, more, same, later⟩ := ih ((pass.run start.1).1,
        if (pass.run start.1).2 then start.2 + 1 else start.2)
      have counted (changed : Bool) :
          (if changed then start.2 + 1 else start.2) + more = start.2 + (changed.toNat + more) := by
        cases changed with
        | false => simp
        | true => simp [Nat.add_assoc]
      exact ⟨after, _, same.trans (Prod.ext rfl (counted _)), first.trans later⟩

theorem round_tallies (passes : List FunctionPass) (function : Function) :
    Tallies function (round passes function) := by
  obtain ⟨after, more, same, tallies⟩ := foldl_tallies passes (function, 0)
  rw [Nat.zero_add] at same
  exact (show round passes function = (after, more) from same) ▸ tallies

/-- Rounds end with one that changed nothing when there are more of them than the function
weighs. -/
theorem round_rounds (passes : List FunctionPass) {left : Nat} {function : Function}
    (enough : function.weight < left) :
    round passes (rounds passes left function).1 = ((rounds passes left function).1, 0) := by
  induction left generalizing function with
  | zero => exact absurd enough (Nat.not_lt_zero _)
  | succ left ih =>
      have tallies := round_tallies passes function
      rw [rounds]
      dsimp only
      split
      case isTrue quiet =>
        rw [show (round passes function).1 = function from tallies.kept quiet]
        exact Prod.ext (tallies.kept quiet) quiet
      case isFalse some =>
        have paid := tallies.paid
        exact ih (by omega)

/-- Every pass reports a change exactly when it made the function lighter, and leaves it as it
was otherwise.  So whatever passes an optimizer has, with more rounds than the function weighs
it ends with a function that a further round does not change. -/
theorem optimizeFunction_settles (function : Function) (optimizer : Optimizer) :
    (∀ pass : FunctionPass,
        ((pass.run function).2 = false → (pass.run function).1 = function) ∧
          ((pass.run function).2 = true → (pass.run function).1.weight < function.weight)) ∧
      (function.weight + 1 ≤ optimizer.config.maxIterations →
        ∃ result changed after,
          optimizeFunction function optimizer = .ok (result, changed) after ∧
            round optimizer.functionPasses result = (result, 0)) := by
  constructor
  · intro pass
    have reports := reports_run pass function
    exact ⟨reports.kept, reports.lighter⟩
  · intro enough
    exact ⟨_, _, _, rfl, round_rounds optimizer.functionPasses enough⟩

/-- A known condition leads into a cycle of two empty blocks. -/
def circling : Function :=
  { name := "circle"
    parameters := []
    registerTypes := #[]
    blocks :=
      [{ id := 0
         label := "entry"
         instructions := []
         terminator? := some (.branch (.constant (.bool true)) 1 3 none) },
       { id := 1
         label := "there"
         instructions := []
         terminator? := some (.jump 2) },
       { id := 2
         label := "back"
         instructions := []
         terminator? := some (.jump 1) },
       { id := 3
         label := "after"
         instructions := []
         terminator? := some .leave }]
    exported := true }

/-- The cycle is led past and taken away within the usual eight rounds. -/
theorem optimizeFunction_settles_circling :
    circling.weight = 5 ∧ circling.weight + 1 ≤ (ofConfig .standard).config.maxIterations ∧
      ∃ result changed after,
        optimizeFunction circling (ofConfig .standard) = .ok (result, changed) after ∧
          round [.constantFolding, .deadCode, .controlFlow] result = (result, 0) :=
  ⟨by decide, by decide, (optimizeFunction_settles circling (ofConfig .standard)).2 (by decide)⟩

end Optimizer
end TensorGraph.Optimize

/-
Leading control past forwarders preserves calls.

Control in the changed function may be ahead: where the original stands at the
start of a forwarder, the changed one already stands at the start of a block
further along the chain of forwarders.  Chains may be cycles; then neither side
ever comes out.
-/

import TensorGraph.Optimize.ControlFlow
import TensorGraph.Proofs.Optimize.Improvement

namespace TensorGraph.Optimize

open Code Machine

/-- From one block to another along forwarders. -/
abbrev Chain (function : Function) : BlockId → BlockId → Prop :=
  Relation.ReflTransGen fun forwarder target => (forwarder, target) ∈ forwarders function

/-- Terminators alike, but for targets that lie further along the chains. -/
inductive ThreadedTerminator (function : Function) : Option Terminator → Option Terminator → Prop
    where
  | open : ThreadedTerminator function none none
  | jump (target target' : BlockId) (chain : Chain function target target') :
      ThreadedTerminator function (some (.jump target)) (some (.jump target'))
  | branch (condition : Operand) (onTrue onTrue' onFalse onFalse' : BlockId)
      (hint? : Option LoopHint) (chainTrue : Chain function onTrue onTrue')
      (chainFalse : Chain function onFalse onFalse') :
      ThreadedTerminator function (some (.branch condition onTrue onFalse hint?))
        (some (.branch condition onTrue' onFalse' hint?))
  | leave : ThreadedTerminator function (some .leave) (some .leave)

/-- A block before and after. -/
structure Threaded (function : Function) (block block' : Block) : Prop where
  id : block'.id = block.id
  instructions : block'.instructions = block.instructions
  terminator : ThreadedTerminator function block.terminator? block'.terminator?

theorem ThreadedTerminator.refl (function : Function) (terminator? : Option Terminator) :
    ThreadedTerminator function terminator? terminator? := by
  cases terminator? with
  | none => exact .open
  | some terminator =>
      cases terminator with
      | jump target => exact .jump target target .refl
      | branch condition onTrue onFalse hint? =>
          exact .branch condition onTrue onTrue onFalse onFalse hint? .refl .refl
      | leave => exact .leave

theorem chain_retarget {function : Function} {forwarder target : BlockId}
    (forwards : (forwarder, target) ∈ forwarders function) {first last : BlockId}
    (chain : Chain function first last) :
    Chain function first (if last = forwarder then target else last) := by
  split
  · rename_i same
    subst same
    exact chain.tail forwards
  · exact chain

theorem ThreadedTerminator.retarget {function : Function} {forwarder target : BlockId}
    (forwards : (forwarder, target) ∈ forwarders function)
    {terminator? terminator'? : Option Terminator}
    (threaded : ThreadedTerminator function terminator? terminator'?) :
    ThreadedTerminator function terminator?
      (terminator'?.map (Terminator.retarget forwarder target)) := by
  cases threaded with
  | «open» => exact .open
  | jump first last chain => exact .jump first _ (chain_retarget forwards chain)
  | branch condition onTrue onTrue' onFalse onFalse' hint? chainTrue chainFalse =>
      exact .branch condition onTrue _ onFalse _ hint? (chain_retarget forwards chainTrue)
        (chain_retarget forwards chainFalse)
  | leave => exact .leave

theorem bypass_threaded {function : Function} {forwarder target : BlockId}
    (forwards : (forwarder, target) ∈ forwarders function) {blocks blocks' : List Block}
    (threaded : List.Forall₂ (Threaded function) blocks blocks') :
    List.Forall₂ (Threaded function) blocks (bypass blocks' forwarder target) := by
  rw [bypass, List.forall₂_map_right_iff]
  refine threaded.imp ?_
  intro block block' related
  split
  · exact ⟨related.id, related.instructions, related.terminator.retarget forwards⟩
  · exact related

theorem foldl_bypass_threaded {function : Function} (pairs : List (BlockId × BlockId))
    (members : ∀ pair ∈ pairs, pair ∈ forwarders function) {blocks : List Block}
    (result : List Block × Bool)
    (threaded : List.Forall₂ (Threaded function) blocks result.1) :
    List.Forall₂ (Threaded function) blocks
      (pairs.foldl (fun (blocks, changed) (forwarder, target) =>
        (bypass blocks forwarder target, changed || blocks.any (leadsTo forwarder))) result).1 := by
  induction pairs generalizing result with
  | nil => exact threaded
  | cons pair pairs inductionHypothesis =>
      refine inductionHypothesis (fun other member => members other (List.mem_cons_of_mem _ member))
        _ ?_
      exact bypass_threaded (members pair (List.mem_cons_self ..)) threaded

theorem blocks_threaded (function : Function) :
    List.Forall₂ (Threaded function) function.blocks (threadForwarders function).1.blocks := by
  refine foldl_bypass_threaded (forwarders function) (fun _ member => member)
    (function.blocks, false) ?_
  exact List.forall₂_same.mpr fun block _ => ⟨rfl, rfl, .refl function block.terminator?⟩

/-! ### Forwarders -/

/-- A forwarder is a block that only jumps. -/
theorem block_of_forwarder {function : Function} (formed : WellFormed function)
    {forwarder target : BlockId} (forwards : (forwarder, target) ∈ forwarders function) :
    ∃ block ∈ function.blocks, block.id = forwarder ∧
      startOf block = ⟨[], some (.jump target)⟩ ∧ target ∈ function.blocks.map Block.id := by
  obtain ⟨block, member, passes⟩ := List.mem_filterMap.mp forwards
  split at passes
  · rename_i empty
    split at passes
    · rename_i next ends
      split at passes
      · cases passes
      · cases passes
        have idle : block.instructions = [] := by
          simp only [Bool.and_eq_true, List.isEmpty_iff] at empty
          exact empty.2
        obtain ⟨terminator, ends', targets⟩ := formed.closed block member
        rw [ends] at ends'
        cases ends'
        refine ⟨block, member, rfl, ?_, targets _ (by simp [Terminator.successors])⟩
        simp only [startOf, idle, ends]
    · cases passes
  · cases passes

theorem chain_target {function : Function} (formed : WellFormed function)
    {first last : BlockId} (chain : Chain function first last)
    (present : first ∈ function.blocks.map Block.id) : last ∈ function.blocks.map Block.id := by
  cases chain with
  | refl => exact present
  | tail _ forwards =>
      obtain ⟨_, _, _, _, target⟩ := block_of_forwarder formed forwards
      exact target

theorem threaded_of_forall {function : Function} {blocks blocks' : List Block}
    (threaded : List.Forall₂ (Threaded function) blocks blocks') :
    blocks'.map Block.id = blocks.map Block.id ∧
      blocks'.flatMap Block.instructions = blocks.flatMap Block.instructions ∧
      (∀ block ∈ blocks, ∃ block' ∈ blocks', Threaded function block block') ∧
      ∀ block' ∈ blocks', ∃ block ∈ blocks, Threaded function block block' := by
  induction threaded with
  | nil => simp
  | cons first rest inductionHypothesis =>
      obtain ⟨ids, inside, onward, back⟩ := inductionHypothesis
      refine ⟨?_, ?_, ?_, ?_⟩
      · rw [List.map_cons, List.map_cons, ids, first.id]
      · rw [List.flatMap_cons, List.flatMap_cons, inside, first.instructions]
      · intro block member
        rcases List.mem_cons.mp member with rfl | later
        · exact ⟨_, List.mem_cons_self .., first⟩
        · obtain ⟨block', member', related⟩ := onward block later
          exact ⟨block', List.mem_cons_of_mem _ member', related⟩
      · intro block' member
        rcases List.mem_cons.mp member with rfl | later
        · exact ⟨_, List.mem_cons_self .., first⟩
        · obtain ⟨block, member', related⟩ := back block' later
          exact ⟨block, List.mem_cons_of_mem _ member', related⟩

theorem threadForwarders_formed {function : Function} (formed : WellFormed function) :
    WellFormed (threadForwarders function).1 := by
  obtain ⟨ids, inside, _, back⟩ := threaded_of_forall (blocks_threaded function)
  have defines : targets (threadForwarders function).1.instructions =
      targets function.instructions := by
    rw [Function.instructions, inside, Function.instructions]
  refine ⟨?_, ?_, ?_, ?_, ?_, ?_⟩
  · intro empty
    rw [empty] at ids
    exact formed.nonempty (List.map_eq_nil_iff.mp ids.symm)
  · rw [ids]
    exact formed.distinct
  · intro block' member'
    rw [ids]
    obtain ⟨block, member, related⟩ := back block' member'
    obtain ⟨terminator, ends, successors⟩ := formed.closed block member
    have threaded := related.terminator
    rw [ends] at threaded
    generalize block'.terminator? = terminator'? at threaded ⊢
    cases threaded with
    | jump target target' chain =>
        refine ⟨_, rfl, ?_⟩
        intro other leads
        rw [Terminator.successors, List.mem_singleton] at leads
        subst leads
        exact chain_target formed chain (successors target (by simp [Terminator.successors]))
    | branch condition onTrue onTrue' onFalse onFalse' hint? chainTrue chainFalse =>
        refine ⟨_, rfl, ?_⟩
        intro other leads
        simp only [Terminator.successors, List.mem_cons, List.not_mem_nil, or_false] at leads
        rcases leads with rfl | rfl
        · exact chain_target formed chainTrue (successors onTrue (by simp [Terminator.successors]))
        · exact chain_target formed chainFalse
            (successors onFalse (by simp [Terminator.successors]))
    | leave => exact ⟨_, rfl, by simp [Terminator.successors]⟩
  · rw [defines]
    exact formed.single
  · rw [defines]
    exact formed.fresh
  · rw [defines]
    exact formed.typed

/-! ### The pass -/

/-- Control stands at the same place, or the original still has forwarders to pass. -/
def ThreadedPosition (function : Function) (position position' : Position) : Prop :=
  (∀ instruction ∈ position.pending, instruction ∈ function.instructions) ∧
    ((position'.pending = position.pending ∧
        ThreadedTerminator function position.terminator? position'.terminator?) ∨
      ∃ target last block', position = ⟨[], some (.jump target)⟩ ∧ Chain function target last ∧
        Frame.blockOf? (threadForwarders function).1 last = some block' ∧
        position' = startOf block')

theorem threaded_block {function : Function} (formed : WellFormed function) {id : BlockId}
    {block : Block} (found : Frame.blockOf? function id = some block) :
    ∃ block', Frame.blockOf? (threadForwarders function).1 id = some block' ∧
      Threaded function block block' := by
  obtain ⟨member, rfl⟩ := mem_of_blockOf found
  obtain ⟨_, _, onward, _⟩ := threaded_of_forall (blocks_threaded function)
  obtain ⟨block', member', related⟩ := onward block member
  refine ⟨block', ?_, related⟩
  rw [← related.id]
  exact blockOf_of_mem (threadForwarders_formed formed).distinct member'

/-- The starts of two blocks, the second one further along a chain. -/
theorem threaded_start {function : Function} (formed : WellFormed function) {first last : BlockId}
    (chain : Chain function first last) {block : Block}
    (found : Frame.blockOf? function first = some block) :
    ∃ block', Frame.blockOf? (threadForwarders function).1 last = some block' ∧
      ThreadedPosition function (startOf block) (startOf block') := by
  have within : ∀ instruction ∈ (startOf block).pending, instruction ∈ function.instructions :=
    fun _ inside => mem_instructions (mem_of_blockOf found).1 inside
  cases chain using Relation.ReflTransGen.head_induction_on with
  | refl =>
      obtain ⟨block', found', related⟩ := threaded_block formed found
      exact ⟨block', found', within, .inl ⟨related.instructions, related.terminator⟩⟩
  | head forwards rest =>
      rename_i middle _
      obtain ⟨forwarder, member, named, starts, present⟩ := block_of_forwarder formed forwards
      have same : block = forwarder := by
        have again := blockOf_of_mem formed.distinct member
        rw [named, found] at again
        exact Option.some.inj again
      subst same
      obtain ⟨final, memberFinal, namedFinal⟩ :=
        List.mem_map.mp (chain_target formed rest present)
      obtain ⟨block', found', _⟩ :=
        threaded_block formed (blockOf_of_mem formed.distinct memberFinal)
      rw [namedFinal] at found'
      exact ⟨block', found', within, .inr ⟨middle, last, block', starts, rest, found', rfl⟩⟩

private def threadSimulation (function : Function) (formed : WellFormed function) :
    PlainSimulation function (threadForwarders function).1 :=
  { live := fun _ => True
    follows := ThreadedPosition function
    header := ⟨rfl, rfl, rfl, rfl⟩
    used := fun _ _ _ _ => trivial
    within := fun _ _ follows => follows.1
    entry := by
      intro block blocks shape
      have threaded := blocks_threaded function
      rw [shape] at threaded
      cases shape' : (threadForwarders function).1.blocks with
      | nil =>
          rw [shape'] at threaded
          cases threaded
      | cons block' blocks' =>
          rw [shape'] at threaded
          cases threaded with
          | cons first rest =>
              refine ⟨block', blocks', _, rfl, .here _, ?_, .inl ⟨first.instructions,
                first.terminator⟩⟩
              exact fun _ inside =>
                mem_instructions (by rw [shape]; exact List.mem_cons_self ..) inside
    instruction := by
      rintro instruction pending terminator? ⟨pending', terminator'?⟩ ⟨within, same | ahead⟩
      · obtain ⟨alike, threaded⟩ := same
        rw [show pending' = instruction :: pending from alike]
        exact .inr ⟨pending, terminator'?, .here _,
          fun other member => within other (List.mem_cons_of_mem _ member), .inl ⟨rfl, threaded⟩⟩
      · obtain ⟨target, last, block', impossible, _⟩ := ahead
        cases impossible
    jump := by
      rintro target ⟨pending', terminator'?⟩ ⟨_, ⟨alike, threaded⟩ | ahead⟩ block known
      · rw [show pending' = [] from alike]
        cases threaded with
        | jump _ target' chain =>
            obtain ⟨block', found', follows⟩ := threaded_start formed chain known
            exact ⟨_, .one found', follows⟩
      · obtain ⟨next, last, block', same, chain, found', here⟩ := ahead
        cases same
        obtain ⟨other', again, follows⟩ := threaded_start formed chain known
        rw [found'] at again
        cases again
        rw [here]
        exact ⟨_, .here _, follows⟩
    branch := by
      rintro condition onTrue onFalse hint? ⟨pending', terminator'?⟩ ⟨_, ⟨alike, threaded⟩ | ahead⟩
      · rw [show pending' = [] from alike]
        cases threaded with
        | branch _ _ onTrue' _ onFalse' _ chainTrue chainFalse =>
            refine ⟨fun _ _ => trivial, onTrue', onFalse', hint?, .here _, ?_⟩
            intro side block known
            cases side with
            | true =>
                obtain ⟨block', found', follows⟩ := threaded_start formed chainTrue known
                exact ⟨block', _, found', .here _, follows⟩
            | false =>
                obtain ⟨block', found', follows⟩ := threaded_start formed chainFalse known
                exact ⟨block', _, found', .here _, follows⟩
      · obtain ⟨target, last, block', impossible, _⟩ := ahead
        cases impossible
    leave := by
      rintro ⟨pending', terminator'?⟩ ⟨_, ⟨alike, threaded⟩ | ahead⟩
      · rw [show pending' = [] from alike]
        cases threaded with
        | leave => exact .here _
      · obtain ⟨target, last, block', impossible, _⟩ := ahead
        cases impossible
    stored := by
      rintro ⟨pending, terminator?⟩ ⟨pending', terminator'?⟩ ⟨_, ⟨alike, _⟩ | ahead⟩ pointer
        register member
      · rw [show pending' = pending from alike]
        exact member
      · obtain ⟨target, last, block', same, _⟩ := ahead
        cases same
        cases member }

theorem threadForwarders_improves {function : Function} (formed : WellFormed function) :
    Improvement function (threadForwarders function).1 := by
  refine ⟨threadForwarders_formed formed, ⟨(threadSimulation function formed).simulation⟩, ?_⟩
  intro instruction member
  obtain ⟨_, inside, _, _⟩ := threaded_of_forall (blocks_threaded function)
  rw [Function.instructions, inside] at member
  exact ⟨instruction, member, id, (mapOperands_of_fixed (fun _ => rfl) instruction).symm⟩

end TensorGraph.Optimize

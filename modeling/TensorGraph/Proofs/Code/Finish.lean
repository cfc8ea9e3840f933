/-
Finishing a function.

The finished function has the blocks of its builder, closed, with the prologue
at the top of the first one.  It is well formed when the builder is and leaves
no other block open.
-/

import TensorGraph.Proofs.Code.Balanced
import TensorGraph.Proofs.Optimize.WellFormed

namespace TensorGraph.Code.FunctionBuilder

open Optimize

variable {builder : FunctionBuilder}

/-- The instructions that finishing puts at the top of a block. -/
def before (builder : FunctionBuilder) (id : BlockId) : List Instruction :=
  if id = 0 then builder.prologue else []

/-- The first block with the prologue at its top. -/
def withPrologue (prologue : List Instruction) : List Block → List Block
  | [] => []
  | entry :: rest => { entry with instructions := prologue ++ entry.instructions } :: rest

def finished (builder : FunctionBuilder) : Function :=
  { (builder.closing .leave).function with
    blocks := withPrologue builder.prologue (builder.closing .leave).function.blocks }

theorem getElem?_withPrologue (prologue : List Instruction) (blocks : List Block) (id : Nat) :
    (withPrologue prologue blocks)[id]? =
      blocks[id]?.map fun block =>
        { block with
          instructions := (if id = 0 then prologue else []) ++ block.instructions } := by
  cases blocks with
  | nil => simp [withPrologue]
  | cons entry rest =>
      cases id with
      | zero => simp [withPrologue]
      | succ id =>
          have same : ∀ block : Block, { block with
              instructions := ([] : List Instruction) ++ block.instructions } = block :=
            fun block => by simp
          simp only [withPrologue, List.getElem?_cons_succ, Nat.add_one_ne_zero, if_false, same]
          cases rest[id]? <;> rfl

theorem getElem?_finished (numbered : builder.Numbered) (id : Nat) :
    builder.finished.blocks[id]? =
      (builder.blockAt id).map fun block =>
        { block with
          instructions := builder.before id ++ block.instructions
          terminator? := if id = builder.current then some .leave else block.terminator? } := by
  rw [finished, getElem?_withPrologue]
  change Option.map _ ((builder.closing .leave).blockAt id) = _
  rw [numbered.blockAt_closing]
  by_cases here : id = builder.current
  · simp only [if_pos here, Option.map_map]
    cases builder.blockAt id <;> rfl
  · simp only [if_neg here]
    cases builder.blockAt id <;> rfl

theorem ids_finished (numbered : builder.Numbered) :
    builder.finished.blocks.map Block.id = List.range builder.nextBlock := by
  have closed := numbered.closing .leave
  have same : ∀ blocks : List Block,
      (withPrologue builder.prologue blocks).map Block.id = blocks.map Block.id := by
    intro blocks
    cases blocks <;> rfl
  rw [finished, same]
  exact closed

theorem distinct_finished (numbered : builder.Numbered) :
    (builder.finished.blocks.map Block.id).Nodup := by
  rw [ids_finished numbered]
  exact List.nodup_range

/-- A block of the finished function is found by its number. -/
theorem blockOf?_finished (numbered : builder.Numbered) {id : BlockId} {block : Block}
    (found : builder.finished.blocks[id]? = some block) :
    Machine.Frame.blockOf? builder.finished id = some block := by
  have numbered' : ({ builder with function := builder.finished } : FunctionBuilder).Numbered :=
    ids_finished numbered
  have named : block.id = id := numbered'.id_of_getElem found
  rw [← named]
  exact blockOf_of_mem (distinct_finished numbered) (List.mem_of_getElem? found)

/-! ### The finished function is accepted -/

private theorem instructions_withPrologue (prologue : List Instruction) {blocks : List Block}
    (nonempty : blocks ≠ []) :
    (withPrologue prologue blocks).flatMap Block.instructions =
      prologue ++ blocks.flatMap Block.instructions := by
  cases blocks with
  | nil => exact absurd rfl nonempty
  | cons entry rest => simp [withPrologue]

/-- The finished function runs the prologue and what was appended to the blocks. -/
theorem instructions_finished (formed : builder.Formed) :
    builder.finished.instructions = builder.prologue ++ builder.function.instructions := by
  have length := (formed.numbered.closing .leave).length_blocks
  have nonempty : (builder.closing .leave).function.blocks ≠ [] := by
    intro empty
    rw [empty] at length
    exact absurd length (Nat.ne_of_lt formed.nonempty)
  have blocks : (builder.closing .leave).function.blocks = builder.function.blocks.modify
      builder.current fun block => { block with terminator? := some .leave } :=
    formed.numbered.blocks_changing _
  rw [Function.instructions, finished, instructions_withPrologue _ nonempty, blocks,
    flatMap_modify_close]
  rfl

theorem wellFormed_finished (formed : builder.Formed)
    (others : ∀ id, id ≠ builder.current → ∀ block, builder.blockAt id = some block →
      block.terminator? ≠ none) : WellFormed builder.finished := by
  have numbered := formed.numbered
  have defined : targets builder.finished.instructions = builder.defined := by
    rw [instructions_finished formed, FunctionBuilder.defined]
    exact List.filterMap_append
  have ids := ids_finished numbered
  constructor
  case nonempty =>
    intro empty
    rw [empty] at ids
    have := congrArg List.length ids
    rw [List.length_range] at this
    exact absurd this (Nat.ne_of_lt formed.nonempty)
  case distinct => exact distinct_finished numbered
  case closed =>
    intro block member
    obtain ⟨id, found⟩ := List.getElem?_of_mem member
    rw [getElem?_finished numbered] at found
    obtain ⟨before, known, rfl⟩ := Option.map_eq_some_iff.mp found
    simp only [ids, List.mem_range]
    by_cases here : id = builder.current
    · exact ⟨.leave, if_pos here, by simp [Terminator.successors]⟩
    · cases closed : before.terminator? with
      | none => exact absurd closed (others id here before known)
      | some terminator =>
          exact ⟨terminator, if_neg here,
            formed.closed before (List.mem_of_getElem? known) terminator closed⟩
  case single =>
    rw [defined]
    exact formed.single
  case fresh =>
    rw [defined]
    exact formed.fresh
  case typed =>
    rw [defined]
    intro register member
    have within := formed.below register member
    change (builder.function.registerTypes[register]?).isSome = true
    exact Option.isSome_iff_exists.mpr ⟨_, Array.getElem?_eq_getElem within⟩

theorem finish_ok (formed : builder.Formed) (opened : builder.Opened)
    (others : ∀ id, id ≠ builder.current → ∀ block, builder.blockAt id = some block →
      block.terminator? ≠ none) :
    ∃ after, Building.finish builder = .ok builder.finished after ∧
      after.globals = builder.globals ∧ after.states = builder.states := by
  have verified := (wellFormed_iff.mp (wellFormed_finished formed others)).1
  have closed : Building.leave builder = .ok () (builder.closing .leave) :=
    (Building.terminate_ok formed.numbered).mpr ⟨opened, rfl⟩
  refine ⟨{ builder.closing .leave with
      prologue := []
      function := builder.finished }, ?_, rfl, rfl⟩
  rw [Building.finish, Action.bind_ok]
  refine ⟨builder, builder, Action.get_ok.mpr ⟨rfl, rfl⟩, ?_⟩
  rw [Building.isTerminated_of_opened formed.numbered opened]
  simp only [Bool.not_false, if_true]
  refine Action.bind_ok.mpr ⟨(), builder.closing .leave, closed, ?_⟩
  refine Action.bind_ok.mpr ⟨(), _, Action.modify_ok.mpr rfl, ?_⟩
  refine Action.bind_ok.mpr ⟨_, _, Action.get_ok.mpr ⟨rfl, rfl⟩, ?_⟩
  exact Action.bind_ok.mpr ⟨(), _, Action.ofExcept_ok.mpr ⟨verified, rfl⟩,
    Action.pure_ok.mpr ⟨rfl, rfl⟩⟩

end TensorGraph.Code.FunctionBuilder

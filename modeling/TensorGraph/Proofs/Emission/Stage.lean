/-
Running emitted code.

A stage is a finished function in the module that runs it.  While the function
runs, the machine is said to follow a builder when it has just done what the
builder holds: the rest of its block is what is appended later.
-/

import TensorGraph.Proofs.Code.Branch
import TensorGraph.Proofs.Code.Finish
import TensorGraph.Proofs.Machine.Run

namespace TensorGraph

open Code FunctionBuilder Machine

/-- A finished function in its module.  `place` is the allocation of every register that
the prologue allocates for, and `states` are the globals that took the place of host
storages. -/
structure Stage where
  module : Module
  builder : FunctionBuilder
  place : Register → Nat
  states : List (Nat × String)
  formed : builder.Formed
  opened : builder.Opened
  globals : ∀ global ∈ builder.globals, global ∈ module.globals
  names : (module.globals.map Global.name).Nodup
  apart : ∀ first second dtype dtype' count count',
    .alloca first dtype count ∈ builder.prologue →
    .alloca second dtype' count' ∈ builder.prologue → place first = place second → first = second
  above : ∀ register dtype count, .alloca register dtype count ∈ builder.prologue →
    module.globals.length ≤ place register

namespace Stage

variable (stage : Stage)

def function : Function :=
  stage.builder.finished

/-- The machine has done what the builder holds, and is in its block. -/
structure Follows (builder : FunctionBuilder) (state : State) : Prop where
  function : state.frame.function = stage.function
  alone : state.callers = []
  reached : ∃ block, builder.blockAt builder.current = some block ∧
    stage.function.blocks[builder.current]? = some state.frame.block ∧
    state.frame.block.instructions =
      stage.builder.before builder.current ++ block.instructions ++ state.frame.pending

variable {stage} {builder after : FunctionBuilder} {state : State}

/-! ### Blocks of the function -/

/-- A block of the function starts like the block that it grew from. -/
theorem block_of_grows (grows : builder.Grows stage.builder) {id : BlockId} {block : Block}
    (found : builder.blockAt id = some block) :
    ∃ final, stage.function.blocks[id]? = some final ∧ ∃ more,
      final.instructions = stage.builder.before id ++ block.instructions ++ more ∧
      ∀ terminator, block.terminator? = some terminator →
        more = [] ∧ final.terminator? = some terminator := by
  obtain ⟨later, there, extended⟩ := grows.blocks id block found
  obtain ⟨more, instructions, closed⟩ := extended.instructions
  refine ⟨_, (getElem?_finished stage.formed.numbered id).trans (congrArg _ there), more, ?_, ?_⟩
  · simp [instructions]
  · intro terminator ended
    obtain ⟨none', kept⟩ := closed terminator ended
    refine ⟨none', ?_⟩
    obtain ⟨current, here, open'⟩ := stage.opened
    have different : id ≠ stage.builder.current := by
      rintro rfl
      cases there.symm.trans here
      rw [open'] at kept
      cases kept
    simp [different, kept]

theorem blockOf?_function {id : BlockId} {block : Block}
    (found : stage.function.blocks[id]? = some block) :
    Frame.blockOf? stage.function id = some block :=
  blockOf?_finished stage.formed.numbered found

theorem before_of_ne {id : BlockId} (other : id ≠ 0) : stage.builder.before id = [] :=
  if_neg other

/-! ### Following -/

namespace Follows

/-- What the builder appends next is what the machine runs next. -/
theorem pending (follows : stage.Follows builder state) (covers : after.Grows stage.builder)
    {more : List Instruction} {block' : Block}
    (appended : ∀ block, builder.blockAt builder.current = some block →
      after.blockAt builder.current = some block' ∧
        block'.instructions = block.instructions ++ more) :
    ∃ rest, state.frame.pending = more ++ rest := by
  obtain ⟨block, found, here, done⟩ := follows.reached
  obtain ⟨there, extended⟩ := appended block found
  obtain ⟨final, found', rest, instructions, _⟩ := block_of_grows covers there
  cases here.symm.trans found'
  rw [instructions, extended] at done
  simp only [List.append_assoc, List.append_cancel_left_eq] at done
  exact ⟨rest, done.symm⟩

/-- The machine runs the instruction that the builder appends. -/
theorem pushing (follows : stage.Follows builder state) (numbered : builder.Numbered)
    {instruction : Instruction} (covers : (builder.pushing instruction).Grows stage.builder) :
    ∃ rest, state.frame.pending = instruction :: rest ∧
      ∀ next : State, next.frame.function = state.frame.function →
        next.frame.block = state.frame.block → next.frame.pending = rest →
        next.callers = state.callers → stage.Follows (builder.pushing instruction) next := by
  obtain ⟨block, found, here, done⟩ := follows.reached
  have there := numbered.blockAt_pushing instruction builder.current
  rw [if_pos rfl, found] at there
  obtain ⟨final, found', rest, instructions, _⟩ := block_of_grows covers there
  cases here.symm.trans found'
  have waiting : state.frame.pending = instruction :: rest := by
    rw [instructions] at done
    simpa using done.symm
  refine ⟨rest, waiting, ?_⟩
  intro next function block' rest' callers
  refine ⟨function.trans follows.function, callers.trans follows.alone, _, there, ?_, ?_⟩
  · rw [block']
    exact here
  · rw [block', rest', instructions]
    rfl

/-- Registers and the prologue do not matter to where the machine stands. -/
theorem aside (follows : stage.Follows builder state)
    (current : after.current = builder.current)
    (blocks : after.blockAt builder.current = builder.blockAt builder.current) :
    stage.Follows after state := by
  obtain ⟨block, found, here, done⟩ := follows.reached
  refine ⟨follows.function, follows.alone, block, ?_, ?_, ?_⟩
  · rw [current, blocks]
    exact found
  · rw [current]
    exact here
  · rw [current]
    exact done

/-- The machine is at the end of the block, where the builder closes it. -/
theorem ended (follows : stage.Follows builder state) (covers : after.Grows stage.builder)
    {terminator : Terminator}
    (closed : ∀ block, builder.blockAt builder.current = some block →
      after.blockAt builder.current = some { block with terminator? := some terminator }) :
    state.frame.position = ⟨[], some terminator⟩ := by
  obtain ⟨block, found, here, done⟩ := follows.reached
  obtain ⟨final, found', rest, instructions, ended⟩ := block_of_grows covers (closed block found)
  obtain ⟨none', ended⟩ := ended terminator rfl
  cases here.symm.trans found'
  rw [instructions, none'] at done
  have waiting : state.frame.pending = [] := by
    simpa using done.symm
  rw [Frame.position, waiting, ended]

end Follows

/-! ### At the beginning of a block -/

/-- The machine is at the beginning of a block of the function. -/
structure Stands (stage : Stage) (id : BlockId) (state : State) : Prop where
  function : state.frame.function = stage.function
  alone : state.callers = []
  block : Frame.blockOf? stage.function id = some state.frame.block
  pending : state.frame.pending = state.frame.block.instructions

/-- A block that the builder has begun is a block of the function. -/
theorem exists_block (covers : builder.Grows stage.builder) {id : BlockId} {block : Block}
    (found : builder.blockAt id = some block) :
    ∃ final, Frame.blockOf? stage.function id = some final := by
  obtain ⟨final, found', _⟩ := block_of_grows covers found
  exact ⟨final, blockOf?_function found'⟩

theorem stands_goto {id : BlockId} {block : Block}
    (known : Frame.blockOf? stage.function id = some block)
    (function : state.frame.function = stage.function) (alone : state.callers = []) :
    stage.Stands id (state.goto block) :=
  ⟨function, alone, known, rfl⟩

namespace Stands

/-- Code goes on in a block that is still empty. -/
theorem follows (stands : stage.Stands builder.current state) (covers : builder.Grows stage.builder)
    (other : builder.current ≠ 0) {text : String}
    (empty : builder.blockAt builder.current = some (Block.empty builder.current text)) :
    stage.Follows builder state := by
  obtain ⟨final, found, more, instructions, _⟩ := block_of_grows covers empty
  have same : state.frame.block = final :=
    Option.some.inj (stands.block.symm.trans (blockOf?_function found))
  refine ⟨stands.function, stands.alone, _, empty, same ▸ found, ?_⟩
  rw [stands.pending, before_of_ne other]
  rfl

/-- What a closed block of the builder holds is what the machine has to run. -/
theorem closed {id : BlockId} (stands : stage.Stands id state)
    (covers : builder.Grows stage.builder) (other : id ≠ 0) {block : Block}
    (found : builder.blockAt id = some block) {terminator : Terminator}
    (closed : block.terminator? = some terminator) :
    state.frame.pending = block.instructions ∧
      state.frame.block.terminator? = some terminator := by
  obtain ⟨final, found', more, instructions, ended⟩ := block_of_grows covers found
  obtain ⟨none', kept⟩ := ended terminator closed
  have same : state.frame.block = final :=
    Option.some.inj (stands.block.symm.trans (blockOf?_function found'))
  rw [stands.pending, same]
  refine ⟨?_, kept⟩
  rw [instructions, none', before_of_ne other]
  simp

end Stands

/-! ### Running -/

/-- One instruction run. -/
theorem Follows.run (follows : stage.Follows builder state) (numbered : builder.Numbered)
    {instruction : Instruction} (covers : (builder.pushing instruction).Grows stage.builder)
    (plain : Instruction.isCall instruction = false)
    {outcome : Memory × Option (Register × Slot)}
    (done : effect stage.module state.memory state.frame instruction = .ok outcome) :
    ∃ next, Moves stage.module state next ∧ stage.Follows (builder.pushing instruction) next ∧
      next.memory = outcome.1 ∧
      next.frame.registers = (state.frame.defining outcome.2).registers := by
  obtain ⟨rest, waiting, onward⟩ := follows.pushing numbered covers
  refine ⟨(state.fetched rest).after outcome,
    .effect instruction rest outcome waiting plain done, onward _ ?_ ?_ ?_ ?_, rfl, ?_⟩
  · simp [State.after, State.fetched]
  · simp [State.after, State.fetched]
  · simp [State.after, State.fetched]
  · rfl
  · exact registers_defining_pending state.frame rest outcome.2

end Stage
end TensorGraph

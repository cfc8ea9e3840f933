/-
Runs that never stop.

Only instructions count against the step limit, so a run stops unless it comes
back to a state without an instruction in between; then it goes round for ever.
No other run outlasts the patience of its program, and a call answers exactly
when its run is not of that kind.
-/

import TensorGraph.Proofs.Machine.Call

namespace TensorGraph.Machine

open Code

/-! ### Kinds of traps

A transition traps as one of its parts does: a read of a register, an access to
memory, an operation, or the entry of a function.  So a property of all traps of
a transition is settled by three questions, about the traps that no state can
exclude, about accesses through the pointers of the frame, and about entries.
-/

section Traps

/-- Whatever goes wrong in the computation is allowed. -/
def Fails {α : Type} (allowed : Trap → Prop) (computation : Except Trap α) : Prop :=
  ∀ trap, computation = .error trap → allowed trap

/-- A trap other than a refused access and the entry of a malformed function. -/
def Trap.isPlain : Trap → Bool
  | access _ | malformed _ _ | endless => false
  | _ => true

theorem check_of_read {memory : Memory} {place : Pointer} {bytes : Nat} {fault : AccessFault}
    (refused : memory.read place bytes = .error fault) :
    memory.check place bytes = .error fault := by
  unfold Memory.read at refused
  unfold Memory.check
  cases held : memory.allocations[place.allocation]? with
  | none =>
      simp only [held] at refused
      cases refused
      rfl
  | some image =>
      simp only [held] at refused
      by_cases inside : place.offset + bytes ≤ image.size
      · rw [if_pos inside] at refused
        cases refused
      · rw [if_neg inside] at refused
        cases refused
        exact if_neg inside

namespace Fails

variable {α β : Type} {allowed : Trap → Prop}

theorem ok (value : α) : Fails allowed (.ok value) := by
  rintro trap ⟨⟩

theorem bind {first : Except Trap α} {rest : α → Except Trap β} (one : Fails allowed first)
    (two : ∀ value, first = .ok value → Fails allowed (rest value)) :
    Fails allowed (first >>= rest) := by
  intro trap failed
  rcases error_of_bind failed with early | ⟨value, found, late⟩
  · exact one trap early
  · exact two value found trap late

theorem mapError {δ : Type} {change : δ → Trap} {computation : Except δ α}
    (each : ∀ cause, computation = .error cause → allowed (change cause)) :
    Fails allowed (computation.mapError change) := by
  intro trap failed
  cases computation with
  | ok value => cases failed
  | error cause =>
      cases failed
      exact each cause rfl

theorem mapM {items : List α} {step : α → Except Trap β}
    (each : ∀ item, Fails allowed (step item)) : Fails allowed (items.mapM step) := by
  induction items with
  | nil => exact ok _
  | cons item rest inductionHypothesis =>
      rw [List.mapM_cons]
      exact bind (each item) fun _ _ => bind inductionHypothesis fun _ _ => ok _

/-- A function that cannot be entered is malformed. -/
theorem enter (malformed : ∀ index count, allowed (.malformed index count)) (function : Function)
    (slots : List Slot) (floor : Nat) : Fails allowed (Frame.enter function slots floor) := by
  have filled : ∀ (registers : Array (Option Slot)) (pairs : List (Register × Slot)),
      Fails allowed (Frame.bind registers pairs) := by
    intro registers pairs
    induction pairs generalizing registers with
    | nil => exact ok _
    | cons pair rest inductionHypothesis =>
        unfold Frame.bind
        split
        · exact inductionHypothesis _
        · rintro trap ⟨⟩
          exact malformed _ _
  refine bind (filled _ _) fun registers _ => ?_
  cases function.blocks with
  | nil =>
      rintro trap ⟨⟩
      exact malformed _ _
  | cons entry others => exact ok _

variable (plain : ∀ trap, trap.isPlain = true → allowed trap)
include plain

theorem slot (frame : Frame) (register : Register) : Fails allowed (frame.slot register) := by
  intro trap failed
  unfold Frame.slot at failed
  split at failed <;> cases failed
  exact plain _ rfl

theorem element (frame : Frame) (operand : Operand) : Fails allowed (frame.element operand) := by
  intro trap failed
  cases operand with
  | constant value => cases failed
  | register register =>
      cases read : frame.slot register with
      | error cause =>
          simp only [Frame.element, read] at failed
          cases failed
          exact slot plain frame register _ read
      | ok held =>
          cases held <;> simp only [Frame.element, read] at failed <;> cases failed
          exact plain _ rfl

theorem pointer (frame : Frame) (register : Register) :
    Fails allowed (frame.pointer register) := by
  intro trap failed
  cases read : frame.slot register with
  | error cause =>
      simp only [Frame.pointer, read] at failed
      cases failed
      exact slot plain frame register _ read
  | ok held =>
      cases held <;> simp only [Frame.pointer, read] at failed <;> cases failed
      exact plain _ rfl

theorem pointee (frame : Frame) (register : Register) :
    Fails allowed (frame.pointee register) := by
  intro trap failed
  unfold Frame.pointee at failed
  split at failed <;> cases failed
  exact plain _ rfl

theorem moved (pointer : Pointer) (index : Int) (width : Nat) :
    Fails allowed (pointer.moved index width) := by
  intro trap failed
  unfold Pointer.moved at failed
  dsimp only at failed
  split at failed <;> cases failed
  exact plain _ rfl

theorem argument (frame : Frame) (operand : Operand) : Fails allowed (frame.argument operand) := by
  cases operand with
  | constant value => exact ok _
  | register register => exact slot plain frame register

theorem arithmetic (computation : Except Error α) :
    Fails allowed (computation.mapError Trap.arithmetic) :=
  mapError fun _ _ => plain _ rfl

/-- An instruction fails in a plain way or in an access through a pointer of the frame. -/
theorem effect {module : Module} {memory : Memory} {frame : Frame}
    (access : ∀ register place, frame.pointer register = .ok place → ∀ bytes fault,
      memory.check place bytes = .error fault → allowed (.access fault))
    (instruction : Instruction) : Fails allowed (effect module memory frame instruction) := by
  cases instruction with
  | alloca target dtype count => exact ok _
  | address target name =>
      intro trap failed
      simp only [Machine.effect] at failed
      split at failed <;> cases failed
      exact plain _ rfl
  | offset target base index =>
      exact bind (pointer plain frame base) fun _ _ => bind (element plain frame index) fun _ _ =>
        bind (pointee plain frame base) fun _ _ => bind (moved plain _ _ _) fun _ _ => ok _
  | load target place =>
      exact bind (pointer plain frame place) fun _ found =>
        bind (pointee plain frame place) fun _ _ =>
          bind (mapError fun _ refused => access place _ found _ _ (check_of_read refused))
            fun _ _ => ok _
  | store place value =>
      exact bind (pointer plain frame place) fun _ found =>
        bind (element plain frame value) fun _ _ =>
          bind (mapError fun _ refused => access place _ found _ _ refused) fun _ _ => ok _
  | binary target op left right =>
      exact bind (element plain frame left) fun _ _ => bind (element plain frame right) fun _ _ =>
        bind (arithmetic plain _) fun _ _ => ok _
  | unary target op operand =>
      exact bind (element plain frame operand) fun _ _ => bind (arithmetic plain _) fun _ _ => ok _
  | compare target op left right =>
      exact bind (element plain frame left) fun _ _ => bind (element plain frame right) fun _ _ =>
        bind (arithmetic plain _) fun _ _ => ok _
  | cast target operand dtype => exact bind (element plain frame operand) fun _ _ => ok _
  | move destination source bytes =>
      exact bind (pointer plain frame destination) fun _ written =>
        bind (pointer plain frame source) fun _ read =>
          bind (mapError fun _ refused => access source _ read _ _ (check_of_read refused))
            fun _ _ => bind (mapError fun _ refused => access destination _ written _ _ refused)
              fun _ _ => ok _
  | call name arguments => exact ok _

end Fails

/-- A transition fails as its parts do. -/
theorem advance_fails {module : Module} {allowed : Trap → Prop} {state final : State} {trap : Trap}
    (plain : ∀ trap, trap.isPlain = true → allowed trap)
    (access : ∀ register place, state.frame.pointer register = .ok place → ∀ bytes fault,
      state.memory.check place bytes = .error fault → allowed (.access fault))
    (entered : ∀ function ∈ module.functions, ∀ slots floor,
      Fails allowed (Frame.enter function slots floor))
    (step : advance module state = .error trap final) : allowed trap := by
  cases located : state.frame.position with
  | mk pending terminator? =>
      have idle : state.frame.pending = pending := congrArg Position.pending located
      cases pending with
      | cons instruction rest =>
          by_cases calls : Instruction.isCall instruction = true
          · cases instruction <;> simp [Instruction.isCall] at calls
            rename_i name arguments
            rw [advance_call module state name arguments rest idle] at step
            cases named : module.function? name with
            | none =>
                simp only [named] at step
                cases step
                exact plain _ rfl
            | some function =>
                cases passed : arguments.mapM state.frame.argument with
                | error cause =>
                    simp only [named, passed] at step
                    cases step
                    exact Fails.mapM (Fails.argument plain state.frame) _ passed
                | ok slots =>
                    cases begun : Frame.enter function slots state.memory.size with
                    | ok frame => simp [named, passed, begun] at step
                    | error cause =>
                        simp only [named, passed, begun] at step
                        cases step
                        exact entered function (List.mem_of_find?_eq_some named) _ _ _ begun
          · have other : Instruction.isCall instruction = false := by simpa using calls
            rw [advance_effect module state instruction rest idle other] at step
            cases done : effect module state.memory state.frame instruction with
            | ok outcome => simp [done] at step
            | error cause =>
                simp only [done] at step
                cases step
                exact Fails.effect plain access instruction _ done
      | nil =>
          rcases terminator? with _ | target | ⟨condition, onTrue, onFalse, hint?⟩ | _
          · rw [advance_unterminated module state located] at step
            cases step
            exact plain _ rfl
          · rw [advance_jump module state target located] at step
            split at step <;> cases step
            exact plain _ rfl
          · rw [advance_branch module state condition onTrue onFalse hint? located] at step
            cases decided : state.frame.element condition with
            | error cause =>
                simp only [decided] at step
                cases step
                exact Fails.element plain state.frame condition _ decided
            | ok value =>
                simp only [decided] at step
                split at step <;> cases step
                exact plain _ rfl
          · rw [advance_leave module state located] at step
            split at step <;> cases step

end Traps

/-! ### Runs that revolve -/

/-- The run comes back to a state that it has left, before it reaches the limit. -/
def Program.Revolves (program : Program) (state : State) : Prop :=
  ∃ again, Reaches program.module state again ∧ again.steps ≤ program.limit ∧
    Relation.TransGen (Moves program.module) again again

namespace Program.Revolves

variable {program : Program} {state : State}

/-- A run that revolves goes on, and revolves still. -/
theorem next (revolves : program.Revolves state) :
    ∃ next, transition program state = .ok true next ∧ program.Revolves next := by
  obtain ⟨again, reaches, within, cycle⟩ := revolves
  rcases Relation.ReflTransGen.cases_head reaches with rfl | ⟨next, moves, rest⟩
  · obtain ⟨next, moves, back⟩ := Relation.TransGen.head'_iff.mp cycle
    have below : next.steps ≤ program.limit := Nat.le_trans (Reaches.steps_le back) within
    exact ⟨next, transition_of_moves moves below, state, back, within, cycle⟩
  · have below : next.steps ≤ program.limit := Nat.le_trans (Reaches.steps_le rest) within
    exact ⟨next, transition_of_moves moves below, again, rest, within, cycle⟩

/-- No patience is enough for a run that revolves. -/
theorem endless (revolves : program.Revolves state) (patience : Nat) :
    ∃ final, run program patience state = .error .endless final := by
  induction patience generalizing state with
  | zero => exact ⟨state, rfl⟩
  | succ patience inductionHypothesis =>
      obtain ⟨next, step, further⟩ := revolves.next
      obtain ⟨final, ran⟩ := inductionHypothesis further
      refine ⟨final, ?_⟩
      simp only [run, step]
      exact ran

end Program.Revolves

/-! ### Traps that are answers -/

/-- The function has a first block, and its parameters are among its registers. -/
structure Enterable (function : Function) : Prop where
  blocks : function.blocks ≠ []
  parameters : ∀ parameter ∈ function.parameters, parameter < function.registerTypes.size

theorem bind_of_registers {registers : Array (Option Slot)} {pairs : List (Register × Slot)}
    (within : ∀ pair ∈ pairs, pair.1 < registers.size) :
    ∃ bound, Frame.bind registers pairs = .ok bound := by
  induction pairs generalizing registers with
  | nil => exact ⟨registers, rfl⟩
  | cons pair rest inductionHypothesis =>
      obtain ⟨parameter, slot⟩ := pair
      unfold Frame.bind
      rw [if_pos (within _ List.mem_cons_self)]
      refine inductionHypothesis fun other member => ?_
      rw [Array.size_setIfInBounds]
      exact within other (List.mem_cons_of_mem _ member)

theorem Enterable.entered {function : Function} (enterable : Enterable function)
    (arguments : List Slot) (floor : Nat) :
    ∃ frame, Frame.enter function arguments floor = .ok frame := by
  have within : ∀ pair ∈ function.parameters.zip arguments,
      pair.1 < (Array.replicate function.registerTypes.size (none : Option Slot)).size := by
    intro pair member
    rw [Array.size_replicate]
    exact enterable.parameters pair.1 (List.of_mem_zip member).1
  obtain ⟨registers, bound⟩ := bind_of_registers within
  unfold Frame.enter
  rw [bound]
  cases listed : function.blocks with
  | nil => exact absurd listed enterable.blocks
  | cons entry others => exact ⟨_, rfl⟩

end TensorGraph.Machine

namespace TensorGraph.Engine

open Code Machine

/-- An engine without globals. -/
def bare (functions : List Code.Function) (limit : Nat) : Engine :=
  { module := { name := "m", globals := [], functions := functions }
    memory := { allocations := #[] }
    limit := limit }

end TensorGraph.Engine

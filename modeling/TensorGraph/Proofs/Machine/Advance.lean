/-
Transitions without a limit.

The step limit decides only whether an instruction may begin.  `advance` is a
transition that is never stopped by it, `Moves` lists everything that such a
transition can do and go on, and `Ends` and `Traps` say how it stops.
-/

import TensorGraph.Proofs.Machine.Effect

namespace TensorGraph.Machine

open Code Execution

/-- One transition with no limit on the number of instructions. -/
def advance (module : Module) : Execution Bool := fun state =>
  transition
    { module := module
      limit := state.steps + 1 } state

/-- Where control stands in a function. -/
structure Position where
  pending : List Instruction
  terminator? : Option Terminator

def Frame.position (frame : Frame) : Position :=
  { pending := frame.pending
    terminator? := frame.block.terminator? }

/-- The position at the start of a block. -/
def startOf (block : Block) : Position :=
  { pending := block.instructions
    terminator? := block.terminator? }

@[simp]
theorem position_goto (frame : Frame) (block : Block) :
    (frame.goto block).position = startOf block :=
  rfl

/-- The state in which the current function goes on in another block. -/
def State.goto (state : State) (block : Block) : State :=
  { state with frame := state.frame.goto block }

/-- The state in which a call has begun. -/
def State.entered (state : State) (frame : Frame) : State :=
  { state with
    frame := frame
    callers := state.frame :: state.callers }

/-- The memory of the current frame released. -/
def State.released (state : State) : State :=
  { state with memory := state.memory.release state.frame.floor }

/-- Everything that a transition can do when the run goes on after it. -/
inductive Moves (module : Module) (state : State) : State → Prop where
  | effect (instruction : Instruction) (rest : List Instruction)
      (outcome : Memory × Option (Register × Slot))
      (found : state.frame.pending = instruction :: rest)
      (plain : Instruction.isCall instruction = false)
      (done : effect module state.memory state.frame instruction = .ok outcome) :
      Moves module state ((state.fetched rest).after outcome)
  | call (name : String) (arguments : List Operand) (rest : List Instruction)
      (function : Function) (slots : List Slot) (frame : Frame)
      (found : state.frame.pending = .call name arguments :: rest)
      (named : module.function? name = some function)
      (passed : arguments.mapM state.frame.argument = .ok slots)
      (begun : Frame.enter function slots state.memory.size = .ok frame) :
      Moves module state ((state.fetched rest).entered frame)
  | jump (target : BlockId) (block : Block)
      (found : state.frame.position = ⟨[], some (.jump target)⟩)
      (known : Frame.blockOf? state.frame.function target = some block) :
      Moves module state (state.goto block)
  | branch (condition : Operand) (onTrue onFalse : BlockId) (hint? : Option LoopHint)
      (value : Literal) (block : Block)
      (found : state.frame.position = ⟨[], some (.branch condition onTrue onFalse hint?)⟩)
      (decided : state.frame.element condition = .ok value)
      (known : Frame.blockOf? state.frame.function (if value.isTrue then onTrue else onFalse) =
        some block) :
      Moves module state (state.goto block)
  | leave (caller : Frame) (callers : List Frame)
      (found : state.frame.position = ⟨[], some .leave⟩)
      (waiting : state.callers = caller :: callers) :
      Moves module state
        { state.released with
          frame := caller
          callers := callers }

/-- The outermost function returns. -/
def Returns (state final : State) : Prop :=
  state.frame.position = ⟨[], some .leave⟩ ∧ state.callers = [] ∧ final = state.released

/-! ### Transitions by position -/

@[simp]
theorem effect_pending (module : Module) (memory : Memory) (frame : Frame)
    (rest : List Instruction) (instruction : Instruction) :
    effect module memory { frame with pending := rest } instruction =
      effect module memory frame instruction := by
  cases instruction <;> rfl

theorem element_pending (frame : Frame) (rest : List Instruction) :
    Frame.argument { frame with pending := rest } = frame.argument := by
  funext operand
  cases operand <;> rfl

private theorem transition_instruction (program : Program) (state : State)
    (instruction : Instruction) (rest : List Instruction)
    (found : state.frame.pending = instruction :: rest) :
    transition program state =
      if state.steps < program.limit then
        match execute program instruction (state.fetched rest) with
        | .ok () next => .ok true next
        | .error trap next => .error trap next
      else
        .error .stepLimit state := by
  by_cases room : state.steps < program.limit
  · simp only [transition, bind, EStateM.bind, ask, found, begin, if_pos room, State.fetched]
    cases execute program instruction _ <;> rfl
  · simp only [transition, bind, EStateM.bind, ask, found, begin, if_neg room]

private theorem execute_limit (module : Module) (first second : Nat) (instruction : Instruction) :
    execute ⟨module, first⟩ instruction = execute ⟨module, second⟩ instruction := by
  cases instruction <;> rfl

private theorem transition_terminator (module : Module) (first second : Nat) (state : State)
    (idle : state.frame.pending = []) :
    transition ⟨module, first⟩ state = transition ⟨module, second⟩ state := by
  simp only [transition, bind, EStateM.bind, ask, idle]

/-- A limit that is not reached makes no difference. -/
theorem transition_of_room (program : Program) (state : State)
    (room : state.steps < program.limit ∨ state.frame.pending = []) :
    transition program state = advance program.module state := by
  unfold advance
  cases found : state.frame.pending with
  | nil => exact transition_terminator program.module program.limit _ state found
  | cons instruction rest =>
      have below : state.steps < program.limit := by
        rcases room with below | idle
        · exact below
        · rw [found] at idle
          cases idle
      rw [transition_instruction program state instruction rest found,
        transition_instruction _ state instruction rest found, if_pos below,
        if_pos (Nat.lt_succ_self _)]
      have same := execute_limit program.module program.limit (state.steps + 1) instruction
      rw [← same]

theorem transition_at_limit (program : Program) (state : State)
    (instruction : Instruction) (rest : List Instruction)
    (found : state.frame.pending = instruction :: rest)
    (full : program.limit ≤ state.steps) :
    transition program state = .error .stepLimit state := by
  rw [transition_instruction program state instruction rest found,
    if_neg (Nat.not_lt.mpr full)]

theorem advance_effect (module : Module) (state : State)
    (instruction : Instruction) (rest : List Instruction)
    (found : state.frame.pending = instruction :: rest)
    (plain : Instruction.isCall instruction = false) :
    advance module state =
      match effect module state.memory state.frame instruction with
      | .ok outcome => .ok true ((state.fetched rest).after outcome)
      | .error trap => .error trap (state.fetched rest) := by
  rw [advance, transition_instruction _ state instruction rest found,
    if_pos (Nat.lt_succ_self _), execute_eq_effect _ _ _ plain]
  simp only [State.fetched, effect_pending]
  cases effect module state.memory state.frame instruction <;> rfl

theorem advance_call (module : Module) (state : State) (name : String)
    (arguments : List Operand) (rest : List Instruction)
    (found : state.frame.pending = .call name arguments :: rest) :
    advance module state =
      match module.function? name with
      | none => .error (.unknownFunction name) (state.fetched rest)
      | some function =>
          match arguments.mapM state.frame.argument with
          | .error trap => .error trap (state.fetched rest)
          | .ok slots =>
              match Frame.enter function slots state.memory.size with
              | .ok frame => .ok true ((state.fetched rest).entered frame)
              | .error trap => .error trap (state.fetched rest) := by
  rw [advance, transition_instruction _ state _ rest found, if_pos (Nat.lt_succ_self _)]
  simp only [execute]
  cases module.function? name with
  | none => rfl
  | some function =>
      simp only [bind, EStateM.bind, ask, State.fetched, element_pending]
      cases arguments.mapM state.frame.argument with
      | error trap => rfl
      | ok slots =>
          simp only [enter]
          cases Frame.enter function slots state.memory.size <;> rfl

private theorem jump_eq (state : State) (target : BlockId) :
    jump target state =
      match Frame.blockOf? state.frame.function target with
      | some block => .ok () (state.goto block)
      | none => .error (.missingBlock target) state := by
  simp only [jump, bind, EStateM.bind, ask]
  cases Frame.blockOf? state.frame.function target <;> rfl

theorem advance_jump (module : Module) (state : State) (target : BlockId)
    (found : state.frame.position = ⟨[], some (.jump target)⟩) :
    advance module state =
      match Frame.blockOf? state.frame.function target with
      | some block => .ok true (state.goto block)
      | none => .error (.missingBlock target) state := by
  obtain ⟨idle, closed⟩ := Position.mk.injEq .. ▸ found
  simp only [advance, transition, bind, EStateM.bind, ask, idle, closed, jump_eq]
  cases Frame.blockOf? state.frame.function target <;> rfl

theorem advance_branch (module : Module) (state : State) (condition : Operand)
    (onTrue onFalse : BlockId) (hint? : Option LoopHint)
    (found : state.frame.position = ⟨[], some (.branch condition onTrue onFalse hint?)⟩) :
    advance module state =
      match state.frame.element condition with
      | .error trap => .error trap state
      | .ok value =>
          match Frame.blockOf? state.frame.function
              (if value.isTrue then onTrue else onFalse) with
          | some block => .ok true (state.goto block)
          | none => .error (.missingBlock (if value.isTrue then onTrue else onFalse)) state := by
  obtain ⟨idle, closed⟩ := Position.mk.injEq .. ▸ found
  simp only [advance, transition, bind, EStateM.bind, ask, idle, closed, jump_eq]
  cases state.frame.element condition with
  | error trap => rfl
  | ok value =>
      simp only
      cases Frame.blockOf? state.frame.function _ <;> rfl

theorem advance_leave (module : Module) (state : State)
    (found : state.frame.position = ⟨[], some .leave⟩) :
    advance module state =
      match state.callers with
      | [] => .ok false state.released
      | caller :: callers =>
          .ok true
            { state.released with
              frame := caller
              callers := callers } := by
  obtain ⟨idle, closed⟩ := Position.mk.injEq .. ▸ found
  simp only [advance, transition, bind, EStateM.bind, ask, idle, closed, leave]
  rcases state with ⟨memory, frame, callers, steps⟩
  cases callers <;> rfl

theorem advance_unterminated (module : Module) (state : State)
    (found : state.frame.position = ⟨[], none⟩) :
    advance module state = .error (.unterminated state.frame.block.label) state := by
  obtain ⟨idle, closed⟩ := Position.mk.injEq .. ▸ found
  simp only [advance, transition, bind, EStateM.bind, ask, idle, closed]
  rfl

end TensorGraph.Machine

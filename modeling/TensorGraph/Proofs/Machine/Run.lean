/-
Runs.

A run with a step limit is a run without one that stops within the limit.  The
number of transitions that a run may make is bounded because no state of a run
that stops is met twice: between two instructions or returns every block is
entered at most once.
-/

import TensorGraph.Proofs.Machine.Advance

namespace TensorGraph.Machine

open Code

/-! ### One transition -/

/-- A transition after which the run goes on is one of the moves. -/
theorem moves_of_advance {module : Module} {state next : State}
    (step : advance module state = .ok true next) : Moves module state next := by
  cases located : state.frame.position with
  | mk pending terminator? =>
      have idle : state.frame.pending = pending := congrArg Position.pending located
      cases pending with
      | cons instruction rest =>
          by_cases calls : Instruction.isCall instruction = true
          · cases instruction <;> simp [Instruction.isCall] at calls
            rename_i name arguments
            rw [advance_call module state name arguments rest idle] at step
            cases named : module.function? name with
            | none => simp [named] at step
            | some function =>
                cases passed : arguments.mapM state.frame.argument with
                | error trap => simp [named, passed] at step
                | ok slots =>
                    cases begun : Frame.enter function slots state.memory.size with
                    | error trap => simp [named, passed, begun] at step
                    | ok frame =>
                        simp only [named, passed, begun] at step
                        cases step
                        exact .call name arguments rest function slots frame idle named passed begun
          · have plain : Instruction.isCall instruction = false := by simpa using calls
            rw [advance_effect module state instruction rest idle plain] at step
            cases done : effect module state.memory state.frame instruction with
            | error trap => simp [done] at step
            | ok outcome =>
                simp only [done] at step
                cases step
                exact .effect instruction rest outcome idle plain done
      | nil =>
          cases terminator? with
          | none =>
              rw [advance_unterminated module state located] at step
              cases step
          | some terminator =>
              cases terminator with
              | jump target =>
                  rw [advance_jump module state target located] at step
                  cases known : Frame.blockOf? state.frame.function target with
                  | none => simp [known] at step
                  | some block =>
                      simp only [known] at step
                      cases step
                      exact .jump target block located known
              | branch condition onTrue onFalse hint? =>
                  rw [advance_branch module state condition onTrue onFalse hint? located] at step
                  cases decided : state.frame.element condition with
                  | error trap => simp [decided] at step
                  | ok value =>
                      simp only [decided] at step
                      split at step
                      · rename_i block known
                        cases step
                        exact .branch condition onTrue onFalse hint? value block located decided
                          known
                      · cases step
              | leave =>
                  rw [advance_leave module state located] at step
                  cases waiting : state.callers with
                  | nil => simp [waiting] at step
                  | cons caller callers =>
                      simp only [waiting] at step
                      cases step
                      exact .leave caller callers located waiting

theorem advance_of_moves {module : Module} {state next : State}
    (moves : Moves module state next) : advance module state = .ok true next := by
  cases moves with
  | effect instruction rest outcome found plain done =>
      rw [advance_effect module state instruction rest found plain, done]
  | call name arguments rest function slots frame found named passed begun =>
      rw [advance_call module state name arguments rest found]
      simp only [named, passed, begun]
  | jump target block found known =>
      rw [advance_jump module state target found, known]
  | branch condition onTrue onFalse hint? value block found decided known =>
      rw [advance_branch module state condition onTrue onFalse hint? found, decided]
      simp only [known]
  | leave caller callers found waiting =>
      rw [advance_leave module state found, waiting]

theorem advance_iff {module : Module} {state next : State} :
    advance module state = .ok true next ↔ Moves module state next :=
  ⟨moves_of_advance, advance_of_moves⟩

/-- A transition that ends the run returns from the outermost function. -/
theorem advance_returns {module : Module} {state final : State} :
    advance module state = .ok false final ↔ Returns state final := by
  constructor
  · intro step
    cases located : state.frame.position with
    | mk pending terminator? =>
        have idle : state.frame.pending = pending := congrArg Position.pending located
        cases pending with
        | cons instruction rest =>
            by_cases calls : Instruction.isCall instruction = true
            · cases instruction <;> simp [Instruction.isCall] at calls
              rename_i name arguments
              rw [advance_call module state name arguments rest idle] at step
              repeat' split at step
              all_goals cases step
            · have plain : Instruction.isCall instruction = false := by simpa using calls
              rw [advance_effect module state instruction rest idle plain] at step
              split at step <;> cases step
        | nil =>
            rcases terminator? with _ | target | ⟨condition, onTrue, onFalse, hint?⟩ | _
            · rw [advance_unterminated module state located] at step
              cases step
            · rw [advance_jump module state target located] at step
              split at step <;> cases step
            · rw [advance_branch module state condition onTrue onFalse hint? located] at step
              repeat' split at step
              all_goals cases step
            · rw [advance_leave module state located] at step
              cases waiting : state.callers with
              | nil =>
                  simp only [waiting] at step
                  cases step
                  exact ⟨located, waiting, rfl⟩
              | cons caller callers =>
                  simp only [waiting] at step
                  cases step
  · rintro ⟨located, waiting, rfl⟩
    rw [advance_leave module state located, waiting]

theorem Moves.steps {module : Module} {state next : State} (moves : Moves module state next) :
    (state.frame.pending = [] ∧ next.steps = state.steps) ∨
      (state.frame.pending ≠ [] ∧ next.steps = state.steps + 1) := by
  cases moves with
  | effect instruction rest outcome found plain done =>
      exact .inr ⟨by simp [found], rfl⟩
  | call name arguments rest function slots frame found named passed begun =>
      exact .inr ⟨by simp [found], rfl⟩
  | jump target block found known => exact .inl ⟨congrArg Position.pending found, rfl⟩
  | branch condition onTrue onFalse hint? value block found decided known =>
      exact .inl ⟨congrArg Position.pending found, rfl⟩
  | leave caller callers found waiting => exact .inl ⟨congrArg Position.pending found, rfl⟩

theorem Moves.steps_le {module : Module} {state next : State}
    (moves : Moves module state next) : state.steps ≤ next.steps := by
  rcases moves.steps with ⟨_, same⟩ | ⟨_, more⟩ <;> omega

/-! ### Many transitions -/

/-- Any number of moves. -/
abbrev Reaches (module : Module) : State → State → Prop :=
  Relation.ReflTransGen (Moves module)

theorem Reaches.steps_le {module : Module} {state final : State}
    (reaches : Reaches module state final) : state.steps ≤ final.steps := by
  induction reaches with
  | refl => exact Nat.le_refl _
  | tail _ moves inductionHypothesis => exact Nat.le_trans inductionHypothesis moves.steps_le

/-- The run comes to its end in `final`. -/
def Ends (module : Module) (state final : State) : Prop :=
  ∃ last, Reaches module state last ∧ Returns last final

/-- The run stops with a trap and leaves `final` behind. -/
def Traps (module : Module) (state : State) (trap : Trap) (final : State) : Prop :=
  ∃ last, Reaches module state last ∧ advance module last = .error trap final

/-- The run stops in arithmetic whose result is stored further on in the same block. -/
def Breaks (module : Module) (state : State) (cause : Error) (final : State) : Prop :=
  ∃ last instruction rest target pointer, Reaches module state last ∧
    last.frame.pending = instruction :: rest ∧ Miscomputes last.frame cause instruction ∧
    instruction.target? = some target ∧ .store pointer (.register target) ∈ rest ∧
    final = last.fetched rest

theorem Breaks.traps {module : Module} {state final : State} {cause : Error}
    (breaks : Breaks module state cause final) :
    Traps module state (.arithmetic cause) final := by
  obtain ⟨last, instruction, rest, target, pointer, reaches, found, failed, _, _, rfl⟩ := breaks
  refine ⟨last, reaches, ?_⟩
  have plain : Instruction.isCall instruction = false := by
    cases failed <;> rfl
  rw [advance_effect module last instruction rest found plain,
    effect_of_miscomputes module last.memory failed]

theorem Breaks.of_reaches {module : Module} {state next final : State} {cause : Error}
    (reaches : Reaches module state next) (breaks : Breaks module next cause final) :
    Breaks module state cause final := by
  obtain ⟨last, instruction, rest, target, pointer, reaches', found, failed, defines, stored,
    same⟩ := breaks
  exact ⟨last, instruction, rest, target, pointer, reaches.trans reaches', found, failed, defines,
    stored, same⟩

/-- How a run stops, and after how many moves. -/
inductive Halts (module : Module) : Nat → State → EStateM.Result Trap State Unit → Prop where
  | returned (state final : State) (step : advance module state = .ok false final) :
      Halts module 0 state (.ok () final)
  | trapped (state final : State) (trap : Trap) (step : advance module state = .error trap final) :
      Halts module 0 state (.error trap final)
  | onward (count : Nat) (state next : State) (result : EStateM.Result Trap State Unit)
      (step : advance module state = .ok true next) (rest : Halts module count next result) :
      Halts module (count + 1) state result

def stateOf : EStateM.Result Trap State Unit → State
  | .ok _ state => state
  | .error _ state => state

theorem halts_of_reaches {module : Module} {state last : State}
    {result : EStateM.Result Trap State Unit} (reaches : Reaches module state last)
    (ending : Halts module 0 last result) : ∃ count, Halts module count state result := by
  induction reaches using Relation.ReflTransGen.head_induction_on with
  | refl => exact ⟨0, ending⟩
  | head moves _ inductionHypothesis =>
      obtain ⟨count, rest⟩ := inductionHypothesis
      exact ⟨count + 1, .onward count _ _ result (advance_of_moves moves) rest⟩

theorem Ends.halts {module : Module} {state final : State} (ends : Ends module state final) :
    ∃ count, Halts module count state (.ok () final) := by
  obtain ⟨last, reaches, returns⟩ := ends
  exact halts_of_reaches reaches (.returned last final (advance_returns.mpr returns))

theorem Traps.halts {module : Module} {state final : State} {trap : Trap}
    (traps : Traps module state trap final) :
    ∃ count, Halts module count state (.error trap final) := by
  obtain ⟨last, reaches, step⟩ := traps
  exact halts_of_reaches reaches (.trapped last final trap step)

theorem Halts.reaches {module : Module} {count : Nat} {state : State}
    {result : EStateM.Result Trap State Unit} (halts : Halts module count state result) :
    ∃ last, Reaches module state last ∧ Halts module 0 last result := by
  induction halts with
  | returned state final step => exact ⟨state, .refl, .returned state final step⟩
  | trapped state final trap step => exact ⟨state, .refl, .trapped state final trap step⟩
  | onward count state next result step rest inductionHypothesis =>
      obtain ⟨last, reaches, ending⟩ := inductionHypothesis
      exact ⟨last, .head (moves_of_advance step) reaches, ending⟩

theorem Halts.ends {module : Module} {count : Nat} {state final : State}
    (halts : Halts module count state (.ok () final)) : Ends module state final := by
  obtain ⟨last, reaches, ending⟩ := halts.reaches
  cases ending with
  | returned _ _ step => exact ⟨last, reaches, advance_returns.mp step⟩

theorem Halts.traps {module : Module} {count : Nat} {state final : State} {trap : Trap}
    (halts : Halts module count state (.error trap final)) : Traps module state trap final := by
  obtain ⟨last, reaches, ending⟩ := halts.reaches
  cases ending with
  | trapped _ _ _ step => exact ⟨last, reaches, step⟩

/-- A run stops in one way only. -/
theorem Halts.unique {module : Module} {first second : Nat} {state : State}
    {left right : EStateM.Result Trap State Unit} (one : Halts module first state left)
    (other : Halts module second state right) : first = second ∧ left = right := by
  induction one generalizing second with
  | returned state final step =>
      cases other with
      | returned _ _ again => exact ⟨rfl, by simp_all⟩
      | trapped _ _ _ again => simp [step] at again
      | onward _ _ _ _ again _ => simp [step] at again
  | trapped state final trap step =>
      cases other with
      | returned _ _ again => simp [step] at again
      | trapped _ _ _ again => exact ⟨rfl, by simp_all⟩
      | onward _ _ _ _ again _ => simp [step] at again
  | onward count state next result step rest inductionHypothesis =>
      cases other with
      | returned _ _ again => simp [step] at again
      | trapped _ _ _ again => simp [step] at again
      | onward _ _ other _ again remaining =>
          have same : next = other := by
            rw [step] at again
            injection again
          subst same
          obtain ⟨counts, results⟩ := inductionHypothesis remaining
          exact ⟨by omega, results⟩

/-! ### The limit -/

/-- A transition that traps leaves the state as it was, but for the instruction that it
took. -/
theorem advance_traps {module : Module} {state final : State} {trap : Trap}
    (step : advance module state = .error trap final) :
    (state.frame.pending = [] ∧ final = state) ∨
      ∃ instruction rest, state.frame.pending = instruction :: rest ∧
        final = state.fetched rest := by
  cases located : state.frame.position with
  | mk pending terminator? =>
      have idle : state.frame.pending = pending := congrArg Position.pending located
      cases pending with
      | cons instruction rest =>
          refine .inr ⟨instruction, rest, idle, ?_⟩
          by_cases calls : Instruction.isCall instruction = true
          · cases instruction <;> simp [Instruction.isCall] at calls
            rename_i name arguments
            rw [advance_call module state name arguments rest idle] at step
            repeat' split at step
            all_goals cases step
            all_goals rfl
          · have plain : Instruction.isCall instruction = false := by simpa using calls
            rw [advance_effect module state instruction rest idle plain] at step
            split at step <;> cases step
            rfl
      | nil =>
          refine .inl ⟨idle, ?_⟩
          rcases terminator? with _ | target | ⟨condition, onTrue, onFalse, hint?⟩ | _
          · rw [advance_unterminated module state located] at step
            cases step
            rfl
          · rw [advance_jump module state target located] at step
            split at step <;> cases step
            rfl
          · rw [advance_branch module state condition onTrue onFalse hint? located] at step
            repeat' split at step
            all_goals cases step
            all_goals rfl
          · rw [advance_leave module state located] at step
            split at step <;> cases step

theorem Halts.steps_le {module : Module} {count : Nat} {state : State}
    {result : EStateM.Result Trap State Unit} (halts : Halts module count state result) :
    state.steps ≤ (stateOf result).steps := by
  induction halts with
  | returned state final step =>
      obtain ⟨_, _, rfl⟩ := advance_returns.mp step
      exact Nat.le_refl _
  | trapped state final trap step =>
      rcases advance_traps step with ⟨_, rfl⟩ | ⟨instruction, rest, _, rfl⟩
      · exact Nat.le_refl _
      · exact Nat.le_succ _
  | onward count state next result step rest inductionHypothesis =>
      exact Nat.le_trans (moves_of_advance step).steps_le inductionHypothesis

/-- A run that stops within the limit may begin its next instruction. -/
theorem Halts.room {module : Module} {count : Nat} {state : State}
    {result : EStateM.Result Trap State Unit} (halts : Halts module count state result)
    {limit : Nat} (within : (stateOf result).steps ≤ limit) :
    state.steps < limit ∨ state.frame.pending = [] := by
  cases halts with
  | returned _ final step =>
      obtain ⟨located, _, _⟩ := advance_returns.mp step
      exact .inr (congrArg Position.pending located)
  | trapped _ final trap step =>
      rcases advance_traps step with ⟨idle, _⟩ | ⟨instruction, rest, _, rfl⟩
      · exact .inr idle
      · exact .inl within
  | onward count _ next _ step rest =>
      have later := rest.steps_le
      rcases (moves_of_advance step).steps with ⟨idle, _⟩ | ⟨_, more⟩
      · exact .inr idle
      · exact .inl (by omega)

/-- With enough patience a run goes as it would without a limit, if it stops within the
limit. -/
theorem run_of_halts (program : Program) {count : Nat} {state : State}
    {result : EStateM.Result Trap State Unit} (halts : Halts program.module count state result)
    (within : (stateOf result).steps ≤ program.limit) (patience : Nat)
    (patient : count < patience) : run program patience state = result := by
  induction halts generalizing patience with
  | returned state final step =>
      obtain ⟨patience, rfl⟩ := Nat.exists_eq_add_of_lt patient
      have room := (Halts.returned state final step).room within
      simp only [run, transition_of_room program state room, step]
  | trapped state final trap step =>
      obtain ⟨patience, rfl⟩ := Nat.exists_eq_add_of_lt patient
      have room := (Halts.trapped state final trap step).room within
      simp only [run, transition_of_room program state room, step]
  | onward count state next result step rest inductionHypothesis =>
      have room := (Halts.onward count state next result step rest).room within
      cases patience with
      | zero => omega
      | succ patience =>
          simp only [run, transition_of_room program state room, step]
          exact inductionHypothesis within patience (by omega)

/-- How a run with a limit goes, unless the limit or the patience ends it. -/
theorem halts_of_run (program : Program) (patience : Nat) (state : State)
    (result : EStateM.Result Trap State Unit)
    (ran : run program patience state = result)
    (free : ∀ final, result ≠ .error .stepLimit final ∧ result ≠ .error .endless final)
    (begun : state.steps ≤ program.limit) :
    ∃ count, Halts program.module count state result ∧
      (stateOf result).steps ≤ program.limit := by
  induction patience generalizing state with
  | zero => exact absurd ran.symm (free state).2
  | succ patience inductionHypothesis =>
      have room : state.steps < program.limit ∨ state.frame.pending = [] := by
        cases found : state.frame.pending with
        | nil => exact .inr rfl
        | cons instruction rest =>
            by_cases below : state.steps < program.limit
            · exact .inl below
            · have full := transition_at_limit program state instruction rest found
                (Nat.not_lt.mp below)
              simp only [run, full] at ran
              exact absurd ran.symm (free state).1
      simp only [run, transition_of_room program state room] at ran
      cases step : advance program.module state with
      | error trap final =>
          simp only [step] at ran
          subst ran
          refine ⟨0, .trapped state final trap step, ?_⟩
          rcases advance_traps step with ⟨_, rfl⟩ | ⟨instruction, rest, found, rfl⟩
          · exact begun
          · rcases room with below | idle
            · exact below
            · simp [idle] at found
      | ok goes next =>
          cases goes with
          | false =>
              simp only [step] at ran
              subst ran
              obtain ⟨_, _, rfl⟩ := advance_returns.mp step
              exact ⟨0, .returned state _ step, begun⟩
          | true =>
              simp only [step] at ran
              have still : next.steps ≤ program.limit := by
                rcases (moves_of_advance step).steps with ⟨_, same⟩ | ⟨busy, more⟩
                · omega
                · rcases room with below | idle
                  · omega
                  · exact absurd idle busy
              obtain ⟨count, rest, within⟩ := inductionHypothesis next ran still
              exact ⟨count + 1, .onward count state next result step rest, within⟩

/-! ### Patience -/

/-- No function in use has more than `bound` blocks. -/
def Bounded (bound : Nat) (state : State) : Prop :=
  ∀ frame ∈ state.frame :: state.callers, frame.function.blocks.length ≤ bound

theorem function_of_enter {function : Function} {slots : List Slot} {floor : Nat} {frame : Frame}
    (entered : Frame.enter function slots floor = .ok frame) : frame.function = function := by
  simp only [Frame.enter, bind, Except.bind] at entered
  split at entered
  · cases entered
  · split at entered
    · cases entered
    · cases entered
      rfl

theorem floor_of_enter {function : Function} {slots : List Slot} {floor : Nat} {frame : Frame}
    (entered : Frame.enter function slots floor = .ok frame) : frame.floor = floor := by
  simp only [Frame.enter, bind, Except.bind] at entered
  split at entered
  · cases entered
  · split at entered
    · cases entered
    · cases entered
      rfl

theorem Moves.bounded {module : Module} {bound : Nat} {state next : State}
    (small : ∀ function ∈ module.functions, function.blocks.length ≤ bound)
    (moves : Moves module state next) (bounded : Bounded bound state) : Bounded bound next := by
  intro frame member
  cases moves with
  | effect instruction rest outcome found plain done =>
      rcases List.mem_cons.mp member with rfl | waiting
      · have same := bounded state.frame (List.mem_cons_self ..)
        rcases outcome with ⟨memory, _ | ⟨register, slot⟩⟩
        · exact same
        · exact same
      · exact bounded frame (List.mem_cons_of_mem _ waiting)
  | call name arguments rest function slots entered found named passed begun =>
      rcases List.mem_cons.mp member with rfl | waiting
      · have same := function_of_enter begun
        have limited := small function (List.mem_of_find?_eq_some named)
        rw [← same] at limited
        exact limited
      · rcases List.mem_cons.mp waiting with rfl | outer
        · exact bounded state.frame (List.mem_cons_self ..)
        · exact bounded frame (List.mem_cons_of_mem _ outer)
  | jump target block found known =>
      rcases List.mem_cons.mp member with rfl | waiting
      · exact bounded state.frame (List.mem_cons_self ..)
      · exact bounded frame (List.mem_cons_of_mem _ waiting)
  | branch condition onTrue onFalse hint? value block found decided known =>
      rcases List.mem_cons.mp member with rfl | waiting
      · exact bounded state.frame (List.mem_cons_self ..)
      · exact bounded frame (List.mem_cons_of_mem _ waiting)
  | leave caller callers found waiting =>
      refine bounded frame (List.mem_cons_of_mem _ ?_)
      rw [waiting]
      exact member

theorem mem_of_blockOf {function : Function} {id : BlockId} {block : Block}
    (found : Frame.blockOf? function id = some block) : block ∈ function.blocks ∧ block.id = id := by
  have general : ∀ (blocks : List Block) (start : Option Block),
      blocks.foldl (fun found block => if block.id = id then some block else found) start =
        some block → start = some block ∨ (block ∈ blocks ∧ block.id = id) := by
    intro blocks
    induction blocks with
    | nil => exact fun start same => .inl same
    | cons head rest inductionHypothesis =>
        intro start same
        rcases inductionHypothesis _ same with here | ⟨later, named⟩
        · simp only at here
          by_cases matching : head.id = id
          · rw [if_pos matching] at here
            cases here
            exact .inr ⟨List.mem_cons_self .., matching⟩
          · rw [if_neg matching] at here
            exact .inl here
        · exact .inr ⟨List.mem_cons_of_mem _ later, named⟩
  rcases general function.blocks none found with impossible | known
  · cases impossible
  · exact known

/-- So many moves lead from one state to another. -/
inductive Chain (module : Module) : Nat → State → State → Prop where
  | still (state : State) : Chain module 0 state state
  | onward (count : Nat) (state next final : State) (moves : Moves module state next)
      (rest : Chain module count next final) : Chain module (count + 1) state final

theorem Chain.reaches {module : Module} {count : Nat} {state final : State}
    (chain : Chain module count state final) : Reaches module state final := by
  induction chain with
  | still state => exact .refl
  | onward count state next final moves rest inductionHypothesis =>
      exact .head moves inductionHypothesis

/-- Of the states that are met within so many instructions none is met twice. -/
def Onward (module : Module) (limit : Nat) (state : State) : Prop :=
  ∀ again, Reaches module state again → again.steps ≤ limit →
    ¬ Relation.TransGen (Moves module) again again

theorem Onward.reaches {module : Module} {limit : Nat} {state next : State}
    (onward : Onward module limit state) (reaches : Reaches module state next) :
    Onward module limit next :=
  fun again further => onward again (reaches.trans further)

/-- The number of moves of a run that meets no state twice.  `seen` are the blocks that were
entered since the last instruction or return: entering one of them again would bring the run
back to a state that it has left. -/
theorem Chain.count_le {module : Module} {bound : Nat}
    (small : ∀ function ∈ module.functions, function.blocks.length ≤ bound)
    {count : Nat} {state final : State} (chain : Chain module count state final)
    (onward : Onward module final.steps state) (bounded : Bounded bound state)
    (seen : List Block) (distinct : seen.Nodup)
    (known : ∀ block ∈ seen, block ∈ state.frame.function.blocks)
    (entered : ∀ block ∈ seen, Reaches module (state.goto block) state) :
    count + seen.length ≤
      (bound + 1) * (2 * (final.steps - state.steps) + state.callers.length + 1) := by
  have few : seen.length ≤ bound :=
    Nat.le_trans (List.subperm_of_subset distinct known).length_le
      (bounded state.frame (List.mem_cons_self ..))
  induction chain generalizing seen with
  | still state =>
      exact Nat.le_trans (by omega) (Nat.le_mul_of_pos_right (bound + 1) (Nat.succ_pos _))
  | onward count state next final moves rest inductionHypothesis =>
      have later := rest.reaches.steps_le
      have stillOnward := onward.reaches (.single moves)
      have stillBounded := moves.bounded small bounded
      have afresh := inductionHypothesis stillOnward stillBounded [] List.nodup_nil (by simp)
        (by simp) (Nat.zero_le _)
      have entering : ∀ block ∈ state.frame.function.blocks, next = state.goto block →
          count + 1 + seen.length ≤
            (bound + 1) * (2 * (final.steps - state.steps) + state.callers.length + 1) := by
        rintro block member rfl
        have unseen : block ∉ seen := by
          intro again
          exact onward _ (.single moves) later (.tail' (entered block again) moves)
        have longer : (block :: seen).length ≤ bound :=
          Nat.le_trans
            (List.subperm_of_subset (List.nodup_cons.mpr ⟨unseen, distinct⟩)
              (List.cons_subset.mpr ⟨member, known⟩)).length_le
            (bounded state.frame (List.mem_cons_self ..))
        have further := inductionHypothesis stillOnward stillBounded (block :: seen)
          (List.nodup_cons.mpr ⟨unseen, distinct⟩)
          (by
            intro other listed
            rcases List.mem_cons.mp listed with rfl | old
            · exact member
            · exact known other old)
          (by
            intro other listed
            rcases List.mem_cons.mp listed with rfl | old
            · exact .refl
            · exact .tail (entered other old) moves)
          longer
        simp only [List.length_cons] at further
        have steps : (state.goto block).steps = state.steps := rfl
        have callers : (state.goto block).callers = state.callers := rfl
        rw [steps, callers] at further
        omega
      cases moves with
      | effect instruction taken outcome found plain done =>
          have steps : ((state.fetched taken).after outcome).steps = state.steps + 1 := rfl
          have callers : ((state.fetched taken).after outcome).callers = state.callers := rfl
          rw [steps] at later afresh
          rw [callers] at afresh
          obtain ⟨left, total⟩ := Nat.exists_eq_add_of_le later
          have now : final.steps - state.steps = left + 1 := by omega
          have then' : final.steps - (state.steps + 1) = left := by omega
          rw [now]
          rw [then'] at afresh
          have split : (bound + 1) * (2 * (left + 1) + state.callers.length + 1) =
              (bound + 1) * (2 * left + state.callers.length + 1) + 2 * (bound + 1) := by ring
          simp only [List.length_nil] at afresh
          omega
      | call name arguments taken function slots frame found named passed begun =>
          have steps : ((state.fetched taken).entered frame).steps = state.steps + 1 := rfl
          have callers : ((state.fetched taken).entered frame).callers.length =
              state.callers.length + 1 := rfl
          rw [steps] at later afresh
          rw [callers] at afresh
          obtain ⟨left, total⟩ := Nat.exists_eq_add_of_le later
          have now : final.steps - state.steps = left + 1 := by omega
          have then' : final.steps - (state.steps + 1) = left := by omega
          rw [now]
          rw [then'] at afresh
          have split : (bound + 1) * (2 * (left + 1) + state.callers.length + 1) =
              (bound + 1) * (2 * left + (state.callers.length + 1) + 1) + (bound + 1) := by ring
          simp only [List.length_nil] at afresh
          omega
      | jump target block found named =>
          exact entering block (mem_of_blockOf named).1 rfl
      | branch condition onTrue onFalse hint? value block found decided named =>
          exact entering block (mem_of_blockOf named).1 rfl
      | leave caller callers found waiting =>
          rw [waiting, List.length_cons]
          have split : (bound + 1) *
                (2 * (final.steps - state.steps) + (callers.length + 1) + 1) =
              (bound + 1) * (2 * (final.steps - state.steps) + callers.length + 1) +
                (bound + 1) := by ring
          have same : (State.released state).steps = state.steps := rfl
          simp only [List.length_nil, same] at afresh
          omega

theorem Halts.chain {module : Module} {count : Nat} {state : State}
    {result : EStateM.Result Trap State Unit} (halts : Halts module count state result) :
    ∃ last, Chain module count state last ∧ last.steps ≤ (stateOf result).steps := by
  induction halts with
  | returned state final step =>
      exact ⟨state, .still state, (Halts.returned state final step).steps_le⟩
  | trapped state final trap step =>
      exact ⟨state, .still state, (Halts.trapped state final trap step).steps_le⟩
  | onward count state next result step rest inductionHypothesis =>
      obtain ⟨last, chain, within⟩ := inductionHypothesis
      exact ⟨last, .onward count state next last (moves_of_advance step) chain, within⟩

/-- What a state comes to stops as the state does, and later states stop sooner. -/
theorem Halts.after {module : Module} {state next : State} (reaches : Reaches module state next)
    {count : Nat} {result : EStateM.Result Trap State Unit}
    (halts : Halts module count state result) : ∃ left ≤ count, Halts module left next result := by
  induction reaches with
  | refl => exact ⟨count, Nat.le_refl _, halts⟩
  | tail _ moves inductionHypothesis =>
      obtain ⟨left, fewer, rest⟩ := inductionHypothesis
      have step := advance_of_moves moves
      cases rest with
      | returned _ _ again => simp [step] at again
      | trapped _ _ _ again => simp [step] at again
      | onward left _ other _ again remaining =>
          rw [step] at again
          cases again
          exact ⟨left, by omega, remaining⟩

/-- A run that stops meets no state twice. -/
theorem Halts.meets_once {module : Module} {count : Nat} {state : State}
    {result : EStateM.Result Trap State Unit} (halts : Halts module count state result)
    (limit : Nat) : Onward module limit state := by
  intro again reaches _ cycle
  obtain ⟨left, _, rest⟩ := halts.after reaches
  obtain ⟨next, moves, back⟩ := Relation.TransGen.head'_iff.mp cycle
  cases rest with
  | returned _ _ step => simp [advance_of_moves moves] at step
  | trapped _ _ _ step => simp [advance_of_moves moves] at step
  | onward left _ other _ step remaining =>
      rw [advance_of_moves moves] at step
      cases step
      obtain ⟨fewer, less, round'⟩ := remaining.after back
      have := (round'.unique (.onward left again next result (advance_of_moves moves) remaining)).1
      omega

private theorem le_foldl_max (sizes : List Nat) (start size : Nat)
    (member : size ∈ sizes ∨ size ≤ start) : size ≤ sizes.foldl max start := by
  induction sizes generalizing start with
  | nil => simpa using member
  | cons head rest inductionHypothesis =>
      refine inductionHypothesis (max start head) ?_
      rcases member with listed | small
      · rcases List.mem_cons.mp listed with rfl | later
        · exact .inr (Nat.le_max_right _ _)
        · exact .inl later
      · exact .inr (Nat.le_trans small (Nat.le_max_left _ _))

/-- The first state of a run has no waiting frame and has begun no instruction. -/
structure Fresh (module : Module) (state : State) : Prop where
  alone : state.callers = []
  steps : state.steps = 0
  known : state.frame.function ∈ module.functions

/-- The number of moves of a whole run that meets no state twice. -/
theorem Fresh.count_le {module : Module} {count : Nat} {state final : State}
    (fresh : Fresh module state) (chain : Chain module count state final)
    (onward : Onward module final.steps state) :
    count ≤
      ((module.functions.map fun function => function.blocks.length).foldl max 0 + 1) *
        (2 * final.steps + 1) := by
  have small : ∀ function ∈ module.functions, function.blocks.length ≤
      (module.functions.map fun function => function.blocks.length).foldl max 0 := by
    intro function member
    exact le_foldl_max _ 0 _ (.inl (List.mem_map.mpr ⟨function, member, rfl⟩))
  have bounded : Bounded
      ((module.functions.map fun function => function.blocks.length).foldl max 0) state := by
    intro frame member
    rw [fresh.alone, List.mem_singleton] at member
    subst member
    exact small _ fresh.known
  have moves := chain.count_le small onward bounded [] List.nodup_nil (by simp) (by simp)
  rwa [fresh.alone, fresh.steps] at moves

/-- A whole run within the limit that meets no state twice does not use up the patience. -/
theorem Fresh.count_lt_patience {program : Program} {count : Nat} {state final : State}
    (fresh : Fresh program.module state) (chain : Chain program.module count state final)
    (onward : Onward program.module final.steps state) (within : final.steps ≤ program.limit) :
    count < program.patience := by
  have moves := fresh.count_le chain onward
  have grown := Nat.mul_le_mul_left
    ((program.module.functions.map fun function => function.blocks.length).foldl max 0 + 1)
    (show 2 * final.steps + 1 ≤ 2 * program.limit + 1 by omega)
  have split : ∀ bound : Nat, (2 * program.limit + 3) * (bound + 1) =
      (bound + 1) * (2 * program.limit + 1) + 2 * (bound + 1) := by
    intro bound
    ring
  rw [Program.patience, split]
  omega

/-- A run that does not stop within the limit comes to an instruction that it may not begin. -/
theorem Halts.limited {program : Program} {count : Nat} {state : State}
    {result : EStateM.Result Trap State Unit} (halts : Halts program.module count state result)
    (begun : state.steps ≤ program.limit) (beyond : program.limit < (stateOf result).steps) :
    ∃ moves last, Chain program.module moves state last ∧ last.steps ≤ program.limit ∧
      transition program last = .error .stepLimit last := by
  have full : ∀ state : State, state.frame.pending ≠ [] → program.limit < state.steps + 1 →
      transition program state = .error .stepLimit state := by
    intro state busy spent
    obtain ⟨instruction, rest, found⟩ := List.exists_cons_of_ne_nil busy
    exact transition_at_limit program state instruction rest found (Nat.le_of_lt_succ spent)
  induction halts with
  | returned state final step =>
      obtain ⟨_, _, rfl⟩ := advance_returns.mp step
      exact absurd begun (Nat.not_le.mpr beyond)
  | trapped state final trap step =>
      rcases advance_traps step with ⟨_, rfl⟩ | ⟨instruction, rest, found, rfl⟩
      · exact absurd begun (Nat.not_le.mpr beyond)
      · exact ⟨0, state, .still state, begun,
          full state (by rw [found]; exact List.cons_ne_nil _ _) beyond⟩
  | onward count state next result step rest inductionHypothesis =>
      have moves := moves_of_advance step
      by_cases within : next.steps ≤ program.limit
      · obtain ⟨further, last, chain, reached, stopped⟩ := inductionHypothesis within beyond
        exact ⟨further + 1, last, .onward further state next last moves chain, reached, stopped⟩
      · rcases moves.steps with ⟨_, same⟩ | ⟨busy, more⟩
        · exact absurd (same ▸ begun) within
        · exact ⟨0, state, .still state, begun, full state busy (more ▸ Nat.not_le.mp within)⟩

/-- A move that stays within the limit is a transition of the program. -/
theorem transition_of_moves {program : Program} {state next : State}
    (moves : Moves program.module state next) (within : next.steps ≤ program.limit) :
    transition program state = .ok true next := by
  have room : state.steps < program.limit ∨ state.frame.pending = [] := by
    rcases moves.steps with ⟨idle, _⟩ | ⟨_, more⟩
    · exact .inr idle
    · exact .inl (by omega)
  rw [transition_of_room program state room]
  exact advance_of_moves moves

/-- A chain of moves within the limit is run as it is. -/
theorem run_of_chain {program : Program} {moves : Nat} {state last : State}
    (chain : Chain program.module moves state last) (within : last.steps ≤ program.limit)
    {trap : Trap} {final : State} (stopped : transition program last = .error trap final)
    {patience : Nat} (patient : moves < patience) :
    run program patience state = .error trap final := by
  induction chain generalizing patience with
  | still state =>
      obtain ⟨patience, rfl⟩ := Nat.exists_eq_add_of_lt patient
      simp only [run, stopped]
  | onward count state next last moves rest inductionHypothesis =>
      obtain ⟨patience, rfl⟩ := Nat.exists_eq_add_of_lt patient
      have below := Nat.le_trans rest.reaches.steps_le within
      simp only [run, transition_of_moves moves below]
      exact inductionHypothesis within stopped (by omega)

/-- A whole run that does not stop within the limit is stopped by it. -/
theorem Fresh.run_limited {program : Program} {state : State} (fresh : Fresh program.module state)
    {count : Nat} {result : EStateM.Result Trap State Unit}
    (halts : Halts program.module count state result)
    (beyond : program.limit < (stateOf result).steps) :
    ∃ last, run program program.patience state = .error .stepLimit last := by
  obtain ⟨moves, last, chain, within, stopped⟩ :=
    halts.limited (fresh.steps ▸ Nat.zero_le _) beyond
  exact ⟨last, run_of_chain chain within stopped
    (fresh.count_lt_patience chain (halts.meets_once _) within)⟩

/-- A run of a program is a run without limit that stops within the limit. -/
theorem run_iff (program : Program) (state : State) (fresh : Fresh program.module state)
    (result : EStateM.Result Trap State Unit)
    (free : ∀ final, result ≠ .error .stepLimit final ∧ result ≠ .error .endless final) :
    run program program.patience state = result ↔
      (∃ count, Halts program.module count state result) ∧
        (stateOf result).steps ≤ program.limit := by
  constructor
  · intro ran
    obtain ⟨count, halts, within⟩ := halts_of_run program program.patience state result ran free
      (by rw [fresh.steps]; exact Nat.zero_le _)
    exact ⟨⟨count, halts⟩, within⟩
  · rintro ⟨⟨count, halts⟩, within⟩
    obtain ⟨last, chain, below⟩ := halts.chain
    exact run_of_halts program halts within program.patience
      (fresh.count_lt_patience chain (halts.meets_once _) (Nat.le_trans below within))

end TensorGraph.Machine

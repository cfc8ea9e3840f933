/-
Runs inside one call.

A call of a function stays where it is while the functions that it calls run.
Part of the blocks of a function that is left at one place only is not left in
any other way, so a run to a place outside goes through that one.
-/

import TensorGraph.Proofs.Machine.Run

namespace TensorGraph.Machine

open Code

/-- The frames below `floor` wait until the call above them returns; before that the run gets to
where it stops, for the first time, after so many moves. -/
inductive Until (module : Module) (floor : List Frame) (stop : State → Prop) :
    Nat → State → State → Prop where
  | here {state : State} (alive : floor <:+ state.callers) (stops : stop state) :
      Until module floor stop 0 state state
  | onward {count : Nat} {state next final : State} (alive : floor <:+ state.callers)
      (passes : ¬stop state) (moves : Moves module state next)
      (rest : Until module floor stop count next final) :
      Until module floor stop (count + 1) state final

theorem Until.alive {module : Module} {floor : List Frame} {stop : State → Prop} {count : Nat}
    {state final : State} (run : Until module floor stop count state final) :
    floor <:+ state.callers := by
  cases run with
  | here alive stops => exact alive
  | onward alive passes moves rest => exact alive

theorem Until.stops {module : Module} {floor : List Frame} {stop : State → Prop} {count : Nat}
    {state final : State} (run : Until module floor stop count state final) : stop final := by
  induction run with
  | here alive stops => exact stops
  | onward alive passes moves rest ih => exact ih

theorem Until.reaches {module : Module} {floor : List Frame} {stop : State → Prop} {count : Nat}
    {state final : State} (run : Until module floor stop count state final) :
    Reaches module state final := by
  induction run with
  | here alive stops => exact .refl
  | onward alive passes moves rest ih => exact .head moves ih

/-- The call stands in a block. -/
def AtBlock (floor : List Frame) (id : BlockId) (state : State) : Prop :=
  state.callers = floor ∧ state.frame.block.id = id

/-- The call has run all instructions of a block. -/
def AtEnd (floor : List Frame) (id : BlockId) (state : State) : Prop :=
  AtBlock floor id state ∧ state.frame.pending = []

/-- The call stands in one of some blocks, itself or with other calls above it. -/
def Inside (function : Function) (owned : Nat → Prop) (floor : List Frame) (state : State) :
    Prop :=
  ∃ deeper frame, state.frame :: state.callers = deeper ++ frame :: floor ∧
    frame.function = function ∧
    Frame.blockOf? function frame.block.id = some frame.block ∧ owned frame.block.id

/-- Some blocks lead only to each other, except for one of them. -/
def Confined (function : Function) (owned : Nat → Prop) (last : BlockId) : Prop :=
  ∀ id, owned id → id ≠ last → ∀ block, Frame.blockOf? function id = some block →
    ∀ terminator, block.terminator? = some terminator →
      ∀ target ∈ terminator.successors, owned target

section Moves

variable {module : Module} {state next final : State}

/-- A move stays in the block, follows a branch, begins a call or ends one. -/
theorem Moves.frames (moves : Moves module state next) :
    (next.callers = state.callers ∧ next.frame.function = state.frame.function ∧
      next.frame.block = state.frame.block) ∨
    (next.callers = state.callers ∧ next.frame.function = state.frame.function ∧
      state.frame.pending = [] ∧ ∃ terminator target,
        state.frame.block.terminator? = some terminator ∧ target ∈ terminator.successors ∧
        Frame.blockOf? state.frame.function target = some next.frame.block) ∨
    (∃ waiting, next.callers = waiting :: state.callers ∧
      waiting.function = state.frame.function ∧ waiting.block = state.frame.block) ∨
    state.callers = next.frame :: next.callers := by
  cases moves with
  | effect instruction rest outcome found plain done =>
      exact .inl ⟨rfl, function_defining _ _, block_defining _ _⟩
  | call name arguments rest function slots frame found named passed begun =>
      exact .inr (.inr (.inl ⟨_, rfl, rfl, rfl⟩))
  | jump target block found known =>
      obtain ⟨idle, closed⟩ := Position.mk.injEq .. ▸ found
      exact .inr (.inl ⟨rfl, rfl, idle, _, target, closed, List.mem_singleton.mpr rfl, known⟩)
  | branch condition onTrue onFalse hint? value block found decided known =>
      obtain ⟨idle, closed⟩ := Position.mk.injEq .. ▸ found
      refine .inr (.inl ⟨rfl, rfl, idle, _, _, closed, ?_, known⟩)
      split <;> simp [Terminator.successors]
  | leave caller callers found waiting => exact .inr (.inr (.inr waiting))

/-- A block that ends with a jump goes on in one way. -/
theorem moves_of_jump {target : BlockId} {block : Block}
    (found : state.frame.position = ⟨[], some (.jump target)⟩)
    (known : Frame.blockOf? state.frame.function target = some block) :
    Moves module state next ↔ next = state.goto block := by
  rw [← advance_iff, advance_jump module state target found, known]
  simp [eq_comm]

/-- A block that ends with a branch goes on as its condition says. -/
theorem moves_of_branch {condition : Operand} {onTrue onFalse : Block} {hint? : Option LoopHint}
    (found : state.frame.position = ⟨[], some (.branch condition onTrue.id onFalse.id hint?)⟩)
    (known : Frame.blockOf? state.frame.function onTrue.id = some onTrue)
    (known' : Frame.blockOf? state.frame.function onFalse.id = some onFalse) :
    Moves module state next ↔ ∃ value, state.frame.element condition = .ok value ∧
      next = state.goto (if value.isTrue then onTrue else onFalse) := by
  rw [← advance_iff, advance_branch module state condition onTrue.id onFalse.id hint? found]
  cases state.frame.element condition with
  | error trap => simp
  | ok value =>
      have chosen : Frame.blockOf? state.frame.function
          (if value.isTrue then onTrue.id else onFalse.id) =
          some (if value.isTrue then onTrue else onFalse) := by
        split <;> assumption
      simp only [chosen, EStateM.Result.ok.injEq, true_and, Except.ok.injEq, exists_eq_left']
      exact eq_comm

end Moves

namespace Inside

variable {module : Module} {function : Function} {owned : Nat → Prop} {floor : List Frame}
  {state next final : State} {last : BlockId} {stop : State → Prop} {count : Nat}

/-- At the level of the call, its frame is the one that runs. -/
theorem running (inside : Inside function owned floor state) (level : state.callers = floor) :
    state.frame.function = function ∧
      Frame.blockOf? function state.frame.block.id = some state.frame.block ∧
      owned state.frame.block.id := by
  obtain ⟨deeper, frame, stack, rest⟩ := inside
  rcases deeper with _ | ⟨top, deeper⟩
  · rw [List.nil_append, List.cons.injEq] at stack
    rw [stack.1]
    exact rest
  · rw [List.cons_append, List.cons.injEq, level] at stack
    have length := congrArg List.length stack.2
    simp only [List.length_append, List.length_cons] at length
    omega

theorem of_running (level : state.callers = floor) (same : state.frame.function = function)
    (known : Frame.blockOf? function state.frame.block.id = some state.frame.block)
    (within : owned state.frame.block.id) : Inside function owned floor state :=
  ⟨[], state.frame, by rw [level]; rfl, same, known, within⟩

/-- The blocks are left only at the end of the last of them, or when the call returns. -/
theorem moves (inside : Inside function owned floor state)
    (confined : Confined function owned last) (before : ¬AtEnd floor last state)
    (moves : Moves module state next) (alive : floor <:+ next.callers) :
    Inside function owned floor next := by
  rcases moves.frames with ⟨level, same, block⟩ | ⟨level, same, idle, terminator, target, closed,
      leads, known⟩ | ⟨waiting, level, same, block⟩ | level
  case inl =>
    obtain ⟨deeper, frame, stack, here, found, within⟩ := inside
    rcases deeper with _ | ⟨top, deeper⟩
    · rw [List.nil_append, List.cons.injEq] at stack
      obtain ⟨rfl, rest⟩ := stack
      rw [← block] at found within
      exact of_running (level.trans rest) (same.trans here) found within
    · rw [List.cons_append, List.cons.injEq] at stack
      exact ⟨next.frame :: deeper, frame, by rw [level, stack.2]; rfl, here, found, within⟩
  case inr.inl =>
    by_cases outermost : state.callers = floor
    · obtain ⟨here, found, within⟩ := inside.running outermost
      have away : state.frame.block.id ≠ last := fun same =>
        before ⟨⟨outermost, same⟩, idle⟩
      rw [here] at known
      have named := (mem_of_blockOf known).2
      have within' := confined _ within away _ found terminator closed target leads
      rw [← named] at known within'
      exact of_running (level.trans outermost) (same.trans here) known within'
    · obtain ⟨deeper, frame, stack, here, found, within⟩ := inside
      rcases deeper with _ | ⟨top, deeper⟩
      · rw [List.nil_append, List.cons.injEq] at stack
        exact absurd stack.2 outermost
      · rw [List.cons_append, List.cons.injEq] at stack
        exact ⟨next.frame :: deeper, frame, by rw [level, stack.2]; rfl, here, found, within⟩
  case inr.inr.inl =>
    obtain ⟨deeper, frame, stack, here, found, within⟩ := inside
    rcases deeper with _ | ⟨top, deeper⟩
    · rw [List.nil_append, List.cons.injEq] at stack
      obtain ⟨rfl, rest⟩ := stack
      rw [← block] at found within
      exact ⟨[next.frame], waiting, by rw [level, rest]; rfl, same.trans here, found, within⟩
    · rw [List.cons_append, List.cons.injEq] at stack
      exact ⟨next.frame :: waiting :: deeper, frame, by rw [level, stack.2]; rfl, here, found,
        within⟩
  case inr.inr.inr =>
    obtain ⟨deeper, frame, stack, here, found, within⟩ := inside
    rcases deeper with _ | ⟨top, deeper⟩
    · rw [List.nil_append, List.cons.injEq, level] at stack
      have longer := alive.length_le
      rw [← stack.2, List.length_cons] at longer
      omega
    · rw [List.cons_append, List.cons.injEq, level] at stack
      exact ⟨deeper, frame, stack.2, here, found, within⟩

/-- A run to the end of the last block stays inside. -/
theorem until_end (run : Until module floor (AtEnd floor last) count state final)
    (confined : Confined function owned last) (inside : Inside function owned floor state) :
    Inside function owned floor final := by
  induction run with
  | here alive stops => exact inside
  | onward alive passes moves rest ih =>
      exact ih (inside.moves confined passes moves rest.alive)

/-- A run to a place outside comes through the end of the last block. -/
theorem through (run : Until module floor stop count state final)
    (confined : Confined function owned last)
    (outside : ∀ state, Inside function owned floor state → ¬stop state)
    (inside : Inside function owned floor state) :
    ∃ first second middle, Until module floor (AtEnd floor last) first state middle ∧
      Until module floor stop second middle final ∧ first + second = count := by
  induction run with
  | here alive stops => exact absurd stops (outside _ inside)
  | onward alive passes moves rest ih =>
      rename_i count state next final
      by_cases ended : AtEnd floor last state
      · exact ⟨0, count + 1, state, .here alive ended, .onward alive passes moves rest,
          Nat.zero_add _⟩
      · obtain ⟨first, second, middle, one, two, sum⟩ :=
          ih (inside.moves confined ended moves rest.alive)
        exact ⟨first + 1, second, middle, .onward alive ended moves one, two, by omega⟩

/-- A run to the end of the last block is the first part of runs to a place outside. -/
theorem prepend {first second : Nat} {middle : State}
    (run : Until module floor (AtEnd floor last) first state middle)
    (confined : Confined function owned last)
    (outside : ∀ state, Inside function owned floor state → ¬stop state)
    (inside : Inside function owned floor state)
    (rest : Until module floor stop second middle final) :
    Until module floor stop (first + second) state final := by
  induction run with
  | here alive stops => rwa [Nat.zero_add]
  | onward alive passes moves more ih =>
      rw [Nat.add_right_comm]
      exact .onward alive (outside _ inside) moves
        (ih (inside.moves confined passes moves more.alive) rest)

end Inside

/-! ### Alternation -/

/-- A condition and a body that take turns: the blocks where they begin, the block where code
goes on, the blocks where they end, and what the condition answers with. -/
structure Alternation where
  condition : Block
  body : Block
  after : Block
  test : BlockId
  back : BlockId
  result : Operand

namespace Alternation

section Turns

variable (alternation : Alternation) (module : Module) (floor : List Frame)

/-- The condition is evaluated, from the start of its block. -/
def Evaluates (state tested : State) (answer : Bool) : Prop :=
  (∃ count, Until module floor (AtEnd floor alternation.test) count
    (state.goto alternation.condition) tested) ∧
  ∃ value, tested.frame.element alternation.result = .ok value ∧ value.isTrue = answer

/-- The body is run, from the start of its block. -/
def Runs (tested turned : State) : Prop :=
  ∃ count, Until module floor (AtEnd floor alternation.back) count
    (tested.goto alternation.body) turned

/-- So many times the condition is evaluated to true and the body is run. -/
inductive Turns : Nat → State → State → Prop where
  | none (state : State) : Turns 0 state state
  | more {count : Nat} {state tested turned final : State}
      (evaluates : alternation.Evaluates module floor state tested true)
      (runs : alternation.Runs module floor tested turned) (rest : Turns count turned final) :
      Turns (count + 1) state final

end Turns

/-- The blocks of a function hold the alternation. -/
structure LiesIn (alternation : Alternation) (function : Function)
    (conditions bodies : Nat → Prop) : Prop where
  condition : Frame.blockOf? function alternation.condition.id = some alternation.condition
  body : Frame.blockOf? function alternation.body.id = some alternation.body
  after : Frame.blockOf? function alternation.after.id = some alternation.after
  entered : conditions alternation.condition.id
  entered' : bodies alternation.body.id
  tests : ∀ block, Frame.blockOf? function alternation.test = some block →
    block.terminator? = some (.branch alternation.result alternation.body.id
      alternation.after.id none)
  returns : ∀ block, Frame.blockOf? function alternation.back = some block →
    block.terminator? = some (.jump alternation.condition.id)
  confined : Confined function conditions alternation.test
  confined' : Confined function bodies alternation.back
  apart : ¬conditions alternation.after.id
  apart' : ¬bodies alternation.after.id

namespace LiesIn

variable {alternation : Alternation} {function : Function} {conditions bodies : Nat → Prop}
  {module : Module} {floor : List Frame} {state tested turned final : State} {count : Nat}

/-- The call is about to evaluate the condition. -/
structure Ready (alternation : Alternation) (function : Function) (floor : List Frame)
    (state : State) : Prop where
  level : state.callers = floor
  function : state.frame.function = function
  position : state.frame.position = ⟨[], some (.jump alternation.condition.id)⟩
  before : state.frame.block.id ≠ alternation.after.id

theorem outside (lies : alternation.LiesIn function conditions bodies) (state : State)
    (inside : Inside function conditions floor state) :
    ¬AtBlock floor alternation.after.id state := by
  rintro ⟨level, here⟩
  exact lies.apart (here ▸ (inside.running level).2.2)

theorem outside' (lies : alternation.LiesIn function conditions bodies) (state : State)
    (inside : Inside function bodies floor state) :
    ¬AtBlock floor alternation.after.id state := by
  rintro ⟨level, here⟩
  exact lies.apart' (here ▸ (inside.running level).2.2)

theorem begins (lies : alternation.LiesIn function conditions bodies)
    (ready : Ready alternation function floor state) {next : State} :
    Moves module state next ↔ next = state.goto alternation.condition := by
  refine moves_of_jump ready.position ?_
  rw [ready.function]
  exact lies.condition

theorem inside_condition (lies : alternation.LiesIn function conditions bodies)
    (ready : Ready alternation function floor state) :
    Inside function conditions floor (state.goto alternation.condition) :=
  .of_running ready.level ready.function lies.condition lies.entered

/-- At the end of the condition the call branches on its answer. -/
theorem decides (lies : alternation.LiesIn function conditions bodies)
    (inside : Inside function conditions floor tested)
    (ended : AtEnd floor alternation.test tested) {next : State} :
    Moves module tested next ↔
      ∃ value, tested.frame.element alternation.result = .ok value ∧
        next = tested.goto (if value.isTrue then alternation.body else alternation.after) := by
  obtain ⟨⟨level, here⟩, idle⟩ := ended
  obtain ⟨function, found, _⟩ := inside.running level
  rw [here] at found
  have position : tested.frame.position = ⟨[], some (.branch alternation.result
      alternation.body.id alternation.after.id none)⟩ := by
    rw [Frame.position, idle, lies.tests _ found]
  refine moves_of_branch position ?_ ?_
  · rw [function]
    exact lies.body
  · rw [function]
    exact lies.after

theorem inside_body (lies : alternation.LiesIn function conditions bodies)
    (inside : Inside function conditions floor tested)
    (ended : AtEnd floor alternation.test tested) :
    Inside function bodies floor (tested.goto alternation.body) :=
  .of_running ended.1.1 (inside.running ended.1.1).1 lies.body lies.entered'

/-- At the end of the body the condition is evaluated again. -/
theorem ready_back (lies : alternation.LiesIn function conditions bodies)
    (inside : Inside function bodies floor turned)
    (ended : AtEnd floor alternation.back turned) :
    Ready alternation function floor turned := by
  obtain ⟨⟨level, here⟩, idle⟩ := ended
  obtain ⟨function, found, within⟩ := inside.running level
  refine ⟨level, function, ?_, ?_⟩
  · rw [here] at found
    rw [Frame.position, idle, lies.returns _ found]
  · intro same
    exact lies.apart' (same ▸ within)

/-- The condition is evaluated before the call goes anywhere else. -/
theorem evaluated (lies : alternation.LiesIn function conditions bodies)
    (ready : Ready alternation function floor state) {answer : Bool}
    (evaluates : alternation.Evaluates module floor state tested answer) :
    Inside function conditions floor tested ∧ AtEnd floor alternation.test tested ∧
      Moves module tested
        (tested.goto (if answer then alternation.body else alternation.after)) ∧
      Reaches module state tested ∧
      ∀ more final, Until module floor (AtBlock floor alternation.after.id) more tested final →
        ∃ total, Until module floor (AtBlock floor alternation.after.id) total state final := by
  obtain ⟨⟨count, run⟩, value, read, rfl⟩ := evaluates
  have entered := lies.inside_condition ready
  have inside := entered.until_end run lies.confined
  have begins : Moves module state (state.goto alternation.condition) :=
    (lies.begins ready).mpr rfl
  refine ⟨inside, run.stops, (lies.decides inside run.stops).mpr ⟨value, read, rfl⟩,
    .head begins run.reaches, ?_⟩
  intro more final rest
  have whole := entered.prepend run lies.confined lies.outside rest
  refine ⟨count + more + 1, .onward ?_ (fun there => ready.before there.2) begins whole⟩
  rw [ready.level]

/-- The body is run before the call goes anywhere else. -/
theorem turn (lies : alternation.LiesIn function conditions bodies)
    (ready : Ready alternation function floor state)
    (evaluates : alternation.Evaluates module floor state tested true)
    (runs : alternation.Runs module floor tested turned) :
    Ready alternation function floor turned ∧ Reaches module state turned ∧
      ∀ more final, Until module floor (AtBlock floor alternation.after.id) more turned final →
        ∃ total, Until module floor (AtBlock floor alternation.after.id) total state final := by
  obtain ⟨inside, ended, moves, reaches, extend⟩ := lies.evaluated ready evaluates
  obtain ⟨count, run⟩ := runs
  have entered := lies.inside_body inside ended
  have inside' := entered.until_end run lies.confined'
  refine ⟨lies.ready_back inside' run.stops, reaches.trans (.head moves run.reaches), ?_⟩
  intro more final rest
  have whole := entered.prepend run lies.confined' lies.outside' rest
  refine extend _ _ (.onward ?_ (lies.outside tested inside) moves whole)
  rw [ended.1.1]

/-- Any number of turns. -/
theorem turns (lies : alternation.LiesIn function conditions bodies)
    (ready : Ready alternation function floor state)
    (turns : alternation.Turns module floor count state turned) :
    Ready alternation function floor turned ∧ Reaches module state turned ∧
      ∀ more final, Until module floor (AtBlock floor alternation.after.id) more turned final →
        ∃ total, Until module floor (AtBlock floor alternation.after.id) total state final := by
  induction turns with
  | none state => exact ⟨ready, .refl, fun more final run => ⟨more, run⟩⟩
  | more evaluates runs rest ih =>
      obtain ⟨ready', reaches, extend⟩ := lies.turn ready evaluates runs
      obtain ⟨ready'', reaches', extend'⟩ := ih ready'
      refine ⟨ready'', reaches.trans reaches', fun more final run => ?_⟩
      obtain ⟨total, run'⟩ := extend' more final run
      exact extend total final run'

/-- Where the call arrives behind the alternation, the condition has just been false. -/
theorem false_of_arrived (lies : alternation.LiesIn function conditions bodies)
    (ready : Ready alternation function floor state)
    (run : Until module floor (AtBlock floor alternation.after.id) count state final) :
    ∃ turns turned tested, alternation.Turns module floor turns state turned ∧
      alternation.Evaluates module floor turned tested false ∧
      final = tested.goto alternation.after := by
  induction count using Nat.strong_induction_on generalizing state with
  | _ count ih =>
    rcases run with ⟨_, there⟩ | ⟨_, _, moves, rest⟩
    · exact absurd there.2 ready.before
    obtain rfl := (lies.begins ready).mp moves
    have entered := lies.inside_condition ready
    obtain ⟨first, second, tested, evaluation, onward, sum⟩ :=
      entered.through rest lies.confined lies.outside
    have inside := entered.until_end evaluation lies.confined
    rcases onward with ⟨_, there⟩ | ⟨_, _, moves', rest'⟩
    · exact absurd there (lies.outside _ inside)
    obtain ⟨value, read, rfl⟩ := (lies.decides inside evaluation.stops).mp moves'
    cases answer : value.isTrue with
    | false =>
        simp only [answer, Bool.false_eq_true, if_false] at rest'
        refine ⟨0, state, tested, .none state, ⟨⟨first, evaluation⟩, value, read, answer⟩, ?_⟩
        rcases rest' with ⟨_, _⟩ | ⟨_, passes, _, _⟩
        · rfl
        · exact absurd ⟨evaluation.stops.1.1, rfl⟩ passes
    | true =>
        simp only [answer, if_true] at rest'
        have entered' := lies.inside_body inside evaluation.stops
        obtain ⟨third, fourth, back, body, onward', sum'⟩ :=
          entered'.through rest' lies.confined' lies.outside'
        have ready' := lies.ready_back (entered'.until_end body lies.confined') body.stops
        obtain ⟨turns, turned, tested', taken, evaluates, same⟩ := ih fourth (by omega) ready' onward'
        exact ⟨turns + 1, turned, tested', .more ⟨⟨first, evaluation⟩, value, read, answer⟩
          ⟨third, body⟩ taken, evaluates, same⟩

/-- The call arrives behind the alternation exactly when the condition is false for the first
time. -/
theorem arrives_iff (lies : alternation.LiesIn function conditions bodies)
    (ready : Ready alternation function floor state) :
    (∃ count, Until module floor (AtBlock floor alternation.after.id) count state final) ↔
      ∃ turns turned tested, alternation.Turns module floor turns state turned ∧
        alternation.Evaluates module floor turned tested false ∧
        final = tested.goto alternation.after := by
  constructor
  · rintro ⟨count, run⟩
    exact lies.false_of_arrived ready run
  · rintro ⟨turns, turned, tested, taken, evaluates, rfl⟩
    obtain ⟨ready', _, extend⟩ := lies.turns ready taken
    obtain ⟨inside, ended, moves, _, extend'⟩ := lies.evaluated ready' evaluates
    have alive : floor <:+ tested.callers := by
      rw [ended.1.1]
    have arrived : Until module floor (AtBlock floor alternation.after.id) 0
        (tested.goto alternation.after) (tested.goto alternation.after) :=
      .here alive ⟨ended.1.1, rfl⟩
    obtain ⟨more, run⟩ := extend' 1 _ (.onward alive (lies.outside tested inside) moves arrived)
    exact extend more _ run

end LiesIn
end Alternation
end TensorGraph.Machine

/-
Calls.

A call prepares a first state, runs from it and reads its buffers back.  Calls
follow one another on the same engine, and what the engine keeps between two of
them is the contents of its globals.
-/

import TensorGraph.Machine.Engine
import TensorGraph.Proofs.Action
import TensorGraph.Proofs.Machine.Run

namespace TensorGraph

open Code Machine

/-! ### Arguments in memory -/

/-- Arguments laid into memory one after the other: a buffer becomes the next allocation. -/
inductive Laid (function : Function) :
    List (Argument × Register) → Memory → List Slot → Memory → Prop where
  | done (memory : Memory) : Laid function [] memory [] memory
  | buffer (storage : Storage) (parameter : Register) (rest : List (Argument × Register))
      (memory laid : Memory) (slots : List Slot)
      (typed : function.typeOf? parameter = some (.pointer storage.dtype))
      (further : Laid function rest (memory.allocate storage.bytes.toArray) slots laid) :
      Laid function ((.buffer storage, parameter) :: rest) memory
        (.pointer memory.nextPointer :: slots) laid
  | scalar (value : Literal) (parameter : Register) (rest : List (Argument × Register))
      (memory laid : Memory) (slots : List Slot)
      (typed : function.typeOf? parameter = some (.element value.dtype))
      (further : Laid function rest memory slots laid) :
      Laid function ((.scalar value, parameter) :: rest) memory (.element value :: slots) laid

/-- The arguments are bound exactly when all of them can be laid into memory. -/
theorem bindArguments_ok {function : Function} {globals position : Nat}
    {pairs : List (Argument × Register)} {memory laid : Memory} {slots : List Slot} :
    Engine.bindArguments function globals position pairs memory = .ok slots laid ↔
      Laid function pairs memory slots laid := by
  constructor
  · intro bound
    induction pairs generalizing position memory slots with
    | nil =>
        cases bound
        exact .done _
    | cons pair pairs inductionHypothesis =>
        obtain ⟨argument, parameter⟩ := pair
        cases typed : function.typeOf? parameter with
        | none =>
            simp only [Engine.bindArguments, typed] at bound
            cases bound
        | some type =>
            simp only [Engine.bindArguments, typed] at bound
            rcases argument with storage | value <;> rcases type with dtype | dtype
            · cases bound
            · simp only at bound
              split at bound
              · rename_i same
                subst same
                obtain ⟨_, _, allocated, bound⟩ := Action.bind_ok.mp bound
                cases allocated
                obtain ⟨others, _, inner, bound⟩ := Action.bind_ok.mp bound
                cases bound
                exact .buffer storage parameter pairs memory laid others typed
                  (inductionHypothesis inner)
              · cases bound
            · simp only at bound
              split at bound
              · rename_i same
                subst same
                obtain ⟨others, _, inner, bound⟩ := Action.bind_ok.mp bound
                cases bound
                exact .scalar value parameter pairs memory laid others typed
                  (inductionHypothesis inner)
              · cases bound
            · cases bound
  · intro all
    induction all generalizing position with
    | done memory => rfl
    | buffer storage parameter rest memory laid slots typed _ inductionHypothesis =>
        simp only [Engine.bindArguments, typed, if_pos]
        refine Action.bind_ok.mpr ⟨_, _, rfl, ?_⟩
        exact Action.bind_ok.mpr ⟨_, _, inductionHypothesis, rfl⟩
    | scalar value parameter rest memory laid slots typed _ inductionHypothesis =>
        simp only [Engine.bindArguments, typed, if_pos]
        exact Action.bind_ok.mpr ⟨_, _, inductionHypothesis, rfl⟩

/-- Arguments are refused with an error.  Some of them are in memory by then: they stay there
when a parameter has no type, and otherwise everything behind the globals is released. -/
theorem bindArguments_error {function : Function} {globals position : Nat}
    {pairs : List (Argument × Register)} {memory left : Memory} {fault : Fault}
    (refused : Engine.bindArguments function globals position pairs memory = .error fault left) :
    (∃ cause, fault = .error cause) ∧
      ∃ front slots laid, Laid function front memory slots laid ∧
        (left = laid.release globals ∨
          left = laid ∧ ∃ pair ∈ pairs, function.typeOf? pair.2 = none) := by
  induction pairs generalizing position memory with
  | nil => cases refused
  | cons pair pairs inductionHypothesis =>
      obtain ⟨argument, parameter⟩ := pair
      cases typed : function.typeOf? parameter with
      | none =>
          simp only [Engine.bindArguments, typed] at refused
          cases refused
          exact ⟨⟨_, rfl⟩, [], [], _, .done _, .inr ⟨rfl, _, List.mem_cons_self, typed⟩⟩
      | some type =>
          simp only [Engine.bindArguments, typed] at refused
          rcases argument with storage | value <;> rcases type with dtype | dtype
          · cases refused
            exact ⟨⟨_, rfl⟩, [], [], _, .done _, .inl rfl⟩
          · simp only at refused
            split at refused
            · rename_i same
              subst same
              obtain early | ⟨_, _, allocated, late⟩ := Action.bind_error.mp refused
              · cases early
              cases allocated
              obtain inner | ⟨_, _, _, ended⟩ := Action.bind_error.mp late
              · obtain ⟨known, front, slots, laid, all, how⟩ := inductionHypothesis inner
                exact ⟨known, (.buffer storage, parameter) :: front, _, laid,
                  .buffer storage parameter front _ laid slots typed all,
                  how.imp_right fun ⟨same, pair, member, missing⟩ =>
                    ⟨same, pair, List.mem_cons_of_mem _ member, missing⟩⟩
              · cases ended
            · cases refused
              exact ⟨⟨_, rfl⟩, [], [], _, .done _, .inl rfl⟩
          · simp only at refused
            split at refused
            · rename_i same
              subst same
              obtain inner | ⟨_, _, _, ended⟩ := Action.bind_error.mp refused
              · obtain ⟨known, front, slots, laid, all, how⟩ := inductionHypothesis inner
                exact ⟨known, (.scalar value, parameter) :: front, _, laid,
                  .scalar value parameter front _ laid slots typed all,
                  how.imp_right fun ⟨same, pair, member, missing⟩ =>
                    ⟨same, pair, List.mem_cons_of_mem _ member, missing⟩⟩
              · cases ended
            · cases refused
              exact ⟨⟨_, rfl⟩, [], [], _, .done _, .inl rfl⟩
          · cases refused
            exact ⟨⟨_, rfl⟩, [], [], _, .done _, .inl rfl⟩

/-- The first state of a call. -/
structure Prepared (engine : Engine) (name : String) (arguments : List Argument)
    (state : Machine.State) : Prop where
  entered : ∃ function slots memory frame,
    engine.callee name arguments.length = .ok function ∧
      Laid function (arguments.zip function.parameters) engine.memory slots memory ∧
      Frame.enter function slots memory.size = .ok frame ∧
      state =
        { memory := memory
          frame := frame
          callers := []
          steps := 0 }

def Engine.program (engine : Engine) : Program :=
  { module := engine.module
    limit := engine.limit }

/-- The engine with the globals that a run left behind. -/
def Engine.keeping (engine : Engine) (memory : Memory) : Engine :=
  { engine with memory := memory.release engine.module.globals.length }

theorem function_of_callee {engine : Engine} {name : String} {count : Nat} {function : Function}
    (found : engine.callee name count = .ok function) :
    engine.module.function? name = some function ∧ function.exported = true ∧
      function.parameters.length = count := by
  unfold Engine.callee at found
  cases named : engine.module.function? name with
  | none => simp [named] at found
  | some other =>
      simp only [named] at found
      split at found
      · cases found
      · rename_i visible
        split at found
        · cases found
        · rename_i fitting
          cases found
          exact ⟨rfl, by simpa using visible, not_not.mp fitting⟩

theorem callee_of_function {engine : Engine} {name : String} {function : Function}
    (named : engine.module.function? name = some function) (visible : function.exported = true) :
    engine.callee name function.parameters.length = .ok function := by
  simp [Engine.callee, named, visible]

theorem Prepared.fresh {engine : Engine} {name : String} {arguments : List Argument}
    {state : Machine.State} (prepared : Prepared engine name arguments state) :
    Fresh engine.module state := by
  obtain ⟨function, slots, memory, frame, found, _, begun, rfl⟩ := prepared.entered
  refine ⟨rfl, rfl, ?_⟩
  simp only [function_of_enter begun]
  exact List.mem_of_find?_eq_some (function_of_callee found).1

/-- A call that is prepared goes as its run does. -/
theorem call_of_prepared {engine : Engine} {name : String} {arguments : List Argument}
    {state : Machine.State} (prepared : Prepared engine name arguments state) :
    Engine.call name arguments engine =
      match run engine.program engine.program.patience state with
      | .error trap final =>
          .error (trap.fault final.frame.function.name) (engine.keeping final.memory)
      | .ok () final =>
          match Engine.copyBack final.memory engine.memory.size arguments with
          | .ok () arguments => .ok arguments (engine.keeping final.memory)
          | .error fault _ => .error fault { engine with memory := final.memory } := by
  obtain ⟨function, slots, memory, frame, found, laid, begun, rfl⟩ := prepared.entered
  simp only [Engine.call, Engine.serve, found, bindArguments_ok.mpr laid, begun, Engine.program]
  generalize run _ _ _ = result
  cases result with
  | error trap final => rfl
  | ok done final =>
      dsimp only
      cases Engine.copyBack final.memory engine.memory.size arguments <;> rfl

/-- Everything that a call can do. -/
inductive Engine.Serves (engine : Engine) (name : String) (arguments : List Argument) :
    EStateM.Result Fault Engine.Visit Unit → Prop where
  | unknown (cause : Error) :
      Serves engine name arguments (.error (.error cause) ⟨engine, arguments⟩)
  | refused (function : Function) (fault : Fault) (left : Memory)
      (found : engine.callee name arguments.length = .ok function)
      (bound : bindArguments function engine.module.globals.length 0
        (arguments.zip function.parameters) engine.memory = .error fault left) :
      Serves engine name arguments
        (.error fault ⟨{ engine with memory := left }, arguments⟩)
  | malformed (function : Function) (slots : List Slot) (laid : Memory) (trap : Trap)
      (found : engine.callee name arguments.length = .ok function)
      (all : Laid function (arguments.zip function.parameters) engine.memory slots laid)
      (failed : Frame.enter function slots laid.size = .error trap) :
      Serves engine name arguments
        (.error (trap.fault name) ⟨{ engine with memory := laid }, arguments⟩)
  | trapped (state final : Machine.State) (trap : Trap)
      (prepared : Prepared engine name arguments state)
      (ran : run engine.program engine.program.patience state = .error trap final) :
      Serves engine name arguments
        (.error (trap.fault final.frame.function.name) ⟨engine.keeping final.memory, arguments⟩)
  | unread (state final : Machine.State) (fault : Fault) (results : List Argument)
      (prepared : Prepared engine name arguments state)
      (ran : run engine.program engine.program.patience state = .ok () final)
      (copied : copyBack final.memory engine.memory.size arguments = .error fault results) :
      Serves engine name arguments
        (.error fault ⟨{ engine with memory := final.memory }, results⟩)
  | served (state final : Machine.State) (results : List Argument)
      (prepared : Prepared engine name arguments state)
      (ran : run engine.program engine.program.patience state = .ok () final)
      (copied : copyBack final.memory engine.memory.size arguments = .ok () results) :
      Serves engine name arguments (.ok () ⟨engine.keeping final.memory, results⟩)

theorem Engine.serve_serves (engine : Engine) (name : String) (arguments : List Argument) :
    Serves engine name arguments (serve name ⟨engine, arguments⟩) := by
  cases found : engine.callee name arguments.length with
  | error cause =>
      simp only [serve, found]
      exact .unknown cause
  | ok function =>
      cases bound : bindArguments function engine.module.globals.length 0
          (arguments.zip function.parameters) engine.memory with
      | error fault left =>
          simp only [serve, found, bound]
          exact .refused function fault left found bound
      | ok slots laid =>
          have all := bindArguments_ok.mp bound
          cases begun : Frame.enter function slots laid.size with
          | error trap =>
              simp only [serve, found, bound, begun]
              exact .malformed function slots laid trap found all begun
          | ok frame =>
              have prepared : Prepared engine name arguments _ :=
                ⟨function, slots, laid, frame, found, all, begun, rfl⟩
              cases ran : run engine.program engine.program.patience
                  { memory := laid, frame := frame, callers := [], steps := 0 } with
              | error trap final =>
                  have exit := Serves.trapped _ final trap prepared ran
                  simp only [program] at ran
                  simp only [serve, found, bound, begun, ran]
                  exact exit
              | ok done final =>
                  cases copied : copyBack final.memory engine.memory.size arguments with
                  | error fault results =>
                      have exit := Serves.unread _ final fault results prepared ran copied
                      simp only [program] at ran
                      simp only [serve, found, bound, begun, ran, copied]
                      exact exit
                  | ok done results =>
                      have exit := Serves.served _ final results prepared ran copied
                      simp only [program] at ran
                      simp only [serve, found, bound, begun, ran, copied]
                      exact exit

/-- Every call that does not fail at once is prepared. -/
theorem prepared_of_ok {engine after : Engine} {name : String}
    {arguments results : List Argument}
    (called : Engine.call name arguments engine = .ok results after) :
    ∃ state, Prepared engine name arguments state := by
  have exit := Engine.serve_serves engine name arguments
  simp only [Engine.call] at called
  revert exit called
  generalize Engine.serve name ⟨engine, arguments⟩ = result
  intro called exit
  cases exit with
  | served state final results prepared ran copied => exact ⟨state, prepared⟩
  | unknown | refused | malformed | trapped | unread => cases called

/-- A call succeeds when its run ends within the limit. -/
theorem call_ok_iff {engine after : Engine} {name : String} {arguments results : List Argument}
    {state : Machine.State} (prepared : Prepared engine name arguments state) :
    Engine.call name arguments engine = .ok results after ↔
      ∃ final, Ends engine.module state final ∧ final.steps ≤ engine.limit ∧
        Engine.copyBack final.memory engine.memory.size arguments = .ok () results ∧
        after = engine.keeping final.memory := by
  rw [call_of_prepared prepared]
  constructor
  · intro called
    split at called
    · cases called
    · rename_i final ran
      obtain ⟨⟨count, halts⟩, within⟩ :=
        (run_iff engine.program state prepared.fresh (.ok () final) (by simp)).mp ran
      split at called
      · rename_i copied
        cases called
        exact ⟨final, halts.ends, within, copied, rfl⟩
      · cases called
  · rintro ⟨final, ends, within, copied, rfl⟩
    have ran := (run_iff engine.program state prepared.fresh (.ok () final) (by simp)).mpr
      ⟨ends.halts, within⟩
    rw [ran]
    simp only [copied]

/-- A call whose run does not stop within the limit is stopped by it. -/
theorem call_limited {engine : Engine} {name : String} {arguments : List Argument}
    {state : Machine.State} (prepared : Prepared engine name arguments state) {count : Nat}
    {result : EStateM.Result Trap Machine.State Unit}
    (halts : Halts engine.module count state result)
    (beyond : engine.limit < (stateOf result).steps) :
    ∃ function after, Engine.call name arguments engine =
      .error (Trap.stepLimit.fault function) after := by
  have fresh : Fresh engine.program.module state := prepared.fresh
  obtain ⟨last, ran⟩ := fresh.run_limited halts beyond
  rw [call_of_prepared prepared, ran]
  exact ⟨_, _, rfl⟩

/-- A call fails when its run traps within the limit. -/
theorem call_of_traps {engine : Engine} {name : String} {arguments : List Argument}
    {state final : Machine.State} {trap : Trap} (prepared : Prepared engine name arguments state)
    (traps : Traps engine.module state trap final) (other : trap ≠ .stepLimit ∧ trap ≠ .endless)
    (within : final.steps ≤ engine.limit) :
    Engine.call name arguments engine =
      .error (trap.fault final.frame.function.name) (engine.keeping final.memory) := by
  have ran := (run_iff engine.program state prepared.fresh (.error trap final)
    (by
      intro left
      simp [other])).mpr ⟨traps.halts, within⟩
  rw [call_of_prepared prepared, ran]

/-! ### Older memory -/

/-- Nothing below `lower` is released before the run is over. -/
structure Above (lower : Nat) (state : Machine.State) : Prop where
  size : lower ≤ state.memory.size
  floors : ∀ frame ∈ state.frame :: state.callers, lower ≤ frame.floor

theorem lower_le_release {memory : Memory} {lower floor : Nat} (within : lower ≤ memory.size)
    (above : lower ≤ floor) : lower ≤ (memory.release floor).size := by
  rcases Nat.le_total floor memory.size with shrinks | stays
  · rw [size_release shrinks]
    exact above
  · have same : memory.release floor = memory := by
      cases memory
      simp only [Memory.size] at stays
      simp [Memory.release, stays]
    rw [same]
    exact within

theorem Above.moves {lower : Nat} {module : Module} {state next : Machine.State}
    (above : Above lower state) (moves : Moves module state next) : Above lower next := by
  cases moves with
  | effect instruction rest outcome found plain done =>
      refine ⟨Nat.le_trans above.size (size_of_effect done), ?_⟩
      intro frame member
      rcases List.mem_cons.mp member with rfl | waiting
      · simpa [State.after, State.fetched] using above.floors _ (List.mem_cons_self ..)
      · exact above.floors frame (List.mem_cons_of_mem _ waiting)
  | call name arguments rest function slots entered found named passed begun =>
      refine ⟨above.size, ?_⟩
      intro frame member
      rcases List.mem_cons.mp member with rfl | waiting
      · have base := floor_of_enter begun
        have size := above.size
        rw [← base] at size
        exact size
      · rcases List.mem_cons.mp waiting with rfl | outer
        · exact above.floors state.frame (List.mem_cons_self ..)
        · exact above.floors frame (List.mem_cons_of_mem _ outer)
  | jump target block found known =>
      refine ⟨above.size, ?_⟩
      intro frame member
      rcases List.mem_cons.mp member with rfl | waiting
      · exact above.floors state.frame (List.mem_cons_self ..)
      · exact above.floors frame (List.mem_cons_of_mem _ waiting)
  | branch condition onTrue onFalse hint? value block found decided known =>
      refine ⟨above.size, ?_⟩
      intro frame member
      rcases List.mem_cons.mp member with rfl | waiting
      · exact above.floors state.frame (List.mem_cons_self ..)
      · exact above.floors frame (List.mem_cons_of_mem _ waiting)
  | leave caller callers found waiting =>
      refine ⟨lower_le_release above.size (above.floors state.frame (List.mem_cons_self ..)), ?_⟩
      intro frame member
      refine above.floors frame (List.mem_cons_of_mem _ ?_)
      rw [waiting]
      exact member

theorem Above.reaches {lower : Nat} {module : Module} {state final : Machine.State}
    (above : Above lower state) (reaches : Reaches module state final) : Above lower final := by
  induction reaches with
  | refl => exact above
  | tail _ moves inductionHypothesis => exact inductionHypothesis.moves moves

theorem Laid.size_le {function : Function} {pairs : List (Argument × Register)}
    {memory laid : Memory} {slots : List Slot} (all : Laid function pairs memory slots laid) :
    memory.size ≤ laid.size := by
  induction all with
  | done memory => exact Nat.le_refl _
  | buffer storage parameter rest memory laid slots typed _ inductionHypothesis =>
      rw [size_allocate] at inductionHypothesis
      omega
  | scalar value parameter rest memory laid slots typed _ inductionHypothesis =>
      exact inductionHypothesis

/-- A call releases nothing that the engine holds. -/
theorem Prepared.above {engine : Engine} {name : String} {arguments : List Argument}
    {state : Machine.State} (prepared : Prepared engine name arguments state) :
    Above engine.memory.size state := by
  obtain ⟨function, slots, memory, frame, found, laid, begun, rfl⟩ := prepared.entered
  have size := laid.size_le
  refine ⟨size, ?_⟩
  intro other member
  rw [List.mem_singleton] at member
  subst member
  rw [floor_of_enter begun]
  exact size

theorem size_of_ends {lower : Nat} {module : Module} {state final : Machine.State}
    (above : Above lower state) (ends : Ends module state final) : lower ≤ final.memory.size := by
  obtain ⟨last, reaches, _, _, rfl⟩ := ends
  have later := above.reaches reaches
  exact lower_le_release later.size (later.floors last.frame (List.mem_cons_self ..))

theorem size_of_traps {lower : Nat} {module : Module} {state final : Machine.State} {trap : Trap}
    (above : Above lower state) (traps : Traps module state trap final) :
    lower ≤ final.memory.size := by
  obtain ⟨last, reaches, step⟩ := traps
  have later := above.reaches reaches
  rcases advance_traps step with ⟨_, rfl⟩ | ⟨instruction, rest, _, rfl⟩
  · exact later.size
  · exact later.size

/-! ### Sequences of calls -/

/-- Calls one after another; the answers of all of them. -/
def Engine.callAll : List (String × List Argument) → Action Engine (List (List Argument))
  | [] => pure []
  | (name, arguments) :: rest => do
      let results ← Engine.call name arguments
      return results :: (← Engine.callAll rest)

theorem callAll_cons {engine after : Engine} {name : String} {arguments : List Argument}
    {rest : List (String × List Argument)} {results : List (List Argument)} :
    Engine.callAll ((name, arguments) :: rest) engine = .ok results after ↔
      ∃ first middle others, Engine.call name arguments engine = .ok first middle ∧
        Engine.callAll rest middle = .ok others after ∧ results = first :: others := by
  simp only [Engine.callAll, bind, EStateM.bind, pure, EStateM.pure]
  constructor
  · intro called
    cases here : Engine.call name arguments engine with
    | error fault middle => simp [here] at called
    | ok first middle =>
        cases later : Engine.callAll rest middle with
        | error fault last => simp [here, later] at called
        | ok others last =>
            simp only [here, later] at called
            cases called
            exact ⟨first, middle, others, rfl, later, rfl⟩
  · rintro ⟨first, middle, others, here, later, rfl⟩
    simp only [here, later]

/-- A call changes the memory of an engine and nothing else. -/
theorem module_of_call {engine after : Engine} {name : String}
    {arguments results : List Argument}
    (called : Engine.call name arguments engine = .ok results after) :
    after.module = engine.module := by
  obtain ⟨state, prepared⟩ := prepared_of_ok called
  obtain ⟨final, _, _, _, rfl⟩ := (call_ok_iff prepared).mp called
  rfl

theorem module_of_callAll {engine after : Engine} {calls : List (String × List Argument)}
    {results : List (List Argument)}
    (called : Engine.callAll calls engine = .ok results after) : after.module = engine.module := by
  induction calls generalizing engine results with
  | nil =>
      cases called
      rfl
  | cons call calls inductionHypothesis =>
      obtain ⟨name, arguments⟩ := call
      obtain ⟨first, middle, others, here, later, _⟩ := callAll_cons.mp called
      rw [inductionHypothesis later, module_of_call here]

end TensorGraph

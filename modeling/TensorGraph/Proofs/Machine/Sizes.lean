/-
Sizes of allocations.

No instruction changes the size of an allocation, and a return releases only
what came after its frame was entered.  So in whatever way a run stops, the
globals and the buffers still have their sizes; a call that releases everything
behind the globals leaves the globals and nothing else.
-/

import TensorGraph.Proofs.Machine.Endless
import TensorGraph.Proofs.Machine.Image

namespace TensorGraph.Machine

open Code

/-- The first allocations have these sizes, and no return releases them. -/
structure Lasting (sizes : List Nat) (state : State) : Prop where
  above : Above sizes.length state
  kept : sizes <+: state.memory.sizes

namespace Lasting

variable {sizes : List Nat} {module : Module} {state next : State}

theorem released (lasting : Lasting sizes state) : sizes <+: state.released.memory.sizes := by
  simp only [State.released, Memory.sizes_release]
  exact List.prefix_take_iff.mpr
    ⟨lasting.kept, lasting.above.floors state.frame List.mem_cons_self⟩

theorem moves (lasting : Lasting sizes state) (moves : Moves module state next) :
    Lasting sizes next := by
  refine ⟨lasting.above.moves moves, ?_⟩
  cases moves with
  | effect instruction rest outcome found plain done =>
      exact lasting.kept.trans (sizes_of_effect done)
  | call name arguments rest function slots entered found named passed begun => exact lasting.kept
  | jump target block found known => exact lasting.kept
  | branch condition onTrue onFalse hint? value block found decided known => exact lasting.kept
  | leave caller callers found waiting => exact lasting.released

theorem reaches (lasting : Lasting sizes state) (reaches : Reaches module state next) :
    Lasting sizes next := by
  induction reaches with
  | refl => exact lasting
  | tail _ moves inductionHypothesis => exact inductionHypothesis.moves moves

end Lasting

/-! ### The end of a run -/

/-- How a run stops in the last state that it reaches. -/
inductive Stops (module : Module) (last : State) : EStateM.Result Trap State Unit → Prop where
  | returned (final : State) (returns : Returns last final) : Stops module last (.ok () final)
  | trapped (trap : Trap) (final : State) (step : advance module last = .error trap final) :
      Stops module last (.error trap final)
  | limited : Stops module last (.error .stepLimit last)
  | exhausted : Stops module last (.error .endless last)

theorem stops_of_run (program : Program) (patience : Nat) (state : State) :
    ∃ last, Reaches program.module state last ∧
      Stops program.module last (run program patience state) := by
  induction patience generalizing state with
  | zero => exact ⟨state, .refl, .exhausted⟩
  | succ patience inductionHypothesis =>
      rcases Classical.em (state.steps < program.limit ∨ state.frame.pending = []) with room | full
      · simp only [run, transition_of_room program state room]
        cases step : advance program.module state with
        | error trap final => exact ⟨state, .refl, .trapped trap final step⟩
        | ok goes next =>
            cases goes with
            | true =>
                obtain ⟨last, reaches, stops⟩ := inductionHypothesis next
                exact ⟨last, .head (moves_of_advance step) reaches, stops⟩
            | false => exact ⟨state, .refl, .returned next (advance_returns.mp step)⟩
      · obtain ⟨spent, busy⟩ := not_or.mp full
        obtain ⟨instruction, rest, found⟩ := List.exists_cons_of_ne_nil busy
        simp only [run, transition_at_limit program state instruction rest found
          (Nat.not_lt.mp spent)]
        exact ⟨state, .refl, .limited⟩

/-- In whatever way a run stops, the first allocations have their sizes. -/
theorem Lasting.run {sizes : List Nat} {state : State} (lasting : Lasting sizes state)
    (program : Program) (patience : Nat) :
    sizes <+: (stateOf (run program patience state)).memory.sizes := by
  obtain ⟨last, reaches, stops⟩ := stops_of_run program patience state
  have later := lasting.reaches reaches
  revert stops
  generalize Machine.run program patience state = result
  intro stops
  cases stops with
  | returned final returns =>
      obtain ⟨_, _, rfl⟩ := returns
      exact later.released
  | trapped trap final step =>
      rcases advance_traps step with ⟨_, rfl⟩ | ⟨instruction, rest, _, rfl⟩
      · exact later.kept
      · exact later.kept
  | limited => exact later.kept
  | exhausted => exact later.kept

end TensorGraph.Machine

namespace TensorGraph

open Code Machine

theorem Machine.Enterable.typed {function : Function} (enterable : Enterable function)
    {parameter : Register} (member : parameter ∈ function.parameters) :
    function.typeOf? parameter ≠ none := by
  rw [Function.typeOf?, Array.getElem?_eq_getElem (enterable.parameters parameter member)]
  exact nofun

/-! ### Buffers -/

/-- An argument after a call: an element as it was, or a buffer of the same type and size. -/
inductive Argument.Alike : Argument → Argument → Prop where
  | scalar (value : Literal) : Alike (.scalar value) (.scalar value)
  | buffer (before after : Storage) (typed : after.dtype = before.dtype)
      (sized : after.size = before.size) : Alike (.buffer before) (.buffer after)

/-- The size of the allocation that an argument becomes. -/
def Argument.imageSize? : Argument → Option Nat
  | .buffer storage => some storage.bytes.length
  | .scalar _ => none

theorem Laid.sizes {function : Function} {pairs : List (Argument × Register)}
    {memory laid : Memory} {slots : List Slot} (all : Laid function pairs memory slots laid) :
    laid.sizes = memory.sizes ++ (pairs.map Prod.fst).filterMap Argument.imageSize? := by
  induction all with
  | done memory => exact (List.append_nil _).symm
  | buffer storage parameter rest memory laid slots typed _ inductionHypothesis =>
      rw [inductionHypothesis, Memory.sizes_allocate, List.append_assoc]
      rfl
  | scalar value parameter rest memory laid slots typed _ inductionHypothesis =>
      exact inductionHypothesis

/-- Buffers are copied back from allocations of their sizes. -/
theorem copyBack_sized {arguments : List Argument} {memory : Memory} {next : Nat}
    (sized : arguments.filterMap Argument.imageSize? <+: memory.sizes.drop next) :
    ∃ results, Engine.copyBack memory next arguments = .ok () results ∧
      List.Forall₂ Argument.Alike arguments results := by
  induction arguments generalizing next with
  | nil => exact ⟨[], rfl, .nil⟩
  | cons argument arguments inductionHypothesis =>
      cases argument with
      | scalar value =>
          obtain ⟨results, copied, alike⟩ := inductionHypothesis sized
          refine ⟨.scalar value :: results, ?_, .cons (.scalar value) alike⟩
          simp only [Engine.copyBack, copied]
      | buffer storage =>
          obtain ⟨beyond, split⟩ := sized
          have here : memory.sizes[next]? = some storage.bytes.length := by
            rw [← Nat.add_zero next, ← List.getElem?_drop, ← split]
            rfl
          have later : arguments.filterMap Argument.imageSize? <+:
              memory.sizes.drop (next + 1) := by
            refine ⟨beyond, ?_⟩
            rw [← List.tail_drop, ← split]
            rfl
          rw [Memory.sizes, List.getElem?_map, Option.map_eq_some_iff] at here
          obtain ⟨image, found, length⟩ := here
          have held : memory.allocations.getD next #[] = image := by
            rw [Array.getD_eq_getD_getElem?, ← Array.getElem?_toList, found, Option.getD_some]
          have fits : image.toList.length = storage.size * storage.dtype.width := by
            rw [Array.length_toList, length, Storage.length_bytes]
          obtain ⟨changed, decoded, typed, counted⟩ := Storage.ofBytes_of_length fits
          obtain ⟨results, copied, alike⟩ := inductionHypothesis later
          refine ⟨.buffer changed :: results, ?_, .cons (.buffer storage changed typed counted) alike⟩
          simp only [Engine.copyBack, held, decoded, copied]

/-- The globals and what was laid into memory last through a call. -/
theorem Prepared.lasting {engine : Engine} {name : String} {arguments : List Argument}
    {state : Machine.State} (prepared : Prepared engine name arguments state) :
    Lasting (engine.memory.sizes ++ arguments.filterMap Argument.imageSize?) state := by
  obtain ⟨function, slots, laid, frame, found, all, begun, rfl⟩ := prepared.entered
  have counted := (function_of_callee found).2.2
  have sizes : laid.sizes = engine.memory.sizes ++ arguments.filterMap Argument.imageSize? := by
    rw [all.sizes, List.map_fst_zip counted.ge]
  have above : Above laid.sizes.length
      { memory := laid, frame := frame, callers := [], steps := 0 } := by
    refine ⟨laid.length_sizes.le, fun other member => ?_⟩
    rw [List.mem_singleton] at member
    subst member
    rw [floor_of_enter begun, laid.length_sizes]
  rw [← sizes]
  exact ⟨above, List.prefix_refl _⟩

/-- Nothing of what was laid into memory changes its size in a run. -/
theorem Prepared.sizes_run {engine : Engine} {name : String} {arguments : List Argument}
    {state : Machine.State} (prepared : Prepared engine name arguments state) :
    engine.memory.sizes ++ arguments.filterMap Argument.imageSize? <+:
      (stateOf (run engine.program engine.program.patience state)).memory.sizes :=
  prepared.lasting.run _ _

namespace Engine

/-! ### Globals -/

/-- The engines of a module: a new one, with any limit, and after any calls. -/
inductive Hosts (module : Module) : Engine → Prop where
  | made {engine : Engine} (made : Engine.ofModule module = .ok engine) : Hosts module engine
  | limited {engine : Engine} (hosts : Hosts module engine) (limit : Nat) :
      Hosts module (engine.withLimit limit)
  | called {engine : Engine} (hosts : Hosts module engine) (name : String)
      (arguments : List Argument) :
      Hosts module (Action.last (serve name ⟨engine, arguments⟩)).engine

/-- The sizes of the globals in bytes. -/
def globalSizes (module : Module) : List Nat :=
  module.globals.map fun global => global.data.bytes.length

theorem length_globalSizes (module : Module) :
    (globalSizes module).length = module.globals.length :=
  List.length_map _

/-- Everything behind the globals released. -/
theorem sizes_release_globals {module : Module} {memory : Memory}
    (kept : globalSizes module <+: memory.sizes) :
    (memory.release module.globals.length).sizes = globalSizes module := by
  rw [Memory.sizes_release, ← length_globalSizes]
  exact (List.prefix_iff_eq_take.mp kept).symm

variable {engine : Engine} {module : Module}

theorem globalSizes_of_ofModule (made : Engine.ofModule module = .ok engine) :
    engine.module = module ∧ engine.memory.sizes = globalSizes module := by
  obtain ⟨_, _, made⟩ := bind_eq_ok.mp made
  cases made
  refine ⟨rfl, ?_⟩
  simp [Memory.sizes, globalSizes]

/-- An engine of the module, with its globals in memory. -/
structure Holds (engine : Engine) (module : Module) : Prop where
  module_eq : engine.module = module
  globals : globalSizes module <+: engine.memory.sizes

theorem Holds.keeping (holds : engine.Holds module) {memory : Memory}
    (kept : globalSizes module <+: memory.sizes) : (engine.keeping memory).Holds module := by
  obtain ⟨rfl, _⟩ := holds
  exact ⟨rfl, (sizes_release_globals kept).symm ▸ List.prefix_refl _⟩

/-- No call releases a global. -/
theorem Holds.serve (holds : engine.Holds module) (name : String) (arguments : List Argument) :
    (Action.last (serve name ⟨engine, arguments⟩)).engine.Holds module := by
  have exit := serve_serves engine name arguments
  revert exit
  generalize Engine.serve name ⟨engine, arguments⟩ = result
  intro exit
  cases exit with
  | unknown cause => exact holds
  | refused function fault left found bound =>
      obtain ⟨_, front, slots, laid, all, released | ⟨same, _⟩⟩ := bindArguments_error bound
      · have kept : globalSizes module <+: laid.sizes := by
          rw [all.sizes]
          exact holds.globals.trans (List.prefix_append _ _)
        rw [released]
        exact holds.keeping kept
      · refine ⟨holds.module_eq, ?_⟩
        simp only [Action.last, same, all.sizes]
        exact holds.globals.trans (List.prefix_append _ _)
  | malformed function slots laid trap found all failed =>
      refine ⟨holds.module_eq, ?_⟩
      simp only [Action.last, all.sizes]
      exact holds.globals.trans (List.prefix_append _ _)
  | trapped state final trap prepared ran =>
      have kept := prepared.sizes_run
      rw [ran] at kept
      exact holds.keeping ((holds.globals.trans (List.prefix_append _ _)).trans kept)
  | unread state final fault results prepared ran copied =>
      have kept := prepared.sizes_run
      rw [ran] at kept
      exact ⟨holds.module_eq, (holds.globals.trans (List.prefix_append _ _)).trans kept⟩
  | served state final results prepared ran copied =>
      have kept := prepared.sizes_run
      rw [ran] at kept
      exact holds.keeping ((holds.globals.trans (List.prefix_append _ _)).trans kept)

theorem Hosts.holds (hosts : Hosts module engine) : engine.Holds module := by
  induction hosts with
  | made made =>
      obtain ⟨same, sizes⟩ := globalSizes_of_ofModule made
      exact ⟨same, sizes ▸ List.prefix_refl _⟩
  | limited _ limit holds => exact ⟨holds.module_eq, holds.globals⟩
  | called _ name arguments holds => exact holds.serve name arguments

/-! ### Clean exits -/

/-- How a call of an engine may end: with the globals in memory and nothing else, and with
buffers that changed at most their elements, and these only when it succeeded. -/
structure CleanExit (module : Module) (arguments : List Argument)
    (result : EStateM.Result Fault Visit Unit) : Prop where
  module_eq : (Action.last result).engine.module = module
  memory : (Action.last result).engine.memory.sizes = globalSizes module
  failed : ∀ fault visit, result = .error fault visit → visit.arguments = arguments
  done : ∀ visit, result = .ok () visit → List.Forall₂ Argument.Alike arguments visit.arguments

theorem CleanExit.of_error {arguments : List Argument} {memory : Memory} (fault : Fault)
    (kept : globalSizes engine.module <+: memory.sizes) :
    CleanExit engine.module arguments
      (.error fault ⟨engine.keeping memory, arguments⟩) where
  module_eq := rfl
  memory := sizes_release_globals kept
  failed := by
    rintro _ _ ⟨⟩
    rfl
  done := nofun

/-- The buffers of a run that has succeeded are copied back. -/
theorem copyBack_of_run {name : String} {arguments : List Argument} {state final : Machine.State}
    (prepared : Prepared engine name arguments state)
    (ran : run engine.program engine.program.patience state = .ok () final) :
    ∃ results, copyBack final.memory engine.memory.size arguments = .ok () results ∧
      List.Forall₂ Argument.Alike arguments results := by
  obtain ⟨beyond, split⟩ := prepared.sizes_run
  simp only [ran, stateOf] at split
  refine copyBack_sized ⟨beyond, ?_⟩
  rw [← split, List.append_assoc, ← Memory.length_sizes]
  exact (List.drop_left ..).symm

/-- A call of an engine that holds its globals and nothing else. -/
theorem serve_clean (clean : engine.memory.sizes = globalSizes engine.module)
    (enterable : ∀ function ∈ engine.module.functions, Enterable function) (name : String)
    (arguments : List Argument) :
    CleanExit engine.module arguments (serve name ⟨engine, arguments⟩) := by
  have exit := serve_serves engine name arguments
  revert exit
  generalize Engine.serve name ⟨engine, arguments⟩ = result
  intro exit
  have known : ∀ {function}, engine.callee name arguments.length = .ok function →
      Enterable function := fun found =>
    enterable _ (List.mem_of_find?_eq_some (function_of_callee found).1)
  have globals : ∀ {state : Machine.State}, Prepared engine name arguments state →
      globalSizes engine.module <+:
        (stateOf (run engine.program engine.program.patience state)).memory.sizes := by
    intro state prepared
    rw [← clean]
    exact (List.prefix_append _ _).trans prepared.sizes_run
  cases exit with
  | unknown cause => exact ⟨rfl, clean, by rintro _ _ ⟨⟩; rfl, nofun⟩
  | refused function fault left found bound =>
      obtain ⟨_, front, slots, laid, all, released | ⟨_, pair, member, untyped⟩⟩ :=
        bindArguments_error bound
      · rw [released]
        refine .of_error fault ?_
        rw [all.sizes, clean]
        exact List.prefix_append _ _
      · exact absurd untyped ((known found).typed (List.of_mem_zip member).2)
  | malformed function slots laid trap found all failed =>
      obtain ⟨frame, begun⟩ := (known found).entered slots laid.size
      rw [begun] at failed
      cases failed
  | trapped state final trap prepared ran =>
      have kept := globals prepared
      rw [ran] at kept
      exact .of_error _ kept
  | unread state final fault results prepared ran copied =>
      obtain ⟨others, copied', _⟩ := copyBack_of_run prepared ran
      rw [copied'] at copied
      cases copied
  | served state final results prepared ran copied =>
      have kept := globals prepared
      rw [ran] at kept
      obtain ⟨others, copied', alike⟩ := copyBack_of_run prepared ran
      cases copied'.symm.trans copied
      refine ⟨rfl, sizes_release_globals kept, nofun, ?_⟩
      rintro _ ⟨⟩
      exact alike

theorem Hosts.sizes (hosts : Hosts module engine)
    (enterable : ∀ function ∈ module.functions, Enterable function) :
    engine.memory.sizes = globalSizes module := by
  induction hosts with
  | made made => exact (globalSizes_of_ofModule made).2
  | limited _ limit sizes => exact sizes
  | called hosts name arguments sizes =>
      obtain ⟨rfl, _⟩ := hosts.holds
      exact (serve_clean sizes enterable name arguments).memory

/-- A function with a buffer and another parameter that is none of its registers. -/
def untyped : Code.Function :=
  { name := "f"
    parameters := [0, 7]
    registerTypes := #[.pointer .i64]
    blocks :=
      [{ id := 0
         label := "entry"
         instructions := []
         terminator? := some .leave }]
    exported := true }

end Engine
end TensorGraph

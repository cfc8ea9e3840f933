/-
Answers of compiled maps.

A compiled map and the refined map on the host answer every sequence of calls
alike.  Between two calls the engine rests with what the nodes of the map
remember; a call takes both from there to the same answer and to the same
memory, also when arithmetic stops it half-way, and a reset clears both.
-/

import TensorGraph.Graph.Fleet
import TensorGraph.Proofs.Emission.Compiled
import TensorGraph.Proofs.Emission.Delivery
import TensorGraph.Proofs.Graph.Refinement

namespace TensorGraph

open Code FunctionBuilder Machine Emission
open Optimize (EngineRefines freshEngine)

/-! ### Positions -/

/-- What the instruction obtains has positions for its bytes. -/
def Code.Instruction.Addressable : Instruction → Prop
  | .alloca _ dtype count => count * dtype.width < 2 ^ 63
  | _ => True

instance : DecidablePred Code.Instruction.Addressable := fun instruction => by
  unfold Code.Instruction.Addressable
  split <;> infer_instance

/-- All memory of a module has positions for its bytes. -/
structure Code.Module.Addressable (module : Module) : Prop where
  globals : ∀ global ∈ module.globals, global.byteSize < 2 ^ 63
  memory : ∀ function ∈ module.functions, ∀ instruction ∈ function.instructions,
    instruction.Addressable

instance : DecidablePred Code.Module.Addressable := fun module =>
  decidable_of_iff ((∀ global ∈ module.globals, global.byteSize < 2 ^ 63) ∧
    ∀ function ∈ module.functions, ∀ instruction ∈ function.instructions, instruction.Addressable)
    ⟨fun both => ⟨both.1, both.2⟩, fun addressable => ⟨addressable.globals, addressable.memory⟩⟩

instance decidableForallAnswer {ε α : Type} (result : Except ε α) (holds : α → Prop)
    [DecidablePred holds] :
    Decidable (∀ answer, result = .ok answer → holds answer) :=
  match result with
  | .ok answer => decidable_of_iff (holds answer)
      ⟨fun held _ same => Except.ok.inj same ▸ held, fun all => all answer rfl⟩
  | .error _ => isTrue fun _ same => by cases same

instance decidableExistsAnswer {ε α : Type} (result : Except ε α) (holds : α → Prop)
    [DecidablePred holds] :
    Decidable (∃ answer, result = .ok answer ∧ holds answer) :=
  match result with
  | .ok answer => decidable_of_iff (holds answer)
      ⟨fun held => ⟨answer, rfl, held⟩, fun ⟨_, same, held⟩ => Except.ok.inj same ▸ held⟩
  | .error _ => isFalse fun ⟨_, same, _⟩ => by cases same

/-- Neither the counters of loops nor the addresses of a compiled map overflow: what the nodes
hold has positions, and so has the memory of the code as it is written. -/
structure Map.Bounded (map : Map) (options : CompilerOptions) : Prop where
  counters : ∀ refined, map.refine options.refinePasses = .ok refined →
    ∀ node ∈ refined.model.nodes, ∀ count ∈ node.extents, count ≤ 2 ^ 63
  addresses : ∀ emitted, map.emit { options with optimize := false } = .ok emitted →
    emitted.module.Addressable ∧
      ∀ spec ∈ emitted.inputs ++ emitted.outputs, spec.size * spec.dtype.width < 2 ^ 63

instance (map : Map) (options : CompilerOptions) : Decidable (map.Bounded options) :=
  decidable_of_iff
    ((∀ refined, map.refine options.refinePasses = .ok refined →
      ∀ node ∈ refined.model.nodes, ∀ count ∈ node.extents, count ≤ 2 ^ 63) ∧
    ∀ emitted, map.emit { options with optimize := false } = .ok emitted →
      emitted.module.Addressable ∧
        ∀ spec ∈ emitted.inputs ++ emitted.outputs, spec.size * spec.dtype.width < 2 ^ 63)
    ⟨fun both => ⟨both.1, both.2⟩, fun bounded => ⟨bounded.counters, bounded.addresses⟩⟩

namespace Map.Emitted

variable {map refined : Map} {options : CompilerOptions} {inputs outputs : List PortSpec}
  {state : EmissionState Unit} {module : Module}
  (emitted : Emitted map options refined inputs outputs state module)
include emitted

/-- What is emitted when nothing is optimized. -/
theorem emit_plain : map.emit { options with optimize := false } =
    .ok { module := module, inputs := inputs, outputs := outputs } := by
  obtain ⟨made, named, named', step, assembled, done, rfl⟩ := emitted
  have ran : finished ((refined.emitStep inputs outputs).run
      (EmissionState.start Heap.empty (FunctionBuilder.start options.functionName
        ((inputs ++ outputs).map fun spec => .pointer spec.dtype)) options.hint ())) =
          .ok ((), state) := finished_ok.mpr step
  have collected : finished ((do
      ModuleBuilder.endFunction state.builder
      ModuleBuilder.emitReset options.resetName : Action ModuleBuilder Unit)
        (ModuleBuilder.start "wren")) = .ok ((), assembled) := finished_ok.mpr done
  unfold Map.emit
  dsimp only
  rw [made]
  simp only [Except.mapError, bind, Except.bind, named, named', ran]
  split
  · rename_i failed
    cases collected.symm.trans failed
  · rename_i found
    cases collected.symm.trans found
    rfl

/-- The memory of a call has positions. -/
theorem addressable (bounded : map.Bounded options) {ins outs : List Storage}
    (taken : Buffered inputs ins) (given : Buffered outputs outs) :
    state.Addressable module (ins ++ outs) where
  globals := by
    intro size member
    obtain ⟨global, inside, rfl⟩ := List.mem_map.mp member
    have small := (bounded.addresses _ emitted.emit_plain).1.globals global inside
    rw [Storage.length_bytes]
    exact small
  buffers := by
    intro buffer member
    obtain ⟨spec, inside, typed, sized⟩ := partner_of_mem (List.rel_append taken given) member
    have small := (bounded.addresses _ emitted.emit_plain).2 spec inside
    rwa [Storage.size_image, typed, sized]
  prologue := by
    intro image member
    obtain ⟨⟨register, dtype, count⟩, listed, rfl⟩ := List.mem_map.mp member
    obtain ⟨instruction, inside, obtained⟩ := List.mem_filterMap.mp listed
    have same : instruction = .alloca register dtype count := by
      cases instruction <;> cases obtained
      rfl
    subst same
    have there : state.builder.finished ∈ module.functions :=
      List.mem_of_find?_eq_some emitted.inModule.named
    have known : .alloca register dtype count ∈ state.builder.finished.instructions := by
      rw [instructions_finished emitted.inModule.placed.sound.builder]
      exact List.mem_append_left _ inside
    rw [Array.size_replicate, Nat.mul_comm]
    exact (bounded.addresses _ emitted.emit_plain).1.memory _ there _ known

/-- The refined map has no runs that stop but for arithmetic, and all its inputs are fed. -/
theorem serves (bounded : map.Bounded options) (reachable : refined.model.Reachable) :
    refined.Serves inputs outputs where
  inputSpecs := emitted.inputSpecs
  outputSpecs := emitted.outputSpecs
  runnable := reachable.connected.runnable_calculated (bounded.counters _ emitted.made)
  total := by
    intro id dtype sizes input
    obtain ⟨values, middle, ran, -⟩ :=
      emitStep_ok (parametrized_blank options (inputs ++ outputs)) rfl emitted.step
    have fed := Model.fed_of_emitted reachable.connected (Model.length_placedState _) ran input
    obtain ⟨value, found⟩ := Option.ne_none_iff_exists'.mp fed
    have member := List.mem_reverse.mp (mem_of_lookup found)
    exact (List.of_mem_zip member).1

/-- The memory of the nodes stands in the heap of the code as it was put there. -/
theorem storage_kept {name : Nat} {storage : Storage}
    (found : refined.model.memory.flatten[name]? = some storage) :
    state.heap.storage name = storage := by
  obtain ⟨-, placed, -, -⟩ := emitted.formed
  have known : name < refined.model.placed.next :=
    (List.getElem?_eq_some_iff.mp found).1.trans_eq (Heap.next_empty_addAll _).symm
  exact (placed.kept name known).trans (Heap.storage_empty_addAll found)

/-- A new engine rests with what the nodes remember. -/
theorem rests_fresh (limit : Nat) :
    state.Rests module refined.model.memory.flatten (freshEngine module limit).memory where
  sizes := by
    simp [freshEngine, Memory.sizes, Engine.globalSizes]
  constants := by
    intro index global found _
    simp [freshEngine, found, Storage.image]
  states := by
    intro name global index member there
    obtain ⟨-, -, faithful, below⟩ := emitted.formed
    obtain ⟨-, listed⟩ := faithful.states name global member
    have found := global_of_index emitted.inModule.placed.names
      (emitted.inModule.placed.globals _ listed) there
    have held := List.getElem?_eq_getElem (below name global member)
    refine ⟨_, held, ?_⟩
    simp [freshEngine, found, Storage.image, emitted.storage_kept held]

/-- A call of the step on an engine at rest goes as the computation on the host: it comes to an
end with the rows of the outputs, or arithmetic stops both.  In either case the engine rests with
what the nodes remember then. -/
theorem called (bounded : map.Bounded options) (reachable : refined.model.Reachable) {now : Map}
    (aged : refined.Aged now) {engine : Engine} (here : engine.module = module)
    (rests : state.Rests module now.model.memory.flatten engine.memory) {rows : List (List Float)}
    (fitting : Fitting inputs rows) {arguments : List Argument}
    (passed : arguments = (rowBuffers inputs rows ++ blankBuffers outputs).map Argument.buffer) :
    (∃ start final results, Prepared engine options.functionName arguments start ∧
      Ends engine.module start final ∧
      Engine.copyBack final.memory engine.memory.size arguments = .ok () results ∧
      now.sample rows = .ok ((results.drop inputs.length).filterMap CompiledMap.outputRow?) ∧
      state.Rests module (Action.last (compute rows now)).model.memory.flatten
        (engine.keeping final.memory).memory) ∨
    ∃ cause start final, Prepared engine options.functionName arguments start ∧
      Breaks engine.module start cause final ∧ now.sample rows = .error (.error cause) ∧
      state.Rests module (Action.last (compute rows now)).model.memory.flatten
        (engine.keeping final.memory).memory := by
  subst here passed
  have taken := fitting.buffered
  have given := buffered_blank outputs
  have ends := (emitted.serves bounded reachable |>.aged aged).computes fitting rfl
  rw [aged.step_eq, aged.model.placedState_eq] at ends
  have placed := emitted.inModule.placed
  have realized := emitted.realized (placed.callStage (rowBuffers inputs rows ++ blankBuffers outputs))
    aged.model.shapes taken given
  rw [← taken.length_eq] at realized
  have small := emitted.addressable bounded taken given
  have covers := emitted.covers taken given
  have named := emitted.inModule.named
  have exported := emitted.inModule.exported
  unfold sample
  generalize compute rows now = computed at ends
  generalize ran : (refined.step _ _ _ _ : Host Unit Unit) _ = stepped at ends
  cases ends with
  | @ok model final memory =>
      obtain ⟨start, last, prepared, ended, copied, rests'⟩ :=
        placed.call_ends rests small covers named exported realized ran
      refine .inl ⟨start, last, _, prepared, ended, copied, congrArg Except.ok ?_, ?_⟩
      · rw [← List.map_drop, Heap.drop_row, List.length_append, ← taken.length_eq,
          ← given.length_eq, Nat.add_sub_cancel_left, List.filterMap_map]
        exact (congrFun List.filterMap_eq_map _).symm
      · change state.Rests _ model.memory.flatten _
        rw [memory]
        exact rests'
  | @error cause model final arithmetic memory =>
      obtain ⟨start, last, prepared, broken, rests'⟩ :=
        placed.call_breaks rests small covers named exported realized ran arithmetic
      refine .inr ⟨cause, start, last, prepared, broken, rfl, ?_⟩
      change state.Rests _ model.memory.flatten _
      rw [memory]
      exact rests'

/-- A call of the reset function on an engine at rest comes to an end, and the engine rests with
cleared memory. -/
theorem resets {now : Map} (aged : refined.Aged now) {engine : Engine} (here : engine.module = module)
    (rests : state.Rests module now.model.memory.flatten engine.memory) :
    ∃ start final, Prepared engine options.resetName [] start ∧ Ends engine.module start final ∧
      state.Rests module now.reset.model.memory.flatten (engine.keeping final.memory).memory := by
  subst here
  obtain ⟨function, known, globals, named, restoring, verified, there, restores⟩ :=
    emitted.inModule.reset
  have names := emitted.inModule.placed.names
  have restores' : state.Restores engine.module globals now.model.memory.flatten := by
    refine restores _ fun name storage found => ?_
    have both := Correspondence.rel_getElem? aged.model.shapes name
    rw [found] at both
    generalize there : refined.model.memory.flatten[name]? = before at both
    cases both with
    | some shape =>
        rw [emitted.storage_kept there]
        exact ⟨shape.1.symm, shape.2.symm⟩
  obtain ⟨start, last, prepared, ended, restored⟩ := restoring.call_ends verified named there names
    restores'.restorable ⟨rests.sizes ▸ List.prefix_refl _, rests.constants⟩
  refine ⟨start, last, prepared, ended, ?_⟩
  rw [reset, Model.memory_reset]
  exact rests.restored names restores' restored

end Map.Emitted
/-! ### Calls of a compiled map -/

namespace CompiledMap

variable {map : CompiledMap} {rows : List (List Float)}

/-- The arguments of a computation: buffers with the rows, and buffers for the outputs. -/
def arguments (map : CompiledMap) (rows : List (List Float)) : List Argument :=
  (rowBuffers map.inputs rows ++ blankBuffers map.outputs).map Argument.buffer

/-- What a call of one of the functions answers, read off its results, with the map behind it. -/
def answered (map : CompiledMap) (read : List Argument → List (List Float)) :
    EStateM.Result Fault Engine (List Argument) →
      EStateM.Result Fault CompiledMap (List (List Float))
  | .ok results after => .ok (read results) { map with engine := after }
  | .error fault after => .error fault { map with engine := after }

theorem call_reset (map : CompiledMap) :
    call .reset map = map.answered (fun _ => []) (Engine.call map.resetName [] map.engine) := by
  simp only [call, reset, onEngine, Action.within, bind, EStateM.bind, get, getThe,
    MonadStateOf.get, EStateM.get]
  cases Engine.call map.resetName [] map.engine <;> rfl

/-- Rows that fit are handed to the function of a step. -/
theorem call_fitting (fitting : Fitting map.inputs rows) :
    call (.compute rows) map =
      map.answered (fun results => (results.drop map.inputs.length).filterMap outputRow?)
        (Engine.call map.functionName (map.arguments rows) map.engine) := by
  have passed : map.arguments rows = List.zipWith (fun (spec : PortSpec) row =>
      Argument.buffer (Storage.ofFloats spec.dtype row.toArray)) map.inputs rows ++
        map.outputs.map fun spec => Argument.buffer (Storage.zeros spec.dtype spec.size) := by
    rw [arguments, List.map_append, rowBuffers, blankBuffers, List.map_zipWith, List.map_map]
    rfl
  have full := fitting.length_eq.symm
  rw [passed]
  simp only [call, compute, onEngine, Action.within, Action.ofExcept, bind, EStateM.bind, pure,
    EStateM.pure, get, getThe, MonadStateOf.get, EStateM.get, full,
    (checkRows_ok full).mpr fitting, ne_eq, not_true, if_false]
  cases Engine.call map.functionName _ map.engine <;> rfl

/-- Rows that do not fit are refused before any code runs. -/
theorem call_refused (unfit : ¬ Fitting map.inputs rows) :
    ∃ cause, call (.compute rows) map = .error (.error cause) map := by
  by_cases full : rows.length = map.inputs.length
  · cases checked : Map.checkRows map.inputs rows with
    | ok _ => exact (unfit ((checkRows_ok full).mp checked)).elim
    | error cause =>
        refine ⟨cause, ?_⟩
        simp only [call, compute, bind, EStateM.bind, get, getThe, MonadStateOf.get, EStateM.get,
          full, checked, ne_eq, not_true, if_false]
        rfl
  · refine ⟨.invalidArgument ("compiled map takes " ++ toString map.inputs.length ++
      " inputs, got " ++ toString rows.length), ?_⟩
    simp only [call, compute, bind, EStateM.bind, get, getThe, MonadStateOf.get, EStateM.get,
      full, ne_eq, not_false_eq_true, if_true]
    rfl

end CompiledMap

/-! ### The simulation -/

/-- Two answers that are the same rows, or an error each. -/
inductive SameReply :
    Except Fault (List (List Float)) → Except Fault (List (List Float)) → Prop where
  | ok (rows : List (List Float)) : SameReply (.ok rows) (.ok rows)
  | error (cause cause' : Error) : SameReply (.error (.error cause)) (.error (.error cause'))

/-- A map on the host and a compiled map that remember the same. -/
structure CompiledMap.Mirrors (map : Map) (options : CompilerOptions) (refined : Map)
    (state : EmissionState Unit) (module : Module) (compiled : CompiledMap) (now : Map) : Prop where
  emitted : Map.Emitted map options refined compiled.inputs compiled.outputs state module
  aged : refined.Aged now
  step : compiled.functionName = options.functionName
  reset : compiled.resetName = options.resetName
  engine : ∃ engine : Engine, engine.module = module ∧
    state.Rests module now.model.memory.flatten engine.memory ∧
      EngineRefines engine compiled.engine

namespace CompiledMap.Mirrors

variable {map refined now : Map} {options : CompilerOptions} {state : EmissionState Unit}
  {module : Module} {compiled : CompiledMap}

/-- The map with another engine that rests with what the host remembers. -/
theorem onto (mirrors : Mirrors map options refined state module compiled now) {later : Map}
    (aged : now.Aged later) {engine engine' : Engine}
    (rests : state.Rests module later.model.memory.flatten engine.memory)
    (refines : EngineRefines engine engine') (here : engine.module = module) :
    Mirrors map options refined state module { compiled with engine := engine' } later :=
  ⟨mirrors.emitted, mirrors.aged.trans aged, mirrors.step, mirrors.reset, engine, here, rests, refines⟩

/-- One call on both, unless it takes the code more steps than it may. -/
theorem call (mirrors : Mirrors map options refined state module compiled now)
    (bounded : map.Bounded options) (reachable : refined.model.Reachable) (call : Map.Call)
    (within : ∀ name, Action.outcome (CompiledMap.call call compiled) ≠
      .error (Trap.stepLimit.fault name)) :
    SameReply (now.answer call) (Action.outcome (CompiledMap.call call compiled)) ∧
      Mirrors map options refined state module (Action.last (CompiledMap.call call compiled))
        (now.next call) := by
  obtain ⟨engine, here, rests, refines⟩ := mirrors.engine
  have emitted := mirrors.emitted
  have aged := mirrors.aged
  have later := now.next_aged call
  cases call with
  | reset =>
      obtain ⟨start, final, prepared, ends, rests'⟩ := emitted.resets aged here rests
      rw [CompiledMap.call_reset, mirrors.reset] at within ⊢
      rcases Optimize.call_refines_ends refines prepared ends rfl with
        ⟨after, called, refines'⟩ | ⟨name, after, stopped⟩
      · rw [called]
        exact ⟨.ok [], mirrors.onto later rests' refines' here⟩
      · rw [stopped] at within
        exact (within name rfl).elim
  | compute rows =>
      by_cases fitting : Fitting compiled.inputs rows
      · rw [CompiledMap.call_fitting fitting, mirrors.step] at within ⊢
        rcases emitted.called bounded reachable aged here rests fitting rfl with
          ⟨start, final, results, prepared, ends, copied, answered, rests'⟩ |
            ⟨cause, start, final, prepared, breaks, answered, rests'⟩
        · rcases Optimize.call_refines_ends refines prepared ends copied with
            ⟨after, called, refines'⟩ | ⟨name, after, stopped⟩
          · change SameReply (now.sample rows) _ ∧ _
            rw [answered, arguments, called]
            exact ⟨.ok _, mirrors.onto later rests' refines' here⟩
          · rw [arguments, stopped] at within
            exact (within name rfl).elim
        · rcases Optimize.call_refines_breaks refines prepared breaks with
            ⟨name, after, called, refines'⟩ | ⟨name, after, stopped⟩
          · change SameReply (now.sample rows) _ ∧ _
            rw [answered, arguments, called]
            exact ⟨.error _ _, mirrors.onto later rests' refines' here⟩
          · rw [arguments, stopped] at within
            exact (within name rfl).elim
      · obtain ⟨cause, refused⟩ := CompiledMap.call_refused fitting
        obtain ⟨cause', refused'⟩ := ((Map.feeds_cases emitted.inputSpecs rows).resolve_left fun fed =>
          fitting fed.1).2
        rw [refused]
        have stopped := Map.compute_refused ((aged.feeds rows).trans refused')
        have same : now.next (.compute rows) = now := by
          change Action.last (Map.compute rows now) = now
          rw [stopped]
          rfl
        have answered : now.answer (.compute rows) = .error (.error cause') := by
          change now.sample rows = _
          rw [Map.sample, stopped]
        rw [same, answered]
        exact ⟨.error _ _, mirrors⟩

/-- Any number of calls. -/
theorem answers (mirrors : Mirrors map options refined state module compiled now)
    (bounded : map.Bounded options) (reachable : refined.model.Reachable) (calls : List Map.Call)
    (within : ∀ name, .error (Trap.stepLimit.fault name) ∉ compiled.answers calls) :
    List.Forall₂ SameReply (now.answers calls) (compiled.answers calls) := by
  induction calls generalizing now compiled with
  | nil => exact .nil
  | cons call rest ih =>
      obtain ⟨same, mirrors'⟩ := mirrors.call bounded reachable call fun name stopped =>
        within name (List.mem_cons.mpr (.inl stopped.symm))
      exact .cons same (ih mirrors' fun name member => within name (List.mem_cons_of_mem _ member))

end CompiledMap.Mirrors

/-- A compiled map answers every sequence of calls as the refined map on the host, whatever the
nodes remembered when it was compiled: both answer a call with the same rows, or with an error.
Steps without end are left out, and so are maps with more memory than there are positions. -/
theorem Map.compile_answers {model : Model} (reachable : model.Reachable)
    {inputs : List (String × NodeId)} {outputs : List (String × Port)} {map : Map}
    (made : Map.ofModel model inputs outputs = .ok map) {options : CompilerOptions}
    (bounded : map.Bounded options) {compiled : CompiledMap}
    (done : map.compile options = .ok compiled) {calls : List Map.Call}
    (within : ∀ name, .error (Trap.stepLimit.fault name) ∉ compiled.answers calls) :
    ∃ refined, map.refine options.refinePasses = .ok refined ∧
      List.Forall₂ SameReply (refined.answers calls) (compiled.answers calls) := by
  obtain ⟨-, rfl⟩ := Map.ofModel_ok.mp made
  obtain ⟨refined, state, module, emitted, step, reset, refines⟩ := Map.compile_ok done
  refine ⟨refined, emitted.made, ?_⟩
  have reachable' : refined.model.Reachable := by
    obtain ⟨⟨next, ports⟩, refined', rebased⟩ := bind_eq_ok.mp emitted.made
    obtain ⟨_, -, rebased'⟩ := bind_eq_ok.mp rebased
    obtain ⟨_, -, named⟩ := bind_eq_ok.mp rebased'
    obtain ⟨-, rfl⟩ := Map.ofModel_ok.mp named
    exact Model.refine_reachable reachable refined'
  have mirrors : CompiledMap.Mirrors _ options refined state module compiled refined :=
    ⟨emitted, .refl refined, step, reset, _, rfl, emitted.rests_fresh _, refines⟩
  exact mirrors.answers bounded reachable' calls within

/-- A delay line by one step. -/
def Map.delayLine : Map where
  model :=
    { nodes :=
        [.stateless (.input .f32 [1]) [] (outputOf .f32 [1]),
         { Node.alike (.delay 1)
            { name := "input", source := { node := 0, output := 0 }, dtype := .f32, sizes := [1] }
           with state := [.zeros .f32 1] }] }
  inputs := [("x", 0)]
  outputs := [("y", { node := 1, output := 0 })]

/-- The case of a delay line, which keeps one row and is reset after two computations. -/
theorem Map.compile_answers_delay : delayLine.model.Reachable ∧ delayLine.hasState = true ∧
    delayLine.Bounded .standard ∧ ∃ compiled, delayLine.compile .standard = .ok compiled ∧
      (∀ name, .error (Trap.stepLimit.fault name) ∉
        compiled.answers [.compute [[1.5]], .compute [[2.5]], .reset, .compute [[3.5]]]) ∧
      ∃ refined, delayLine.refine 8 = .ok refined ∧ List.Forall₂ SameReply
        (refined.answers [.compute [[1.5]], .compute [[2.5]], .reset, .compute [[3.5]]])
        (compiled.answers [.compute [[1.5]], .compute [[2.5]], .reset, .compute [[3.5]]]) := by
  have input := Model.Reachable.empty.add (rfl : Model.empty.add (.input .f32 [1]) [] = .ok (_, 0))
  have delay : delayLine.model.Reachable := input.add
    (rfl : Model.add _ (.delay 1) [{ node := 0, output := 0 }] = .ok (_, 1))
  have made : Map.ofModel delayLine.model delayLine.inputs delayLine.outputs = .ok delayLine := rfl
  have bounded : delayLine.Bounded .standard := by decide +kernel
  obtain ⟨compiled, done, answered⟩ : ∃ compiled, delayLine.compile .standard = .ok compiled ∧
      ∀ answer ∈ compiled.answers [.compute [[1.5]], .compute [[2.5]], .reset, .compute [[3.5]]],
        answer.toOption.isSome = true := by decide +kernel
  have within : ∀ name, .error (Trap.stepLimit.fault name) ∉
      compiled.answers [.compute [[1.5]], .compute [[2.5]], .reset, .compute [[3.5]]] :=
    fun name stopped => by cases answered _ stopped
  exact ⟨delay, rfl, bounded, compiled, done, within,
    Map.compile_answers delay made bounded done within⟩

end TensorGraph

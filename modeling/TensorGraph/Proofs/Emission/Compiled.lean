/-
Maps that were compiled.

A map is compiled in several steps: it is refined, one step of it is written
down as a function, a module is put together from that function, and the module
is optimized.  The module also has a function that resets its states; both are
found by their names, and the globals of the module are those of the step.

What is known of each step is brought together here: the code stands for the
step on the host, and the engine of the map refines one that still has the code
as it was written.
-/

import TensorGraph.Proofs.Emission.Called
import TensorGraph.Proofs.Emission.MapStep
import TensorGraph.Proofs.Emission.Reset
import TensorGraph.Proofs.Optimize.Pipeline

namespace TensorGraph

open Code FunctionBuilder Machine
open Optimize (WellFormed ModuleFormed)

/-! ### Names -/

theorem resetName_ne (options : CompilerOptions) : options.functionName ≠ options.resetName := by
  intro same
  have length := congrArg String.length same
  rw [CompilerOptions.resetName, String.length_append] at length
  have positive : 0 < "_reset".length := by decide
  omega

/-! ### Functions of a module -/

/-- A reset function is accepted. -/
theorem Code.Function.Restoring.wellFormed {function : Function} {known : String → Prop}
    {globals : List (Global × Global × Nat)} (restoring : function.Restoring known globals)
    (verified : function.verify = .ok ()) : WellFormed function := by
  obtain ⟨prologue, moves, blocks, -⟩ := restoring.block
  refine Optimize.wellFormed_iff.mpr ⟨verified, ?_, ?_⟩
  · rw [blocks]
    exact List.cons_ne_nil _ _
  · rw [blocks]
    exact List.nodup_singleton _

theorem address_of_referenced {function : Function} {name : String}
    (member : name ∈ function.referencedGlobals) :
    ∃ register, .address register name ∈ function.instructions := by
  obtain ⟨instruction, listed, same⟩ := List.mem_filterMap.mp member
  cases instruction with
  | address register other =>
      cases same
      exact ⟨register, listed⟩
  | _ => cases same

/-- A reset function names what is known. -/
theorem Code.Function.Restoring.referenced {function : Function} {known : String → Prop}
    {globals : List (Global × Global × Nat)} (restoring : function.Restoring known globals)
    {name : String} (member : name ∈ function.referencedGlobals) : known name := by
  obtain ⟨prologue, moves, blocks, addresses, restores⟩ := restoring.block
  obtain ⟨register, found⟩ := address_of_referenced member
  rw [Function.instructions, blocks, List.flatMap_singleton, List.mem_append] at found
  rcases found with found | found
  · obtain ⟨register', name', same, there⟩ := addresses _ found
    cases same
    exact there
  · obtain ⟨entry, -, destination, source, same, -⟩ := partner_of_mem restores found
    cases same

namespace Code.FunctionBuilder

variable {builder : FunctionBuilder}

/-- A finished function names globals of its builder. -/
theorem referenced_finished (formed : builder.Formed) {name : String}
    (member : name ∈ builder.finished.referencedGlobals) :
    ∃ global ∈ builder.globals, global.name = name := by
  obtain ⟨register, found⟩ := address_of_referenced member
  rw [instructions_finished formed, List.mem_append] at found
  rcases found with found | found
  · rcases formed.prepared _ found with ⟨_, _, _, same, -⟩ | ⟨_, global, listed, same, -⟩
    · cases same
    · cases same
      exact ⟨global, listed, rfl⟩
  · exact (formed.plain _ found).elim

/-- Code that goes on from the entry block leaves no block open but the last one. -/
theorem others_closed {name : String} {parameters : List RegisterType}
    (balanced : (start name parameters).Balanced builder) (id : BlockId)
    (different : id ≠ builder.current) (block : Block) (found : builder.blockAt id = some block) :
    block.terminator? ≠ none := by
  refine balanced.closed id different ?_ block found
  rcases Nat.eq_zero_or_pos id with rfl | positive
  · exact .inr rfl
  · exact .inl positive

theorem exported_of_steps {after : FunctionBuilder} (steps : Steps builder after) :
    after.function.exported = builder.function.exported := by
  induction steps with
  | refl => rfl
  | tail _ step ih =>
      rw [← ih]
      cases step <;> rfl

end Code.FunctionBuilder

/-! ### The module -/

/-- The module of a step: its function and the function that resets what it took over. -/
structure Assembled (options : CompilerOptions) (state : EmissionState Unit) (module : Module) :
    Prop where
  placed : state.Placed module
  formed : ModuleFormed module
  named : module.function? options.functionName = some state.builder.finished
  exported : state.builder.finished.exported = true
  reset : ∃ function known globals, module.function? options.resetName = some function ∧
    function.Restoring known globals ∧ function.verify = .ok () ∧
    (∀ name, known name → (module.global? name).isSome) ∧
    ∀ held : List Storage, (∀ (name : Nat) (storage : Storage), held[name]? = some storage →
      storage.SameShape (state.heap.storage name)) → state.Restores module globals held

section Assemble

variable {options : CompilerOptions} {state : EmissionState Unit} {parameters : List RegisterType}

/-- The module builder when it has taken over the function of a step. -/
structure Collected (state : EmissionState Unit) (builder : ModuleBuilder) : Prop where
  sound : builder.Sound
  globals : ∀ global, global ∈ builder.module.globals ↔ global ∈ state.builder.globals
  functions : builder.module.functions = [state.builder.finished]
  states : builder.states = state.builder.states

theorem collected_of_endFunction (sound : state.Sound)
    (balanced : (FunctionBuilder.start options.functionName parameters).Balanced state.builder)
    {builder : ModuleBuilder}
    (done : ModuleBuilder.endFunction state.builder (ModuleBuilder.start "wren") =
      .ok () builder) : Collected state builder := by
  have formed := sound.builder
  obtain ⟨left, finished, -⟩ := finish_ok formed sound.opened (others_closed balanced)
  rcases ModuleBuilder.endFunction_cases formed.apart (ModuleBuilder.start "wren") with
    ⟨_, failed⟩ | ⟨_, _, _, _, _, _, _, failed⟩ | ⟨function, _, finished', _, fresh, taken⟩
  · cases failed.symm.trans done
  · cases failed.symm.trans done
  · cases finished.symm.trans finished'
    cases taken.symm.trans done
    obtain ⟨all, members⟩ := (ModuleBuilder.sound_start "wren").taking formed.apart fresh
    refine ⟨all.adding ?_ _, fun global => (members global).trans ?_, rfl, rfl⟩
    · intro entry member
      obtain ⟨data, there, there', bytes⟩ := sound.images entry member
      exact ⟨_, (members _).mpr (.inl there), _, (members _).mpr (.inl there'), rfl, rfl, rfl, rfl,
        rfl, bytes⟩
    · exact or_iff_left List.not_mem_nil

namespace Collected

variable {builder : ModuleBuilder} (collected : Collected state builder)
include collected

/-- The states of the step with their images. -/
theorem restorable {globals : List (Global × Global × Nat)}
    (listed : ModuleBuilder.stateGlobals builder.module builder.states = .ok globals)
    {entry : Global × Global × Nat} (member : entry ∈ globals) :
    Restorable builder.module entry := by
  obtain ⟨asked, noted, found, found', bytes⟩ :=
    partner_of_mem (ModuleBuilder.stateGlobals_ok listed) member
  obtain ⟨state', there, image, there', named, named', changes, fixed, data, bytes'⟩ :=
    collected.sound.states asked noted
  have same := ModuleBuilder.global?_of_mem collected.sound.apart there
  have same' := ModuleBuilder.global?_of_mem collected.sound.apart there'
  rw [named] at same
  rw [named'] at same'
  cases Option.some.inj (found.symm.trans same)
  cases Option.some.inj (found'.symm.trans same')
  exact ⟨there, changes, there', fixed, data, bytes.trans bytes'⟩

theorem restores (sound : state.Sound) (faithful : state.Faithful)
    {globals : List (Global × Global × Nat)}
    (listed : ModuleBuilder.stateGlobals builder.module builder.states = .ok globals)
    {held : List Storage} (shapes : ∀ (name : Nat) (storage : Storage),
      held[name]? = some storage → storage.SameShape (state.heap.storage name)) :
    state.Restores builder.module globals held where
  restorable := fun _ member => collected.restorable listed member
  taken := by
    intro name global storage member there
    have noted : global ∈ builder.states.map StateGlobal.state := by
      rw [collected.states, sound.noted]
      exact List.mem_reverse.mpr (List.mem_map_of_mem member)
    obtain ⟨asked, noted', rfl⟩ := List.mem_map.mp noted
    obtain ⟨entry, inside, found, -⟩ :=
      partner_of_mem (ModuleBuilder.stateGlobals_ok listed).flip noted'
    have known := (collected.globals _).mpr (faithful.states name asked.state member).2
    have same : entry.1 = _ := Option.some.inj
      (found.symm.trans (ModuleBuilder.global?_of_mem collected.sound.apart known))
    refine ⟨entry, inside, by rw [same], ?_⟩
    rw [same]
    exact shapes name storage there

end Collected

/-- What is assembled from a step has its function and the function that resets its states. -/
theorem assembled_of_done (sound : state.Sound) (faithful : state.Faithful)
    (steps : Steps (FunctionBuilder.start options.functionName parameters) state.builder)
    (balanced : (FunctionBuilder.start options.functionName parameters).Balanced state.builder)
    {assembled : ModuleBuilder}
    (done : (do
      ModuleBuilder.endFunction state.builder
      ModuleBuilder.emitReset options.resetName : Action ModuleBuilder Unit)
        (ModuleBuilder.start "wren") = .ok () assembled) :
    Assembled options state assembled.module := by
  have grows := Steps.grows steps (formed_start _ _)
  obtain ⟨_, middle, ended, reset⟩ := Action.bind_ok.mp done
  have collected := collected_of_endFunction sound balanced ended
  obtain ⟨globals, function, listed, restoring, named, verified, rfl⟩ :=
    ModuleBuilder.emitReset_ok reset
  have functions : (middle.adding function []).module.functions =
      [state.builder.finished, function] := by
    rw [ModuleBuilder.adding, collected.functions]
    rfl
  have called : state.builder.finished.name = options.functionName := grows.name
  have stepped : WellFormed state.builder.finished :=
    wellFormed_finished sound.builder (others_closed balanced)
  refine ⟨⟨sound, fun global member => (collected.globals global).mpr member,
    collected.sound.apart⟩, ⟨?_, ?_⟩, ?_, ?_, function, _, globals, ?_, restoring, verified,
    fun _ => id, fun held shapes => ?_⟩
  · intro other member
    rw [functions] at member
    rcases List.mem_cons.mp member with rfl | member
    · exact stepped
    · cases List.mem_singleton.mp member
      exact restoring.wellFormed verified
  · intro other member name referenced
    rw [functions] at member
    rcases List.mem_cons.mp member with rfl | member
    · obtain ⟨global, there, rfl⟩ := referenced_finished sound.builder referenced
      exact ModuleBuilder.global?_isSome.mpr
        (List.mem_map_of_mem ((collected.globals global).mpr there))
    · cases List.mem_singleton.mp member
      exact restoring.referenced referenced
  · rw [Module.function?, functions, List.find?_cons_of_pos (by simp [called])]
  · exact exported_of_steps steps
  · have other : state.builder.finished.name ≠ options.resetName := by
      rw [called]
      exact resetName_ne options
    rw [Module.function?, functions, List.find?_cons_of_neg (by simpa using other),
      List.find?_cons_of_pos (by simp [named])]
  · have restores := collected.restores sound faithful listed shapes
    exact ⟨fun entry member => { restores.restorable entry member with }, restores.taken⟩

end Assemble
end TensorGraph

namespace TensorGraph

open Code FunctionBuilder Machine Emission
open Optimize (ModuleFormed EngineRefines freshEngine)

namespace Map

/-! ### The stages of a compilation -/

/-- The parameters of a step, one pointer for each port. -/
def parameterTypes (specs : List PortSpec) : List RegisterType :=
  specs.map fun spec => .pointer spec.dtype

/-- Where the emission of a step begins. -/
def blank (options : CompilerOptions) (specs : List PortSpec) : EmissionState Unit :=
  EmissionState.start Heap.empty (FunctionBuilder.start options.functionName (parameterTypes specs))
    options.hint ()

theorem parametrized_blank (options : CompilerOptions) (specs : List PortSpec) :
    Parametrized specs.length (blank options specs) := by
  change List.range (parameterTypes specs).length = _
  rw [parameterTypes, List.length_map]

/-- The function of a step and the function that resets its states, in one module. -/
def assemble (options : CompilerOptions) (builder : FunctionBuilder) : Action ModuleBuilder Unit := do
  ModuleBuilder.endFunction builder
  ModuleBuilder.emitReset options.resetName

theorem finished_ok {σ α : Type} {result : EStateM.Result Fault σ α} {answer : α} {state : σ} :
    finished result = .ok (answer, state) ↔ result = .ok answer state := by
  cases result <;> simp [finished]

/-- What is emitted for a map, step by step. -/
structure Emitted (map : Map) (options : CompilerOptions) (refined : Map)
    (inputs outputs : List PortSpec) (state : EmissionState Unit) (module : Module) : Prop where
  made : map.refine options.refinePasses = .ok refined
  inputSpecs : refined.inputSpecs = .ok inputs
  outputSpecs : refined.outputSpecs = .ok outputs
  step : refined.emitStep inputs outputs (blank options (inputs ++ outputs)) = .ok () state
  assembled : ∃ assembled, assemble options state.builder (ModuleBuilder.start "wren") =
    .ok () assembled ∧ assembled.module = module

theorem emit_ok {map : Map} {options : CompilerOptions} {emitted : EmittedMap}
    (done : map.emit options = .ok emitted) :
    ∃ refined state module, Emitted map options refined emitted.inputs emitted.outputs state module ∧
      optimized options module = .ok emitted.module := by
  obtain ⟨refined, made, done⟩ := ok_of_bind done
  obtain ⟨inputs, named, done⟩ := ok_of_bind done
  obtain ⟨outputs, named', done⟩ := ok_of_bind done
  obtain ⟨⟨_, state⟩, stepped, done⟩ := ok_of_bind done
  obtain ⟨⟨_, assembled⟩, collected, done⟩ := ok_of_bind done
  obtain ⟨module, improved, done⟩ := ok_of_bind done
  cases done
  exact ⟨refined, state, assembled.module, ⟨ok_of_mapError made, ok_of_mapError named,
    ok_of_mapError named', finished_ok.mp stepped, assembled, finished_ok.mp collected, rfl⟩, improved⟩

end Map

/-! ### Ports of a call -/

theorem Buffered.types {specs : List PortSpec} {buffers : List Storage}
    (buffered : Buffered specs buffers) :
    Map.parameterTypes specs = buffers.map fun buffer => .pointer buffer.dtype := by
  induction buffered with
  | nil => rfl
  | cons head _ ih =>
      rw [List.map_cons, ← ih, head.1]
      rfl

/-- The parameters of some ports stand for their buffers, and may be written. -/
theorem Stage.receives (stage : Stage) (held before after : List Storage) {buffers : List Storage}
    {specs : List PortSpec} (buffered : Buffered specs buffers) :
    Receives (stage.entry held (before ++ buffers ++ after))
      (bufferValues (held.length + before.length) specs) (portValues before.length specs) := by
  induction buffered generalizing before with
  | nil => exact .nil
  | @cons spec buffer specs buffers head _ ih =>
      have later := ih (before ++ [buffer])
      rw [List.append_assoc before, List.length_append, List.length_singleton, ← Nat.add_assoc,
        List.singleton_append] at later
      have found : (before ++ buffer :: buffers ++ after)[before.length]? = some buffer := by
        rw [List.append_assoc, List.getElem?_append_right (Nat.le_refl _), Nat.sub_self]
        rfl
      have receives := Stage.entry_receives stage held found (Layout.packed spec.shape)
      rw [head.1] at receives
      exact .cons receives later

/-! ### Memory of a call -/

/-- What the nodes hold may be taken over, whatever is in it. -/
theorem Stage.entry_placed {stage : Stage} {memory : List (List Storage)}
    {held buffers : List Storage} (shapes : List.Forall₂ Storage.SameShape memory.flatten held) :
    List.Forall₂ (List.Forall₂ (Kept (seedsBelow held.length) (stage.entry held buffers)))
      (memoryHandles 0 memory) (memoryHandles 0 memory) := by
  refine List.forall₂_same.mpr fun values inside => List.forall₂_same.mpr fun value member => ?_
  have listed : value ∈ handles 0 held := by
    rw [← handles_of_sameShape shapes, ← memoryHandles_flatten]
    exact List.mem_flatten.mpr ⟨values, inside, member⟩
  obtain ⟨storage, -, holds⟩ :=
    partner_of_mem (handles_hold Heap.empty held) listed
  exact Stage.entry_kept holds

namespace Map.Emitted

variable {map refined : Map} {options : CompilerOptions} {inputs outputs : List PortSpec}
  {state : EmissionState Unit} {module : Module}
  (emitted : Emitted map options refined inputs outputs state module)
include emitted

theorem outputs_length : outputs.length = refined.outputs.length :=
  (mapM_forall₂.mp emitted.outputSpecs).length_eq.symm

theorem inputs_length : inputs.length = refined.inputs.length :=
  (mapM_forall₂.mp emitted.inputSpecs).length_eq.symm

/-- The code stands for the step on the host, in whatever module it is put. -/
theorem realized (stage : Stage) {held ins outs : List Storage}
    (shapes : List.Forall₂ Storage.SameShape refined.model.memory.flatten held)
    (taken : Buffered inputs ins) (given : Buffered outputs outs) :
    Realized (seedsBelow held.length) (stage.entry held (ins ++ outs))
      (refined.step outputs refined.model.placedState (bufferValues held.length inputs)
        (bufferValues (held.length + ins.length) outputs) : Host Unit Unit)
      (EmissionState.start refined.model.placed (taking options.functionName (ins ++ outs))
        options.hint ()) () state fun _ _ _ => True := by
  have parametrized := parametrized_blank options (inputs ++ outputs)
  obtain ⟨values, middle, ran, written⟩ := emitStep_ok parametrized rfl emitted.step
  have before : { blank options (inputs ++ outputs) with heap := refined.model.placed } =
      EmissionState.start refined.model.placed (taking options.functionName (ins ++ outs))
        options.hint () := by
    rw [blank, Buffered.types (List.rel_append taken given)]
    rfl
  have parametrized' : Parametrized (inputs ++ outputs).length
      { blank options (inputs ++ outputs) with heap := refined.model.placed } := parametrized
  rw [before] at ran parametrized'
  have received := Stage.receives stage held [] outs taken
  have receives := Stage.receives stage held ins [] given
  rw [List.append_nil, ← taken.length_eq] at receives
  exact step_realized parametrized' (Stage.entry_ready shapes _ _) ran written
    emitted.outputs_length (Stage.entry_placed shapes) (received.imp fun _ _ both => both.1)
    (taken.length_eq ▸ receives)

/-- What was emitted can be put into a module. -/
theorem formed :
    (blank options (inputs ++ outputs)).Grows state ∧ refined.model.placed.Grows state.heap ∧
      state.Faithful ∧ ∀ name global, (name, global) ∈ state.states →
        name < refined.model.memory.flatten.length := by
  -- Any stage will do to see what the code is like.
  have placed : (blank options (inputs ++ outputs)).Placed ⟨"", [], []⟩ :=
    ⟨EmissionState.sound_start _ _ _ _ _, fun _ member => absurd member List.not_mem_nil,
      List.nodup_nil⟩
  have realized := emitted.realized (placed.stage 0 (Nat.le_refl 0))
    (List.forall₂_same.mpr fun storage _ => ⟨rfl, rfl⟩)
    (buffered_blank inputs) (buffered_blank outputs)
  obtain ⟨later, _, -, ready, -⟩ := realized.possible
  have same : taking options.functionName _ = (blank options (inputs ++ outputs)).builder :=
    congrArg (FunctionBuilder.start options.functionName)
      (Buffered.types (List.rel_append (buffered_blank inputs) (buffered_blank outputs))).symm
  have grows := realized.grows
  rw [same] at grows
  refine ⟨⟨grows.sound, grows.steps, grows.balanced, grows.constants, grows.states, grows.depth⟩,
    realized.heap, ready.faithful, fun name global member => ?_⟩
  have seeded := ready.fits.taken name global member
  unfold seedsBelow at seeded
  split at seeded
  case isTrue below => exact below
  case isFalse => cases seeded

theorem inModule : Assembled options state module := by
  obtain ⟨grows, -, faithful, -⟩ := emitted.formed
  obtain ⟨assembled, done, rfl⟩ := emitted.assembled
  exact assembled_of_done grows.sound faithful grows.steps grows.balanced done

theorem covers {ins outs : List Storage} (taken : Buffered inputs ins)
    (given : Buffered outputs outs) :
    (taking options.functionName (ins ++ outs)).Grows state.builder := by
  have same : taking options.functionName (ins ++ outs) =
      (blank options (inputs ++ outputs)).builder :=
    congrArg (FunctionBuilder.start options.functionName)
      (Buffered.types (List.rel_append taken given)).symm
  rw [same]
  exact emitted.formed.1.builder (EmissionState.sound_start _ _ _ _ _)

end Map.Emitted

/-! ### The engine -/

open Map in
theorem Map.optimized_refines {options : CompilerOptions} {module module' : Module}
    (formed : ModuleFormed module) (done : Map.optimized options module = .ok module')
    (limit : Nat) : EngineRefines (freshEngine module limit) (freshEngine module' limit) := by
  unfold Map.optimized at done
  split at done
  · obtain ⟨flags, changed, after, optimized⟩ := Optimize.Optimizer.optimize_eq
      (Optimize.Optimizer.ofConfig options.config) rfl module
    obtain ⟨⟨answer, _⟩, here, done⟩ := ok_of_bind done
    cases (finished_ok.mp here).symm.trans optimized
    cases done
    exact (Optimize.Optimizer.optimized_improves _ formed).refines limit
  · cases done
    exact .refl

/-- A compiled map has an engine that answers as one with the code that was written. -/
theorem Map.compile_ok {map : Map} {options : CompilerOptions} {compiled : CompiledMap}
    (done : map.compile options = .ok compiled) :
    ∃ refined state module,
      Map.Emitted map options refined compiled.inputs compiled.outputs state module ∧
      compiled.functionName = options.functionName ∧ compiled.resetName = options.resetName ∧
      EngineRefines (freshEngine module Engine.standardLimit) compiled.engine := by
  obtain ⟨emission, emitted, done⟩ := ok_of_bind done
  obtain ⟨refined, state, module, stages, optimized⟩ := Map.emit_ok emitted
  obtain ⟨engine, made, same⟩ := ok_of_bind (ok_of_mapError done)
  cases same
  have verified : emission.module.verify = .ok () := by
    obtain ⟨_, verified, -⟩ := ok_of_bind made
    exact verified
  rw [Optimize.ofModule_eq verified] at made
  cases made
  exact ⟨refined, state, module, stages, rfl, rfl,
    Map.optimized_refines stages.inModule.formed optimized _⟩

end TensorGraph

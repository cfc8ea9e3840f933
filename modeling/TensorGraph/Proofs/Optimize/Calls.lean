/-
Calls of optimized code.

An engine refines another when its module comes from the other's by
simulations and its globals hold the same.  A call that succeeds on the one
succeeds on the other with the same answers, and leaves engines that refine
each other again; a call that fails in arithmetic does so as well.
-/

import TensorGraph.Proofs.Machine.Call
import TensorGraph.Proofs.Optimize.Simulation

namespace TensorGraph.Optimize

open Code Machine

variable {module module' : Module}

/-- Two engines between calls. -/
structure EngineRelation (link : ModuleSimulation module module') (engine engine' : Engine) :
    Prop where
  holds : engine.module = module
  holds' : engine'.module = module'
  limit : engine'.limit = engine.limit
  size : engine.memory.size = module.globals.length
  size' : engine'.memory.size = module'.globals.length
  memory : MemoryRelation link.globals engine.memory engine'.memory

/-- How many of the arguments are memory. -/
def bufferCount (arguments : List Argument) : Nat :=
  arguments.countP fun argument =>
    match argument with
    | .buffer _ => true
    | .scalar _ => false

/-- Memory and arguments laid out for two calls alike. -/
structure LayoutRelation (mapping : Renaming) (lower lower' : Nat) (memory memory' : Memory) :
    Prop where
  shared : MemoryRelation mapping memory memory'
  below : lower ≤ memory.size
  below' : lower' ≤ memory'.size
  floors : ∀ allocation counterpart, mapping allocation = some counterpart →
    (allocation < lower ↔ counterpart < lower')

theorem LayoutRelation.allocate {mapping : Renaming} {lower lower' : Nat} {memory memory' : Memory}
    (layout : LayoutRelation mapping lower lower' memory memory') (image : Array UInt8) :
    LayoutRelation (mapping.extend memory.size memory'.size) lower lower' (memory.allocate image)
      (memory'.allocate image) := by
  refine ⟨layout.shared.allocate image, ?_, ?_, ?_⟩
  · have := layout.below
    rw [size_allocate]
    omega
  · have := layout.below'
    rw [size_allocate]
    omega
  · intro allocation counterpart renamed
    simp only [Renaming.extend] at renamed
    split at renamed
    · cases renamed
      have := layout.below
      have := layout.below'
      omega
    · exact layout.floors allocation counterpart renamed

theorem laid_related {function function' : Function}
    (types : function'.registerTypes = function.registerTypes)
    {arguments : List Argument} {parameters : List Register}
    (fitting : parameters.length = arguments.length)
    {mapping : Renaming} {lower lower' : Nat} {memory memory' laid : Memory} {slots : List Slot}
    (layout : LayoutRelation mapping lower lower' memory memory')
    (all : Laid function (arguments.zip parameters) memory slots laid) :
    ∃ wider slots' laid', Laid function' (arguments.zip parameters) memory' slots' laid' ∧
      LayoutRelation wider lower lower' laid laid' ∧
      List.Forall₂ (SlotRelation wider) slots slots' ∧
      (∀ allocation counterpart, mapping allocation = some counterpart →
        wider allocation = some counterpart) ∧
      ∀ index < bufferCount arguments, wider (memory.size + index) = some (memory'.size + index) := by
  induction arguments generalizing parameters mapping memory memory' slots with
  | nil =>
      cases all
      exact ⟨mapping, [], memory', .done memory', layout, .nil, fun _ _ same => same,
        fun index impossible => absurd impossible (Nat.not_lt_zero _)⟩
  | cons argument arguments inductionHypothesis =>
      cases parameters with
      | nil => cases fitting
      | cons parameter parameters =>
          have rest : parameters.length = arguments.length := Nat.succ.inj fitting
          have typed : function'.typeOf? parameter = function.typeOf? parameter := by
            simp only [Function.typeOf?, types]
          cases all with
          | buffer storage _ _ _ _ others declared further =>
              obtain ⟨wider, others', laid', further', layout', slots', contained, placed⟩ :=
                inductionHypothesis rest (layout.allocate _) further
              have here : wider memory.size = some memory'.size :=
                contained _ _ (by simp [Renaming.extend])
              refine ⟨wider, .pointer memory'.nextPointer :: others', laid',
                .buffer storage parameter _ _ _ _ (typed.trans declared) further', layout',
                .cons (.pointer _ _ here rfl) slots', ?_, ?_⟩
              · intro allocation counterpart renamed
                have within := (layout.shared.bounds renamed).1
                refine contained _ _ ?_
                simp only [Renaming.extend]
                rw [if_neg (by omega)]
                exact renamed
              · intro index within
                cases index with
                | zero => exact here
                | succ index =>
                    have := placed index (by
                      simp only [bufferCount, List.countP_cons] at within ⊢
                      simpa using within)
                    rw [size_allocate, size_allocate] at this
                    rw [show memory.size + (index + 1) = memory.size + 1 + index by omega,
                      show memory'.size + (index + 1) = memory'.size + 1 + index by omega]
                    exact this
          | scalar value _ _ _ _ others declared further =>
              obtain ⟨wider, others', laid', further', layout', slots', contained, placed⟩ :=
                inductionHypothesis rest layout further
              refine ⟨wider, .element value :: others', laid',
                .scalar value parameter _ _ _ _ (typed.trans declared) further', layout',
                .cons (.element value) slots', contained, ?_⟩
              intro index within
              refine placed index ?_
              simp only [bufferCount, List.countP_cons] at within ⊢
              simpa using within

/-- Buffers are copied back alike from allocations that hold the same. -/
theorem copyBack_related {memory memory' : Memory} (arguments : List Argument) (next next' : Nat)
    (alike : ∀ index < bufferCount arguments,
      memory'.allocations.getD (next' + index) #[] = memory.allocations.getD (next + index) #[]) :
    Engine.copyBack memory' next' arguments = Engine.copyBack memory next arguments := by
  induction arguments generalizing next next' with
  | nil => rfl
  | cons argument arguments inductionHypothesis =>
      cases argument with
      | scalar value =>
          simp only [Engine.copyBack]
          rw [inductionHypothesis next next' (by
            intro index within
            refine alike index ?_
            simp only [bufferCount, List.countP_cons] at within ⊢
            omega)]
      | buffer storage =>
          simp only [Engine.copyBack]
          have here := alike 0 (by simp [bufferCount])
          rw [Nat.add_zero, Nat.add_zero] at here
          rw [here, inductionHypothesis (next + 1) (next' + 1) (by
            intro index within
            have := alike (index + 1) (by
              simp only [bufferCount, List.countP_cons] at within ⊢
              simpa using within)
            rw [show next + 1 + index = next + (index + 1) by omega,
              show next' + 1 + index = next' + (index + 1) by omega]
            exact this)]

variable {link : ModuleSimulation module module'} {engine engine' : Engine}

/-- What the first states of two related calls have in common. -/
structure Beginning (link : ModuleSimulation module module') (engine engine' : Engine)
    (name : String) (arguments : List Argument) (state : State) (base : Renaming)
    (state' start' : State) : Prop where
  prepared : Prepared engine' name arguments state'
  reaches : Reaches module' state' start'
  related : StateRelation link base state start'
  buffers : ∀ index < bufferCount arguments,
    base (engine.memory.size + index) = some (engine'.memory.size + index)
  floors : ∀ allocation counterpart, base allocation = some counterpart →
    (allocation < engine.memory.size ↔ counterpart < engine'.memory.size)

theorem prepared_related (related : EngineRelation link engine engine') {name : String}
    {arguments : List Argument} {state : State}
    (prepared : Prepared engine name arguments state) :
    ∃ base state' start', Beginning link engine engine' name arguments state base state' start' := by
  obtain ⟨function, slots, memory, frame, found, laid, begun, rfl⟩ := prepared.entered
  obtain ⟨named, visible, fitting⟩ := function_of_callee found
  rw [related.holds] at named
  obtain ⟨function', named', ⟨simulation⟩⟩ := link.exported name function named visible
  have layout : LayoutRelation link.globals engine.memory.size engine'.memory.size engine.memory
      engine'.memory := by
    refine ⟨related.memory, Nat.le_refl _, Nat.le_refl _, ?_⟩
    intro allocation counterpart renamed
    have := related.memory.bounds renamed
    omega
  obtain ⟨base, slots', memory', laid', layout', relatedSlots, contained, placed⟩ :=
    laid_related simulation.types fitting layout laid
  obtain ⟨frame', block, blocks, block', blocks', begun', shape, shape', start, start', running,
    running', lowest, lowest', agreement⟩ :=
    enter_related simulation relatedSlots memory'.size begun
  obtain ⟨entry, entries, position', sameShape, inward, follows⟩ :=
    simulation.entry block blocks shape
  rw [shape'] at sameShape
  injection sameShape with sameEntry _
  subst sameEntry
  let state' : State :=
    { memory := memory'
      frame := frame'
      callers := []
      steps := 0 }
  obtain ⟨inner', reaches, there, same⟩ := inward.reaches module' state' running' start'
  have callee' : engine'.callee name arguments.length = .ok function' := by
    rw [← fitting, ← simulation.parameters]
    exact callee_of_function (by rw [related.holds']; exact named')
      (by rw [simulation.exported]; exact visible)
  refine ⟨base, state', { state' with frame := inner' }, ?_, reaches, ?_, placed, layout'.floors⟩
  · refine ⟨⟨function', slots', memory', frame', callee', ?_, begun', rfl⟩⟩
    rw [simulation.parameters]
    exact laid'
  · refine ⟨contained, ⟨base, layout'.shared, ?_, ?_⟩, ?_, ?_, Nat.le_refl _⟩
    · refine FrameRelation.of running (same.function.trans running')
        (List.mem_of_find?_eq_some named) simulation ?_ ?_ ?_ ?_
      · rw [start, there]
        exact follows
      · exact agreement.congr rfl rfl (by rw [same.function]) same.registers
      · intro allocation counterpart renamed
        rw [lowest]
        exact ⟨renamed, (layout'.shared.bounds renamed).1⟩
      · intro allocation counterpart renamed
        have := layout'.shared.bounds renamed
        rw [lowest, same.floor]
        simp only [state', lowest']
        omega
    · trivial
    · exact Nat.le_of_eq lowest
    · exact Nat.le_of_eq (same.floor.trans lowest')

/-- What a call leaves in the globals is what the related call leaves. -/
theorem keeping_related (related : EngineRelation link engine engine') {base : Renaming}
    (contained : ∀ index index', link.globals index = some index' → base index = some index')
    (floors : ∀ allocation counterpart, base allocation = some counterpart →
      (allocation < engine.memory.size ↔ counterpart < engine'.memory.size))
    {memory memory' : Memory} (shared : MemoryRelation base memory memory')
    (enough : engine.memory.size ≤ memory.size) (enough' : engine'.memory.size ≤ memory'.size) :
    EngineRelation link (engine.keeping memory) (engine'.keeping memory') := by
  have count : engine.module.globals.length = engine.memory.size := by
    rw [related.holds, related.size]
  have count' : engine'.module.globals.length = engine'.memory.size := by
    rw [related.holds', related.size']
  unfold Engine.keeping
  rw [count, count']
  refine ⟨related.holds, related.holds', related.limit, ?_, ?_, ?_⟩
  · exact (size_release enough).trans related.size
  · exact (size_release enough').trans related.size'
  · refine (shared.release floors).restrict ?_
    intro allocation counterpart renamed
    exact Renaming.below_some.mpr
      ⟨(related.memory.bounds renamed).1, contained _ _ renamed⟩

theorem getD_of_shared {base : Renaming} {memory memory' : Memory}
    (shared : MemoryRelation base memory memory') {allocation counterpart : Nat}
    (renamed : base allocation = some counterpart) :
    memory'.allocations.getD counterpart #[] = memory.allocations.getD allocation #[] := by
  obtain ⟨image, here, there⟩ := shared.shared allocation counterpart renamed
  simp [here, there]

/-- A call that succeeds succeeds on the related engine, with the same answers. -/
theorem call_related (related : EngineRelation link engine engine') {name : String}
    {arguments results : List Argument} {after : Engine}
    (called : Engine.call name arguments engine = .ok results after) :
    ∃ after', Engine.call name arguments engine' = .ok results after' ∧
      EngineRelation link after after' := by
  obtain ⟨state, prepared⟩ := prepared_of_ok called
  obtain ⟨final, ends, within, copied, rfl⟩ := (call_ok_iff prepared).mp called
  obtain ⟨base, state', start', beginning⟩ := prepared_related related prepared
  rw [related.holds] at ends
  obtain ⟨final', ⟨last', reaches', returns'⟩, shared, steps⟩ :=
    ends_related beginning.related ends
  have ends' : Ends engine'.module state' final' := by
    rw [related.holds']
    exact ⟨last', beginning.reaches.trans reaches', returns'⟩
  refine ⟨engine'.keeping final'.memory, ?_, ?_⟩
  · refine (call_ok_iff beginning.prepared).mpr ⟨final', ends', ?_, ?_, rfl⟩
    · rw [related.limit]
      omega
    · rw [← copied]
      refine copyBack_related arguments _ _ ?_
      intro index below
      exact getD_of_shared shared (beginning.buffers index below)
  · exact keeping_related related beginning.related.globals beginning.floors shared
      (size_of_ends prepared.above ends) (size_of_ends beginning.prepared.above ends')

/-- A call of the engine stops in arithmetic whose result was to be stored. -/
def CallBreaks (engine : Engine) (name : String) (arguments : List Argument) (cause : Error)
    (function : String) (after : Engine) : Prop :=
  ∃ state final, Prepared engine name arguments state ∧
    Breaks engine.module state cause final ∧ final.steps ≤ engine.limit ∧
    final.frame.function.name = function ∧ after = engine.keeping final.memory

theorem call_of_breaks {name : String} {arguments : List Argument} {cause : Error}
    {function : String} {after : Engine}
    (breaks : CallBreaks engine name arguments cause function after) :
    Engine.call name arguments engine =
      .error ((Trap.arithmetic cause).fault function) after := by
  obtain ⟨state, final, prepared, broken, within, rfl, rfl⟩ := breaks
  exact call_of_traps prepared broken.traps (by simp) within

theorem callBreaks_related (related : EngineRelation link engine engine') {name : String}
    {arguments : List Argument} {cause : Error} {function : String} {after : Engine}
    (breaks : CallBreaks engine name arguments cause function after) :
    ∃ after', CallBreaks engine' name arguments cause function after' ∧
      EngineRelation link after after' := by
  obtain ⟨state, final, prepared, broken, within, rfl, rfl⟩ := breaks
  obtain ⟨base, state', start', beginning⟩ := prepared_related related prepared
  rw [related.holds] at broken
  obtain ⟨final', broken', shared, steps, named⟩ := breaks_related beginning.related broken
  obtain ⟨last', instruction, rest, target, pointer, reaches', found, failed, defines, stored,
    rfl⟩ := broken'
  have brokenThere : Breaks engine'.module state' cause (last'.fetched rest) := by
    rw [related.holds']
    exact ⟨last', instruction, rest, target, pointer, beginning.reaches.trans reaches', found,
      failed, defines, stored, rfl⟩
  refine ⟨_, ⟨state', _, beginning.prepared, brokenThere, ?_, named, rfl⟩, ?_⟩
  · rw [related.limit]
    omega
  · exact keeping_related related beginning.related.globals beginning.floors shared
      (size_of_traps prepared.above broken.traps)
      (size_of_traps beginning.prepared.above brokenThere.traps)

/-- The contents of the globals that are left agree. -/
theorem global_related (related : EngineRelation link engine engine') {name : String}
    (left : (module'.global? name).isSome) : engine'.global name = engine.global name := by
  obtain ⟨global, found'⟩ := Option.isSome_iff_exists.mp left
  obtain ⟨found, index, index', here, there, renamed⟩ := link.kept name global found'
  simp only [Engine.global, related.holds, related.holds', found, found', here, there]
  rw [getD_of_shared related.memory renamed]

/-! ### Chains of simulations -/

/-- Two engines whose modules are linked by one simulation. -/
def EngineStep (engine engine' : Engine) : Prop :=
  ∃ (module module' : Module) (link : ModuleSimulation module module'),
    EngineRelation link engine engine'

abbrev EngineRefines : Engine → Engine → Prop :=
  Relation.ReflTransGen EngineStep

theorem call_refines {engine engine' : Engine} (refines : EngineRefines engine engine')
    {name : String} {arguments results : List Argument} {after : Engine}
    (called : Engine.call name arguments engine = .ok results after) :
    ∃ after', Engine.call name arguments engine' = .ok results after' ∧
      EngineRefines after after' := by
  induction refines with
  | refl => exact ⟨after, called, .refl⟩
  | tail _ step inductionHypothesis =>
      obtain ⟨middle, calledMiddle, refinesMiddle⟩ := inductionHypothesis
      obtain ⟨module, module', link, related⟩ := step
      obtain ⟨after', called', relatedAfter⟩ := call_related related calledMiddle
      exact ⟨after', called', refinesMiddle.tail ⟨module, module', link, relatedAfter⟩⟩

theorem callBreaks_refines {engine engine' : Engine} (refines : EngineRefines engine engine')
    {name : String} {arguments : List Argument} {cause : Error} {function : String}
    {after : Engine} (breaks : CallBreaks engine name arguments cause function after) :
    ∃ after', CallBreaks engine' name arguments cause function after' ∧
      EngineRefines after after' := by
  induction refines with
  | refl => exact ⟨after, breaks, .refl⟩
  | tail _ step inductionHypothesis =>
      obtain ⟨middle, breaksMiddle, refinesMiddle⟩ := inductionHypothesis
      obtain ⟨module, module', link, related⟩ := step
      obtain ⟨after', breaks', relatedAfter⟩ := callBreaks_related related breaksMiddle
      exact ⟨after', breaks', refinesMiddle.tail ⟨module, module', link, relatedAfter⟩⟩

theorem callAll_refines {engine engine' : Engine} (refines : EngineRefines engine engine')
    (calls : List (String × List Argument)) {results : List (List Argument)} {after : Engine}
    (called : Engine.callAll calls engine = .ok results after) :
    ∃ after', Engine.callAll calls engine' = .ok results after' ∧ EngineRefines after after' := by
  induction calls generalizing engine engine' results with
  | nil =>
      cases called
      exact ⟨engine', rfl, refines⟩
  | cons call calls inductionHypothesis =>
      obtain ⟨name, arguments⟩ := call
      obtain ⟨first, middle, others, here, later, rfl⟩ := callAll_cons.mp called
      obtain ⟨middle', here', refinesMiddle⟩ := call_refines refines here
      obtain ⟨after', later', refinesAfter⟩ := inductionHypothesis refinesMiddle later
      exact ⟨after', callAll_cons.mpr ⟨first, middle', others, here', later', rfl⟩, refinesAfter⟩

theorem global_refines {engine engine' : Engine} (refines : EngineRefines engine engine')
    {name : String} (left : (engine'.module.global? name).isSome) :
    engine'.global name = engine.global name := by
  induction refines with
  | refl => rfl
  | tail _ step inductionHypothesis =>
      obtain ⟨module, module', link, related⟩ := step
      rw [related.holds'] at left
      rw [global_related related left]
      refine inductionHypothesis ?_
      obtain ⟨global, found⟩ := Option.isSome_iff_exists.mp left
      rw [related.holds, (link.kept name global found).1]
      rfl

/-! ### Limits -/

theorem EngineRefines.withLimit {engine engine' : Engine} (refines : EngineRefines engine engine')
    (limit : Nat) : EngineRefines (engine.withLimit limit) (engine'.withLimit limit) := by
  refine refines.lift (fun engine : Engine => engine.withLimit limit) ?_
  rintro engine engine' ⟨module, module', link, related⟩
  exact ⟨module, module', link, { related with limit := rfl }⟩

theorem EngineRefines.limit {engine engine' : Engine} (refines : EngineRefines engine engine') :
    engine'.limit = engine.limit := by
  induction refines with
  | refl => rfl
  | tail _ step same =>
      obtain ⟨_, _, _, related⟩ := step
      exact related.limit.trans same

/-- What two engines remember does not depend on their limits. -/
theorem EngineRefines.of_withLimit {engine engine' : Engine} {limit : Nat}
    (refines : EngineRefines (engine.withLimit limit) (engine'.withLimit limit))
    (same : engine'.limit = engine.limit) : EngineRefines engine engine' := by
  have here : (engine'.withLimit limit).withLimit engine.limit = engine' := by
    rw [← same]
    rfl
  exact here ▸ refines.withLimit engine.limit

section Limits

variable {engine engine' : Engine} (refines : EngineRefines engine engine') {name : String}
  {arguments : List Argument} {start final : State} (prepared : Prepared engine name arguments start)
include refines prepared

/-- The refined engine answers a call that comes to its end, unless the limit stops it. -/
theorem call_refines_ends (ends : Ends engine.module start final) {results : List Argument}
    (copied : Engine.copyBack final.memory engine.memory.size arguments = .ok () results) :
    (∃ after', Engine.call name arguments engine' = .ok results after' ∧
      EngineRefines (engine.keeping final.memory) after') ∨
    ∃ function after', Engine.call name arguments engine' =
      .error (Trap.stepLimit.fault function) after' := by
  -- With a limit that is high enough the call is answered by both engines.
  have prepared' : Prepared (engine.withLimit (max final.steps engine.limit)) name arguments start :=
    ⟨prepared.entered⟩
  obtain ⟨after', called, related⟩ := call_refines (refines.withLimit _)
    ((call_ok_iff prepared').mpr ⟨final, ends, Nat.le_max_left _ _, copied, rfl⟩)
  obtain ⟨start', there⟩ := prepared_of_ok called
  obtain ⟨final', ends', -, copied', rfl⟩ := (call_ok_iff there).mp called
  have there' : Prepared engine' name arguments start' := ⟨there.entered⟩
  by_cases within : final'.steps ≤ engine'.limit
  · exact .inl ⟨engine'.keeping final'.memory,
      (call_ok_iff there').mpr ⟨final', ends', within, copied', rfl⟩,
      .of_withLimit related refines.limit⟩
  · obtain ⟨count, halts⟩ := ends'.halts
    exact .inr (call_limited there' halts (Nat.not_le.mp within))

/-- The refined engine stops where arithmetic stops the call, unless the limit stops it before. -/
theorem call_refines_breaks {cause : Error} (broken : Breaks engine.module start cause final) :
    (∃ function after', Engine.call name arguments engine' =
        .error ((Trap.arithmetic cause).fault function) after' ∧
      EngineRefines (engine.keeping final.memory) after') ∨
    ∃ function after', Engine.call name arguments engine' =
      .error (Trap.stepLimit.fault function) after' := by
  have prepared' : Prepared (engine.withLimit (max final.steps engine.limit)) name arguments start :=
    ⟨prepared.entered⟩
  obtain ⟨after', ⟨start', final', there, broken', -, -, rfl⟩, related⟩ :=
    callBreaks_refines (refines.withLimit _)
      ⟨start, final, prepared', broken, Nat.le_max_left _ _, rfl, rfl⟩
  have there' : Prepared engine' name arguments start' := ⟨there.entered⟩
  by_cases within : final'.steps ≤ engine'.limit
  · exact .inl ⟨_, engine'.keeping final'.memory,
      call_of_breaks ⟨start', final', there', broken', within, rfl, rfl⟩,
      .of_withLimit related refines.limit⟩
  · obtain ⟨count, halts⟩ := broken'.traps.halts
    exact .inr (call_limited there' halts (Nat.not_le.mp within))

end Limits

/-! ### Engines to begin with -/

/-- The engine of a module before its first call. -/
def freshEngine (module : Module) (limit : Nat) : Engine :=
  { module := module
    memory :=
      { allocations := (module.globals.map fun global => global.data.bytes.toArray).toArray }
    limit := limit }

theorem ofModule_eq {module : Module} (accepted : module.verify = .ok ()) :
    Engine.ofModule module = .ok (freshEngine module Engine.standardLimit) := by
  simp only [Engine.ofModule, accepted, bind, Except.bind]
  rfl

theorem fresh_related (link : ModuleSimulation module module') (limit : Nat) :
    EngineRelation link (freshEngine module limit) (freshEngine module' limit) := by
  refine ⟨rfl, rfl, rfl, by simp [freshEngine, Memory.size], by simp [freshEngine, Memory.size],
    link.increasing, ?_⟩
  intro index index' renamed
  obtain ⟨within, within'⟩ := link.bounds index index' renamed
  have same := link.alike index index' renamed
  have here : module.globals[index]? = some module.globals[index] :=
    List.getElem?_eq_getElem within
  rw [here] at same
  refine ⟨module.globals[index].data.bytes.toArray, ?_, ?_⟩
  · simp [freshEngine, here]
  · simp [freshEngine, same]

end TensorGraph.Optimize

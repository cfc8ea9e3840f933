/-
Improvements.

An improvement of a function is well-formed again, simulates the function and
has no instruction that does not come from one of it.  A module in which
functions are improved simulates the module, so calls go on as before.
-/

import TensorGraph.Proofs.Optimize.Calls
import TensorGraph.Proofs.Optimize.WellFormed

namespace TensorGraph.Optimize

open Code Machine

/-! ### Without constants -/

theorem substitute_nil (operand : Operand) : Constants.substitute [] operand = operand := by
  cases operand <;> rfl

theorem mapOperands_of_fixed {change : Operand → Operand} (fixed : ∀ operand, change operand = operand)
    (instruction : Instruction) : instruction.mapOperands change = instruction := by
  have same : change = id := funext fixed
  subst same
  cases instruction <;> simp [Instruction.mapOperands]

/-- The header of a function, which no pass touches. -/
structure SameHeader (function function' : Function) : Prop where
  name : function'.name = function.name
  exported : function'.exported = function.exported
  parameters : function'.parameters = function.parameters
  types : function'.registerTypes = function.registerTypes

/-- What a pass without constants has to show. -/
structure PlainSimulation (function function' : Function) where
  live : Register → Prop
  follows : Position → Position → Prop
  header : SameHeader function function'
  used : ∀ instruction ∈ function.instructions, ∀ register ∈ instruction.uses, live register
  within : ∀ position position', follows position position' →
    ∀ instruction ∈ position.pending, instruction ∈ function.instructions
  entry : ∀ block blocks, function.blocks = block :: blocks →
    ∃ block' blocks' position', function'.blocks = block' :: blocks' ∧
      Jumps function' (startOf block') position' ∧ follows (startOf block) position'
  instruction : ∀ instruction pending terminator? position',
    follows ⟨instruction :: pending, terminator?⟩ position' →
    ((∃ target, instruction.target? = some target ∧ ¬ live target) ∧
        follows ⟨pending, terminator?⟩ position') ∨
      ∃ pending' terminator'?,
        Jumps function' position' ⟨instruction :: pending', terminator'?⟩ ∧
        follows ⟨pending, terminator?⟩ ⟨pending', terminator'?⟩
  jump : ∀ target position', follows ⟨[], some (.jump target)⟩ position' →
    ∀ block, Frame.blockOf? function target = some block →
    ∃ next, Jumps function' position' next ∧ follows (startOf block) next
  branch : ∀ condition onTrue onFalse hint? position',
    follows ⟨[], some (.branch condition onTrue onFalse hint?)⟩ position' →
    (∀ register, condition.register? = some register → live register) ∧
      ∃ onTrue' onFalse' hint'?,
        Jumps function' position' ⟨[], some (.branch condition onTrue' onFalse' hint'?)⟩ ∧
        ∀ side : Bool, ∀ block,
          Frame.blockOf? function (if side then onTrue else onFalse) = some block →
          ∃ block' next,
            Frame.blockOf? function' (if side then onTrue' else onFalse') = some block' ∧
            Jumps function' (startOf block') next ∧ follows (startOf block) next
  leave : ∀ position', follows ⟨[], some .leave⟩ position' →
    Jumps function' position' ⟨[], some .leave⟩
  stored : ∀ position position', follows position position' → ∀ pointer register,
    .store pointer (.register register) ∈ position.pending →
    .store pointer (.register register) ∈ position'.pending

def PlainSimulation.simulation {function function' : Function}
    (plain : PlainSimulation function function') : FunctionSimulation function function' :=
  { constants := []
    live := plain.live
    follows := plain.follows
    name := plain.header.name
    exported := plain.header.exported
    parameters := plain.header.parameters
    types := plain.header.types
    free := fun _ _ => rfl
    used := plain.used
    within := plain.within
    entry := plain.entry
    instruction := by
      intro instruction pending terminator? position' follows
      rcases plain.instruction instruction pending terminator? position' follows with
        ⟨⟨target, defines, dead⟩, after⟩ | ⟨pending', terminator'?, jumps, after⟩
      · exact .inl ⟨⟨target, defines, .inl ⟨dead, rfl⟩⟩, after⟩
      · refine .inr ⟨pending', terminator'?, ?_, after, fun _ _ => rfl⟩
        rw [mapOperands_of_fixed substitute_nil]
        exact jumps
    jump := plain.jump
    branch := by
      intro condition onTrue onFalse hint? position' follows
      rw [substitute_nil]
      exact .inr (plain.branch condition onTrue onFalse hint? position' follows)
    leave := plain.leave
    stored := fun position position' follows pointer register _ =>
      plain.stored position position' follows pointer register }

/-! ### One function -/

structure Improvement (function function' : Function) : Prop where
  formed : WellFormed function'
  simulates : Simulates function function'
  covered : ∀ instruction' ∈ function'.instructions, ∃ instruction ∈ function.instructions,
    ∃ change, instruction' = instruction.mapOperands change

theorem Simulates.name {function function' : Function} (simulates : Simulates function function') :
    function'.name = function.name := by
  obtain ⟨simulation⟩ := simulates
  exact simulation.name

/-- Every function simulates itself. -/
def identity (function : Function) : PlainSimulation function function :=
  { live := fun _ => True
    follows := fun position position' => position' = position ∧
      ∀ instruction ∈ position.pending, instruction ∈ function.instructions
    header := ⟨rfl, rfl, rfl, rfl⟩
    used := fun _ _ _ _ => trivial
    within := fun _ _ follows => follows.2
    entry := by
      intro block blocks shape
      refine ⟨block, blocks, _, shape, .here _, rfl, ?_⟩
      intro instruction inside
      exact mem_instructions (by rw [shape]; exact List.mem_cons_self ..) inside
    instruction := by
      rintro instruction pending terminator? position' ⟨rfl, within⟩
      exact .inr ⟨pending, terminator?, .here _, rfl,
        fun other member => within other (List.mem_cons_of_mem _ member)⟩
    jump := by
      rintro target position' ⟨rfl, _⟩ block known
      exact ⟨_, .one known, rfl, fun _ inside => mem_instructions (mem_of_blockOf known).1 inside⟩
    branch := by
      rintro condition onTrue onFalse hint? position' ⟨rfl, _⟩
      refine ⟨fun _ _ => trivial, onTrue, onFalse, hint?, .here _, ?_⟩
      intro side block known
      exact ⟨block, _, known, .here _, rfl,
        fun _ inside => mem_instructions (mem_of_blockOf known).1 inside⟩
    leave := by
      rintro position' ⟨rfl, _⟩
      exact .here _
    stored := by
      rintro position position' ⟨rfl, _⟩ pointer register member
      exact member }

theorem Improvement.refl {function : Function} (formed : WellFormed function) :
    Improvement function function :=
  ⟨formed, ⟨(identity function).simulation⟩,
    fun instruction member => ⟨instruction, member, id,
      (mapOperands_of_fixed (fun _ => rfl) instruction).symm⟩⟩

theorem Improvement.callees {function function' : Function}
    (improvement : Improvement function function') {name : String}
    (member : name ∈ function'.callees) : name ∈ function.callees := by
  obtain ⟨instruction', inside, calls⟩ := List.mem_filterMap.mp member
  obtain ⟨instruction, origin, change, rfl⟩ := improvement.covered instruction' inside
  refine List.mem_filterMap.mpr ⟨instruction, origin, ?_⟩
  cases instruction <;> exact calls

theorem Improvement.referencedGlobals {function function' : Function}
    (improvement : Improvement function function') {name : String}
    (member : name ∈ function'.referencedGlobals) : name ∈ function.referencedGlobals := by
  obtain ⟨instruction', inside, takes⟩ := List.mem_filterMap.mp member
  obtain ⟨instruction, origin, change, rfl⟩ := improvement.covered instruction' inside
  refine List.mem_filterMap.mpr ⟨instruction, origin, ?_⟩
  cases instruction <;> exact takes

/-! ### All functions of a module -/

theorem function_of_improved {functions functions' : List Function}
    (improved : List.Forall₂ Improvement functions functions') {name : String}
    {function : Function}
    (found : (functions.find? fun function => function.name == name) = some function) :
    ∃ function', (functions'.find? fun function => function.name == name) = some function' ∧
      Improvement function function' := by
  induction improved with
  | nil => cases found
  | cons first rest inductionHypothesis =>
      rename_i head head' tail tail'
      have same := first.simulates.name
      by_cases matching : head.name = name
      · rw [List.find?_cons_of_pos (by simpa using matching)] at found
        cases found
        exact ⟨head', List.find?_cons_of_pos (by simpa [same] using matching), first⟩
      · rw [List.find?_cons_of_neg (by simpa using matching)] at found
        obtain ⟨function', found', improvement⟩ := inductionHypothesis found
        refine ⟨function', ?_, improvement⟩
        rw [List.find?_cons_of_neg (by simpa [same] using matching)]
        exact found'

/-- The renaming that changes nothing, of the globals of a module. -/
def keepAll (module : Module) : Renaming := fun index =>
  if index < module.globals.length then some index else none

theorem keepAll_some {module : Module} {index index' : Nat} :
    keepAll module index = some index' ↔ index < module.globals.length ∧ index' = index := by
  simp only [keepAll]
  split
  · simp [*, eq_comm]
  · simp [*]

theorem globalIndex_lt {module : Module} {name : String} {index : Nat}
    (found : globalIndex? module name = some index) : index < module.globals.length :=
  (List.findIdx?_eq_some_iff_findIdx_eq.mp found).1

theorem globalIndex_of_global {module : Module} {name : String} {global : Global}
    (found : module.global? name = some global) :
    ∃ index, globalIndex? module name = some index := by
  refine Option.isSome_iff_exists.mp ?_
  unfold Module.global? at found
  have matching := List.find?_some found
  rw [globalIndex?, List.findIdx?_isSome, List.any_eq_true]
  exact ⟨global, List.mem_of_find?_eq_some found, matching⟩

/-- A module with the same globals and with functions that simulate those that may be
called. -/
def simulationOfFunctions (module : Module) (functions' : List Function)
    (called : ∀ function ∈ module.functions, ∀ name ∈ function.callees, ∀ callee,
      module.function? name = some callee →
      ∃ callee', (functions'.find? fun function => function.name == name) = some callee' ∧
        Simulates callee callee')
    (exported : ∀ name function, module.function? name = some function →
      function.exported = true →
      ∃ function', (functions'.find? fun function => function.name == name) = some function' ∧
        Simulates function function') :
    ModuleSimulation module { module with functions := functions' } :=
  { globals := keepAll module
    called := called
    exported := exported
    addressed := by
      intro function member name referenced index found
      exact ⟨index, found, keepAll_some.mpr ⟨globalIndex_lt found, rfl⟩⟩
    increasing := by
      intro first second first' second' one other less
      rw [(keepAll_some.mp one).2, (keepAll_some.mp other).2]
      exact less
    bounds := by
      intro index index' renamed
      obtain ⟨within, rfl⟩ := keepAll_some.mp renamed
      exact ⟨within, within⟩
    kept := by
      intro name global found
      have found' : module.global? name = some global := found
      obtain ⟨index, here⟩ := globalIndex_of_global found'
      exact ⟨found', index, index, here, here, keepAll_some.mpr ⟨globalIndex_lt here, rfl⟩⟩
    alike := by
      intro index index' renamed
      rw [(keepAll_some.mp renamed).2] }

/-- A formed module that simulates another one. -/
structure ModuleImprovement (module module' : Module) : Prop where
  formed : ModuleFormed module'
  simulates : Nonempty (ModuleSimulation module module')

theorem improve_functions {module : Module} (formed : ModuleFormed module)
    {functions' : List Function}
    (improved : List.Forall₂ Improvement module.functions functions') :
    ModuleImprovement module { module with functions := functions' } := by
  constructor
  · have origin : ∀ function' ∈ functions', ∃ function ∈ module.functions,
        Improvement function function' := by
      intro function' member
      obtain ⟨index, within, rfl⟩ := List.mem_iff_getElem.mp member
      have counts := improved.length_eq
      have all := (List.forall₂_iff_get.mp improved).2 index (by omega) within
      exact ⟨_, List.get_mem _ _, all⟩
    constructor
    · intro function' member
      obtain ⟨function, inside, improvement⟩ := origin function' member
      exact improvement.formed
    · intro function' member name referenced
      obtain ⟨function, inside, improvement⟩ := origin function' member
      exact formed.globals function inside name (improvement.referencedGlobals referenced)
  · refine ⟨simulationOfFunctions module functions' ?_ ?_⟩
    · intro function member name calls callee found
      obtain ⟨callee', found', improvement⟩ := function_of_improved improved found
      exact ⟨callee', found', improvement.simulates⟩
    · intro name function found visible
      obtain ⟨function', found', improvement⟩ := function_of_improved improved found
      exact ⟨function', found', improvement.simulates⟩

/-! ### Chains of improvements -/

abbrev Improves : Function → Function → Prop :=
  Relation.ReflTransGen Improvement

abbrev ModuleImproves : Module → Module → Prop :=
  Relation.ReflTransGen ModuleImprovement

theorem Improves.formed {function function' : Function} (improves : Improves function function')
    (formed : WellFormed function) : WellFormed function' := by
  cases improves with
  | refl => exact formed
  | tail _ improvement => exact improvement.formed

theorem ModuleImproves.formed {module module' : Module} (improves : ModuleImproves module module')
    (formed : ModuleFormed module) : ModuleFormed module' := by
  cases improves with
  | refl => exact formed
  | tail _ improvement => exact improvement.formed

/-- One function of a module improved again and again. -/
theorem improve_one {module : Module} {before after : List Function}
    {function function' : Function} (improves : Improves function function')
    (formed : ModuleFormed { module with functions := before ++ function :: after }) :
    ModuleImproves { module with functions := before ++ function :: after }
      { module with functions := before ++ function' :: after } := by
  induction improves with
  | refl => exact .refl
  | tail _ improvement inductionHypothesis =>
      rename_i middle last _
      refine inductionHypothesis.tail ?_
      have formedMiddle := ModuleImproves.formed inductionHypothesis formed
      have same : ∀ functions : List Function,
          (∀ function ∈ functions, WellFormed function) →
          List.Forall₂ Improvement functions functions := by
        intro functions all
        exact List.forall₂_same.mpr fun function member => Improvement.refl (all function member)
      refine improve_functions formedMiddle ?_
      refine List.rel_append (same before ?_) (.cons improvement (same after ?_))
      · intro function member
        exact formedMiddle.functions function (by simp [member])
      · intro function member
        exact formedMiddle.functions function (by simp [member])

/-- All functions of a module improved, one after another. -/
theorem improve_all {module : Module} (improve : Function → Function)
    (improves : ∀ function, WellFormed function → Improves function (improve function))
    (before functions : List Function)
    (formed : ModuleFormed { module with functions := before ++ functions }) :
    ModuleImproves { module with functions := before ++ functions }
      { module with functions := before ++ functions.map improve } := by
  induction functions generalizing before with
  | nil => exact .refl
  | cons function rest inductionHypothesis =>
      have here := improve_one (improves function (formed.functions function (by simp))) formed
      have later := inductionHypothesis (before ++ [improve function]) (by
        simpa using here.formed formed)
      rw [List.map_cons]
      refine here.trans ?_
      simpa using later

/-- Engines of improved modules refine each other before the first call. -/
theorem ModuleImproves.refines {module module' : Module}
    (improves : ModuleImproves module module') (limit : Nat) :
    EngineRefines (freshEngine module limit) (freshEngine module' limit) := by
  induction improves with
  | refl => exact .refl
  | tail _ improvement inductionHypothesis =>
      obtain ⟨link⟩ := improvement.simulates
      exact inductionHypothesis.tail ⟨_, _, link, fresh_related link limit⟩

end TensorGraph.Optimize

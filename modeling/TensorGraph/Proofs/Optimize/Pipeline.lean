/-
The optimizer preserves execution.

Every pass improves a well-formed function or module, and so do rounds of
passes and whole pipelines.  What an engine for the original code answers and
leaves behind, an engine for the optimized code does as well, within the same
limit.
-/

import TensorGraph.Optimize.Pipeline
import TensorGraph.Proofs.Optimize.ConstantFolding
import TensorGraph.Proofs.Optimize.ControlFlow.Merging
import TensorGraph.Proofs.Optimize.DeadCode

namespace TensorGraph.Optimize

open Code Machine

/-! ### Passes -/

theorem functionPass_improves (pass : FunctionPass) {function : Function}
    (formed : WellFormed function) : Improves function (pass.run function).1 := by
  cases pass with
  | constantFolding => exact .single (foldConstants_improves formed)
  | deadCode => exact removeDeadCode_improves function formed
  | controlFlow => exact simplifyControlFlow_improves function formed

theorem modulePass_improves (pass : ModulePass) {module : Module}
    (formed : ModuleFormed module) : ModuleImproves module (pass.run module).1 := by
  cases pass with
  | deadFunctions => exact removeDeadFunctions_improves formed
  | unusedGlobals => exact .single (removeUnusedGlobals_improves formed)

namespace Optimizer

theorem round_improves (passes : List FunctionPass) {function : Function}
    (formed : WellFormed function) : Improves function (round passes function).1 := by
  have general : ∀ (passes : List FunctionPass) (start : Function × Nat),
      WellFormed start.1 → Improves start.1
        (passes.foldl (fun state pass =>
          ((pass.run state.1).1,
            if (pass.run state.1).2 then state.2 + 1 else state.2)) start).1 := by
    intro passes
    induction passes with
    | nil => exact fun start _ => .refl
    | cons pass passes inductionHypothesis =>
        intro start formedStart
        have first := functionPass_improves pass formedStart
        have rest := inductionHypothesis ((pass.run start.1).1,
          if (pass.run start.1).2 then start.2 + 1 else start.2) (first.formed formedStart)
        exact first.trans rest
  exact general passes (function, 0) formed

theorem rounds_improves (passes : List FunctionPass) (left : Nat) {function : Function}
    (formed : WellFormed function) : Improves function (rounds passes left function).1 := by
  induction left generalizing function with
  | zero => exact .refl
  | succ left inductionHypothesis =>
      have first := round_improves passes formed
      have later := inductionHypothesis (first.formed formed)
      simp only [rounds]
      split
      · exact first
      · exact first.trans later

/-! ### Sessions -/

theorem optimizeEach_eq (functions : List Function) (optimizer : Optimizer) :
    ∃ results stats,
      optimizeEach functions optimizer = .ok results { optimizer with stats := stats } ∧
        results.map Prod.fst = functions.map fun function =>
          (rounds optimizer.functionPasses optimizer.config.maxIterations function).1 := by
  induction functions generalizing optimizer with
  | nil => exact ⟨[], optimizer.stats, rfl, rfl⟩
  | cons function rest inductionHypothesis =>
      let result := rounds optimizer.functionPasses optimizer.config.maxIterations function
      let stats : Stats :=
        { optimizer.stats with
          functionsOptimized := optimizer.stats.functionsOptimized + 1
          functionPassChanges := optimizer.stats.functionPassChanges + result.2 }
      obtain ⟨results, final, later, same⟩ :=
        inductionHypothesis { optimizer with stats := stats }
      refine ⟨(result.1, result.2 != 0) :: results, final, ?_, ?_⟩
      · simp only [optimizeEach, bind, EStateM.bind, optimizeFunction, modifyGet,
          MonadStateOf.modifyGet, EStateM.modifyGet, pure, EStateM.pure]
        rw [show optimizeEach rest _ = _ from later]
      · rw [List.map_cons, List.map_cons, same]

/-- What the passes make of the functions of a module. -/
def functionsOptimized (optimizer : Optimizer) (module : Module) : Module :=
  { module with
    functions := module.functions.map fun function =>
      (rounds optimizer.functionPasses optimizer.config.maxIterations function).1 }

/-- What the passes make of a module. -/
def optimized (optimizer : Optimizer) (module : Module) : Module :=
  optimizer.modulePasses.foldl (fun module pass => (pass.run module).1)
    (functionsOptimized optimizer module)

theorem foldl_modulePasses (passes : List ModulePass) (start : Module × Nat) :
    (passes.foldl (fun (module, changes) pass =>
      let (module, changed) := pass.run module
      (module, if changed then changes + 1 else changes)) start).1 =
      passes.foldl (fun module pass => (pass.run module).1) start.1 := by
  induction passes generalizing start with
  | nil => rfl
  | cons pass passes inductionHypothesis =>
      rw [List.foldl_cons, List.foldl_cons, inductionHypothesis]

/-- Outside a session, optimizing always succeeds. -/
theorem optimize_eq (optimizer : Optimizer) (closed : optimizer.sessionOpen = false)
    (module : Module) :
    ∃ flags changed after, optimize module optimizer =
      .ok (optimized optimizer module, flags, changed) after := by
  obtain ⟨results, stats, each, same⟩ :=
    optimizeEach_eq module.functions { optimizer with sessionOpen := true }
  have opened : openSession optimizer = .ok () { optimizer with sessionOpen := true } := by
    simp only [openSession, bind, EStateM.bind, get, getThe, MonadStateOf.get, EStateM.get, closed]
    rfl
  have functions : optimizeFunctions module optimizer =
      .ok (functionsOptimized optimizer module, results.map Prod.snd)
        { optimizer with
          sessionOpen := false
          stats := stats } := by
    simp only [optimizeFunctions, bind, EStateM.bind, opened, each, same, closeSession, modify,
      modifyGet, MonadStateOf.modifyGet, EStateM.modifyGet, pure, EStateM.pure]
    rfl
  have last := foldl_modulePasses optimizer.modulePasses (functionsOptimized optimizer module, 0)
  simp only [optimize, bind, EStateM.bind, functions, optimizeModule, modifyGet,
    MonadStateOf.modifyGet, EStateM.modifyGet, pure, EStateM.pure]
  rw [optimized, ← last]
  exact ⟨_, _, _, rfl⟩

theorem modulePasses_improve (passes : List ModulePass) {module : Module}
    (formed : ModuleFormed module) :
    ModuleImproves module (passes.foldl (fun module pass => (pass.run module).1) module) := by
  induction passes generalizing module with
  | nil => exact .refl
  | cons pass passes inductionHypothesis =>
      have first := modulePass_improves pass formed
      exact first.trans (inductionHypothesis (first.formed formed))

theorem optimized_improves (optimizer : Optimizer) {module : Module}
    (formed : ModuleFormed module) : ModuleImproves module (optimized optimizer module) := by
  have functions : ModuleImproves module (functionsOptimized optimizer module) :=
    improve_all _ (fun function formed => rounds_improves _ _ formed) [] module.functions formed
  exact functions.trans (modulePasses_improve _ (functions.formed formed))

end Optimizer

/-- Whatever passes are chosen and for however many rounds, optimizing a verified module
gives a verified module, and calls that succeed on an engine for the one succeed on an
engine for the other, with the same answers and the same globals afterwards. -/
theorem optimize_preserves_calls (module : Module) (accepted : module.verify = .ok ())
    (nonempty : ∀ function ∈ module.functions, function.blocks ≠ [])
    (distinct : ∀ function ∈ module.functions, (function.blocks.map Block.id).Nodup)
    (config : Config) :
    ∃ module' flags changed optimizer engine engine',
      Optimizer.optimize module (Optimizer.ofConfig config) =
        .ok (module', flags, changed) optimizer ∧
      module'.verify = .ok () ∧
      Engine.ofModule module = .ok engine ∧ Engine.ofModule module' = .ok engine' ∧
      ∀ limit calls results after,
        Engine.callAll calls (engine.withLimit limit) = .ok results after →
        ∃ after', Engine.callAll calls (engine'.withLimit limit) = .ok results after' ∧
          ∀ name, (module'.global? name).isSome → after'.global name = after.global name := by
  have formed : ModuleFormed module := moduleFormed_iff.mpr ⟨accepted, nonempty, distinct⟩
  obtain ⟨flags, changed, optimizer, optimized⟩ :=
    Optimizer.optimize_eq (Optimizer.ofConfig config) rfl module
  have improves := Optimizer.optimized_improves (Optimizer.ofConfig config) formed
  have accepted' := (moduleFormed_iff.mp (improves.formed formed)).1
  refine ⟨_, flags, changed, optimizer, _, _, optimized, accepted', ofModule_eq accepted,
    ofModule_eq accepted', ?_⟩
  intro limit calls results after called
  obtain ⟨after', called', refines⟩ := callAll_refines (improves.refines limit) calls called
  refine ⟨after', called', ?_⟩
  intro name left
  have same : after'.module = Optimizer.optimized (Optimizer.ofConfig config) module :=
    module_of_callAll called'
  rw [← same] at left
  exact global_refines refines left

/-- A function that adds two constants and stores the sum. -/
def summing : Module :=
  { name := "summing"
    globals := []
    functions :=
      [{ name := "sum"
         parameters := [0]
         registerTypes := #[.pointer .i32, .element .i32]
         blocks :=
           [{ id := 0
              label := "entry"
              instructions :=
                [.binary 1 .add (.constant (.i32 1)) (.constant (.i32 2)),
                  .store 0 (.register 1)]
              terminator? := some .leave }]
         exported := true }] }

/-- The only buffer that some calls answer with. -/
def onlyBuffer? : EStateM.Result Fault Engine (List (List Argument)) → Option Storage
  | .ok [[.buffer storage]] _ => some storage
  | _ => none

theorem answer_of_onlyBuffer {result : EStateM.Result Fault Engine (List (List Argument))}
    {storage : Storage} (only : onlyBuffer? result = some storage) :
    ∃ after, result = .ok [[.buffer storage]] after := by
  unfold onlyBuffer? at only
  split at only
  · cases only
    exact ⟨_, rfl⟩
  · cases only

/-- The optimized code stores the sum, within the two instructions that the original
needs. -/
theorem optimize_preserves_sum :
    ∃ module' flags changed optimizer engine' after',
      Optimizer.optimize summing (Optimizer.ofConfig .standard) =
        .ok (module', flags, changed) optimizer ∧
      Engine.ofModule module' = .ok engine' ∧
      Engine.callAll [("sum", [.buffer (.singleton (.i32 7))])] (engine'.withLimit 2) =
        .ok [[.buffer (.singleton (.i32 3))]] after' := by
  obtain ⟨module', flags, changed, optimizer, engine, engine', optimized, _, started, started',
    preserved⟩ :=
    optimize_preserves_calls summing (by decide) (by decide) (by decide) .standard
  have same : engine = freshEngine summing Engine.standardLimit := by
    rw [ofModule_eq (by decide)] at started
    cases started
    rfl
  obtain ⟨after, called⟩ := answer_of_onlyBuffer
    (show onlyBuffer? (Engine.callAll [("sum", [.buffer (.singleton (.i32 7))])]
      ((freshEngine summing Engine.standardLimit).withLimit 2)) =
        some (.singleton (.i32 3)) by decide +kernel)
  rw [← same] at called
  obtain ⟨after', called', _⟩ := preserved 2 _ _ _ called
  exact ⟨module', flags, changed, optimizer, engine', after', optimized, started', called'⟩

end TensorGraph.Optimize

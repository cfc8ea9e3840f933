/-
Dead code removal preserves calls.

An instruction that goes defines a register that is read nowhere in the
function, so what it would have defined is never looked at.  One that is kept
runs as before.

A function that may still be called is kept under its name.  A global whose
address may still be taken is kept, though its number may change; `survivors`
is the renaming from the old numbers to the new ones.
-/

import TensorGraph.Optimize.DeadCode
import TensorGraph.Proofs.Optimize.Improvement

namespace TensorGraph.Optimize

open Code Machine

/-! ### The table of read registers -/

private theorem le_foldl_max_of_mem (registers : List Register) (start register : Nat)
    (member : register ∈ registers ∨ register ≤ start) : register ≤ registers.foldl max start := by
  induction registers generalizing start with
  | nil => simpa using member
  | cons head rest inductionHypothesis =>
      refine inductionHypothesis (max start head) ?_
      rcases member with listed | small
      · rcases List.mem_cons.mp listed with rfl | later
        · exact .inr (Nat.le_max_right _ _)
        · exact .inl later
      · exact .inr (Nat.le_trans small (Nat.le_max_left _ _))

private theorem getD_mark (registers : List Register) (table : Array Bool) (register : Register)
    (fits : ∀ marked ∈ registers, marked < table.size) :
    (registers.foldl (fun table marked => table.setIfInBounds marked true) table).getD register
        false = true ↔ register ∈ registers ∨ table.getD register false = true := by
  induction registers generalizing table with
  | nil => simp
  | cons head rest inductionHypothesis =>
      rw [List.foldl_cons, inductionHypothesis _ (by
        intro marked later
        rw [Array.size_setIfInBounds]
        exact fits marked (List.mem_cons_of_mem _ later))]
      have within := fits head (List.mem_cons_self ..)
      by_cases same : register = head
      · subst same
        simp [Array.getD_eq_getD_getElem?, within]
      · rw [List.mem_cons]
        simp [Array.getD_eq_getD_getElem?, same, Array.getElem?_setIfInBounds_ne (Ne.symm same)]

theorem getD_tableOf (registers : List Register) (register : Register) :
    (tableOf registers).getD register false = true ↔ register ∈ registers := by
  rw [tableOf, getD_mark registers _ register]
  · simp only [Array.getD_eq_getD_getElem?, Array.getElem?_replicate, or_iff_left_iff_imp]
    split <;> simp
  · intro marked member
    rw [Array.size_replicate]
    exact Nat.lt_succ_of_le (le_foldl_max_of_mem registers 0 marked (.inl member))

/-! ### One round -/

theorem uses_of_instruction {function : Function} {instruction : Instruction}
    (member : instruction ∈ function.instructions) {register : Register}
    (read : register ∈ instruction.uses) : register ∈ usedRegisters function := by
  obtain ⟨block, inside, listed⟩ := List.mem_flatMap.mp member
  exact List.mem_flatMap.mpr ⟨block, inside,
    List.mem_append_left _ (List.mem_flatMap.mpr ⟨instruction, listed, read⟩)⟩

theorem uses_of_condition {function : Function} {block : Block}
    (member : block ∈ function.blocks) {condition : Operand} {onTrue onFalse : BlockId}
    {hint? : Option LoopHint}
    (ends : block.terminator? = some (.branch condition onTrue onFalse hint?))
    {register : Register} (read : condition.register? = some register) :
    register ∈ usedRegisters function := by
  refine List.mem_flatMap.mpr ⟨block, member, List.mem_append_right _ ?_⟩
  simp [ends, conditionRegister?, read]

/-- The instructions that a round keeps. -/
def keeps (function : Function) : Instruction → Bool :=
  isNeeded (tableOf (usedRegisters function))

theorem unread_of_dropped {function : Function} {instruction : Instruction}
    (dropped : keeps function instruction = false) :
    ∃ target, instruction.target? = some target ∧ target ∉ usedRegisters function := by
  simp only [keeps, isNeeded, Bool.or_eq_false_iff] at dropped
  obtain ⟨_, unread⟩ := dropped
  cases named : instruction.target? with
  | none => simp [named] at unread
  | some target =>
      refine ⟨target, rfl, ?_⟩
      intro read
      rw [named] at unread
      simp only [(getD_tableOf _ _).mpr read] at unread
      cases unread

theorem keeps_store (function : Function) (pointer : Register) (value : Operand) :
    keeps function (.store pointer value) = true := by
  rfl

/-- A block after a round. -/
def swept (function : Function) (block : Block) : Block :=
  { block with instructions := block.instructions.filter (keeps function) }

theorem sweep_eq (function : Function) :
    sweep function = { function with blocks := function.blocks.map (swept function) } :=
  rfl

theorem instructions_sweep (function : Function) :
    (sweep function).instructions = function.instructions.filter (keeps function) := by
  rw [sweep_eq]
  simp only [Function.instructions, List.flatMap_map, List.filter_flatMap]
  rfl

private def sweepSimulation (function : Function) : PlainSimulation function (sweep function) :=
  { live := fun register => register ∈ usedRegisters function
    follows := fun position position' =>
      position' = ⟨position.pending.filter (keeps function), position.terminator?⟩ ∧
        (∀ instruction ∈ position.pending, instruction ∈ function.instructions) ∧
        ∀ condition onTrue onFalse hint?,
          position.terminator? = some (.branch condition onTrue onFalse hint?) →
          ∀ register, condition.register? = some register → register ∈ usedRegisters function
    header := ⟨rfl, rfl, rfl, rfl⟩
    used := fun _ member _ read => uses_of_instruction member read
    within := fun _ _ follows => follows.2.1
    entry := by
      intro block blocks shape
      refine ⟨swept function block, blocks.map (swept function), _, ?_, .here _, rfl, ?_, ?_⟩
      · simp [sweep_eq, shape]
      · exact fun _ inside =>
          mem_instructions (by rw [shape]; exact List.mem_cons_self ..) inside
      · exact fun _ _ _ _ ends _ read =>
          uses_of_condition (by rw [shape]; exact List.mem_cons_self ..) ends read
    instruction := by
      rintro instruction pending terminator? position' ⟨rfl, within, read⟩
      cases kept : keeps function instruction with
      | false =>
          refine .inl ⟨unread_of_dropped kept, ?_, ?_, read⟩
          · simp [kept]
          · exact fun other member => within other (List.mem_cons_of_mem _ member)
      | true =>
          refine .inr ⟨pending.filter (keeps function), terminator?, ?_, rfl, ?_, read⟩
          · simp only [List.filter_cons_of_pos kept]
            exact .here _
          · exact fun other member => within other (List.mem_cons_of_mem _ member)
    jump := by
      rintro target position' ⟨rfl, _, _⟩ block known
      refine ⟨startOf (swept function block), .one ?_, rfl, ?_, ?_⟩
      · rw [sweep_eq, blockOf_map function (swept function) (fun _ => rfl), known]
        rfl
      · exact fun _ inside => mem_instructions (mem_of_blockOf known).1 inside
      · exact fun _ _ _ _ ends _ read => uses_of_condition (mem_of_blockOf known).1 ends read
    branch := by
      rintro condition onTrue onFalse hint? position' ⟨rfl, _, read⟩
      refine ⟨read condition onTrue onFalse hint? rfl, onTrue, onFalse, hint?, .here _, ?_⟩
      intro side block known
      refine ⟨swept function block, startOf (swept function block), ?_, .here _, rfl, ?_, ?_⟩
      · rw [sweep_eq, blockOf_map function (swept function) (fun _ => rfl), known]
        rfl
      · exact fun _ inside => mem_instructions (mem_of_blockOf known).1 inside
      · exact fun _ _ _ _ ends _ read => uses_of_condition (mem_of_blockOf known).1 ends read
    leave := by
      rintro position' ⟨rfl, _, _⟩
      exact .here _
    stored := by
      rintro position position' ⟨rfl, _, _⟩ pointer register member
      exact List.mem_filter.mpr ⟨member, keeps_store function pointer _⟩ }

theorem sweep_improves {function : Function} (formed : WellFormed function) :
    Improvement function (sweep function) := by
  refine ⟨?_, ⟨(sweepSimulation function).simulation⟩, ?_⟩
  · rw [sweep_eq]
    refine formed.map _ (fun _ => rfl) ?_ ?_
    · intro block member terminator ends
      obtain ⟨other, ends', targets⟩ := formed.closed block member
      rw [ends] at ends'
      cases ends'
      exact ⟨terminator, ends, targets⟩
    · have shape := instructions_sweep function
      rw [sweep_eq, Function.instructions] at shape
      simp only at shape
      rw [shape]
      exact targets_sublist List.filter_sublist
  · intro instruction member
    rw [instructions_sweep] at member
    exact ⟨instruction, (List.mem_filter.mp member).1, id,
      (mapOperands_of_fixed (fun _ => rfl) instruction).symm⟩

/-- Removing dead code improves a function. -/
theorem removeDeadCode_improves (function : Function) (formed : WellFormed function) :
    Improves function (removeDeadCode function).1 := by
  fun_induction removeDeadCode function with
  | case1 function next fewer inductionHypothesis =>
      have first := sweep_improves formed
      exact .head first (inductionHypothesis first.formed)
  | case2 function next same => exact .single (sweep_improves formed)

/-! ### Functions -/

theorem find?_filter_of_kept {α : Type} {named kept : α → Bool} {items : List α} {item : α}
    (found : items.find? named = some item) (keeps : kept item = true) :
    (items.filter kept).find? named = some item := by
  induction items with
  | nil => cases found
  | cons head rest inductionHypothesis =>
      cases here : named head with
      | true =>
          rw [List.find?_cons_of_pos here] at found
          cases found
          rw [List.filter_cons_of_pos keeps, List.find?_cons_of_pos here]
      | false =>
          rw [List.find?_cons_of_neg (by simp [here])] at found
          cases keepsHead : kept head with
          | true =>
              rw [List.filter_cons_of_pos keepsHead, List.find?_cons_of_neg (by simp [here])]
              exact inductionHypothesis found
          | false =>
              rw [List.filter_cons_of_neg (by simp [keepsHead])]
              exact inductionHypothesis found

theorem keepCalled_improves {module : Module} (formed : ModuleFormed module) :
    ModuleImprovement module { module with functions := keepCalled module.functions } := by
  constructor
  · constructor
    · exact fun function member => formed.functions function (List.mem_filter.mp member).1
    · exact fun function member => formed.globals function (List.mem_filter.mp member).1
  · refine ⟨simulationOfFunctions module _ ?_ ?_⟩
    · intro function member name calls callee found
      refine ⟨callee, find?_filter_of_kept found ?_, ⟨(identity callee).simulation⟩⟩
      unfold Module.function? at found
      have named := List.find?_some found
      have called : name ∈ module.functions.flatMap Function.callees :=
        List.mem_flatMap.mpr ⟨function, member, calls⟩
      simp only [Bool.or_eq_true, List.contains_eq_mem, decide_eq_true_eq]
      right
      rw [show callee.name = name by simpa using named]
      exact called
    · intro name function found visible
      refine ⟨function, find?_filter_of_kept found ?_, ⟨(identity function).simulation⟩⟩
      simp [visible]

theorem usedFunctions_improves (module : Module) (functions : List Function)
    (formed : ModuleFormed { module with functions := functions }) :
    ModuleImproves { module with functions := functions }
      { module with functions := (usedFunctions functions).1 } := by
  fun_induction usedFunctions functions with
  | case1 functions kept fewer inductionHypothesis =>
      have step := keepCalled_improves formed
      exact .head step (inductionHypothesis step.formed)
  | case2 functions kept same => exact .single (keepCalled_improves formed)

theorem removeDeadFunctions_improves {module : Module} (formed : ModuleFormed module) :
    ModuleImproves module (removeDeadFunctions module).1 :=
  usedFunctions_improves module module.functions formed

/-! ### Globals -/

/-- The new number of everything that is kept. -/
def survivors {α : Type} (kept : α → Bool) : List α → Renaming
  | [], _ => none
  | item :: _, 0 => if kept item then some 0 else none
  | item :: rest, index + 1 =>
      (survivors kept rest index).map fun later => if kept item then later + 1 else later

theorem survivors_getElem {α : Type} {kept : α → Bool} {items : List α} {index later : Nat}
    (survives : survivors kept items index = some later) :
    ∃ item, items[index]? = some item ∧ (items.filter kept)[later]? = some item := by
  induction items generalizing index later with
  | nil => cases survives
  | cons head rest inductionHypothesis =>
      cases index with
      | zero =>
          simp only [survivors] at survives
          split at survives
          · rename_i keeps
            cases survives
            exact ⟨head, rfl, by rw [List.filter_cons_of_pos keeps]; rfl⟩
          · cases survives
      | succ index =>
          simp only [survivors, Option.map_eq_some_iff] at survives
          obtain ⟨earlier, survives, same⟩ := survives
          obtain ⟨item, here, there⟩ := inductionHypothesis survives
          refine ⟨item, by simpa using here, ?_⟩
          cases keeps : kept head with
          | true =>
              rw [if_pos keeps] at same
              subst same
              rw [List.filter_cons_of_pos keeps]
              simpa using there
          | false =>
              rw [if_neg (by simp [keeps])] at same
              subst same
              rw [List.filter_cons_of_neg (by simp [keeps])]
              exact there

theorem survivors_increasing {α : Type} {kept : α → Bool} {items : List α}
    {first second first' second' : Nat} (one : survivors kept items first = some first')
    (other : survivors kept items second = some second') (less : first < second) :
    first' < second' := by
  induction items generalizing first second first' second' with
  | nil => cases one
  | cons head rest inductionHypothesis =>
      cases second with
      | zero => omega
      | succ second =>
          simp only [survivors, Option.map_eq_some_iff] at other
          obtain ⟨earlier, survives, same⟩ := other
          cases first with
          | zero =>
              simp only [survivors] at one
              split at one
              · rename_i keeps
                cases one
                rw [if_pos keeps] at same
                omega
              · cases one
          | succ first =>
              simp only [survivors, Option.map_eq_some_iff] at one
              obtain ⟨earlier', survives', same'⟩ := one
              have := inductionHypothesis survives' survives (by omega)
              cases keeps : kept head with
              | true =>
                  rw [if_pos keeps] at same same'
                  omega
              | false =>
                  rw [if_neg (by simp [keeps])] at same same'
                  omega

theorem survivors_findIdx {α : Type} {kept named : α → Bool} {items : List α} {index : Nat}
    (found : items.findIdx? named = some index)
    (keeps : ∀ item, named item = true → kept item = true) :
    ∃ later, survivors kept items index = some later ∧
      (items.filter kept).findIdx? named = some later := by
  induction items generalizing index with
  | nil => cases found
  | cons head rest inductionHypothesis =>
      rw [List.findIdx?_cons] at found
      split at found
      · rename_i here
        cases found
        refine ⟨0, by simp [survivors, keeps head here], ?_⟩
        rw [List.filter_cons_of_pos (keeps head here), List.findIdx?_cons, if_pos here]
      · rename_i elsewhere
        obtain ⟨earlier, there, rfl⟩ := Option.map_eq_some_iff.mp found
        obtain ⟨later, survives, found'⟩ := inductionHypothesis there
        cases keepsHead : kept head with
        | true =>
            refine ⟨later + 1, by simp [survivors, survives, keepsHead], ?_⟩
            rw [List.filter_cons_of_pos keepsHead, List.findIdx?_cons, if_neg elsewhere, found']
            rfl
        | false =>
            refine ⟨later, by simp [survivors, survives, keepsHead], ?_⟩
            rw [List.filter_cons_of_neg (by simp [keepsHead])]
            exact found'

theorem find?_of_filter {α : Type} {kept named : α → Bool} {items : List α} {item : α}
    (found : (items.filter kept).find? named = some item)
    (keeps : ∀ other, named other = true → kept other = true) :
    items.find? named = some item := by
  rw [List.find?_filter] at found
  rw [← found]
  congr 1
  funext other
  cases here : named other with
  | false => simp
  | true => simp [keeps other here]

/-- A global is kept when some function takes the address of its name. -/
def isReferenced (module : Module) (global : Global) : Bool :=
  (module.functions.flatMap Function.referencedGlobals).contains global.name

theorem isReferenced_of_name (module : Module) {name : String}
    (referenced : name ∈ module.functions.flatMap Function.referencedGlobals) {global : Global}
    (named : (global.name == name) = true) : isReferenced module global = true := by
  have same : global.name = name := by simpa using named
  simpa [isReferenced, same] using referenced

private def globalsSimulation (module : Module) :
    ModuleSimulation module (removeUnusedGlobals module).1 :=
  { globals := survivors (isReferenced module) module.globals
    called := fun _ _ _ _ callee found => ⟨callee, found, ⟨(identity callee).simulation⟩⟩
    exported := fun _ function found _ => ⟨function, found, ⟨(identity function).simulation⟩⟩
    addressed := by
      intro function member name referenced index found
      obtain ⟨later, survives, found'⟩ := survivors_findIdx found
        (fun _ named => isReferenced_of_name module
          (List.mem_flatMap.mpr ⟨function, member, referenced⟩) named)
      exact ⟨later, found', survives⟩
    increasing := fun _ _ _ _ one other less => survivors_increasing one other less
    bounds := by
      intro index index' survives
      obtain ⟨global, here, there⟩ := survivors_getElem survives
      exact ⟨(List.getElem?_eq_some_iff.mp here).1, (List.getElem?_eq_some_iff.mp there).1⟩
    kept := by
      intro name global found
      have named : (global.name == name) = true := by
        unfold Module.global? at found
        have := List.find?_some found
        exact this
      have kept : isReferenced module global = true :=
        (List.mem_filter.mp (List.mem_of_find?_eq_some found)).2
      have keeps : ∀ other : Global, (other.name == name) = true →
          isReferenced module other = true := by
        intro other same
        have equal : other.name = global.name :=
          (beq_iff_eq.mp same).trans (beq_iff_eq.mp named).symm
        simpa only [isReferenced, equal] using kept
      have found' : module.global? name = some global := find?_of_filter found keeps
      obtain ⟨index, located⟩ := globalIndex_of_global found'
      obtain ⟨later, survives, located'⟩ := survivors_findIdx located keeps
      exact ⟨found', index, later, located, located', survives⟩
    alike := by
      intro index index' survives
      obtain ⟨global, here, there⟩ := survivors_getElem survives
      rw [here]
      exact there }

theorem removeUnusedGlobals_improves {module : Module} (formed : ModuleFormed module) :
    ModuleImprovement module (removeUnusedGlobals module).1 := by
  refine ⟨⟨formed.functions, ?_⟩, ⟨globalsSimulation module⟩⟩
  intro function member name referenced
  obtain ⟨global, found⟩ := Option.isSome_iff_exists.mp
    (formed.globals function member name referenced)
  refine Option.isSome_iff_exists.mpr ⟨global, find?_filter_of_kept found ?_⟩
  unfold Module.global? at found
  have named := List.find?_some found
  exact isReferenced_of_name module (List.mem_flatMap.mpr ⟨function, member, referenced⟩) named

end TensorGraph.Optimize

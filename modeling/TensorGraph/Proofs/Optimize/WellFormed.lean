/-
Well-formed code.

What the verifier accepts, as a property of functions and modules that
optimizations preserve: beside what it checks, a function has an entry and no
two blocks of one number.
-/

import TensorGraph.Code.Verify
import TensorGraph.Proofs.Machine.Effect

namespace TensorGraph.Optimize

open Code Machine

/-- The registers that some instructions define. -/
def targets (instructions : List Instruction) : List Register :=
  instructions.filterMap Instruction.target?

structure WellFormed (function : Function) : Prop where
  nonempty : function.blocks ≠ []
  distinct : (function.blocks.map Block.id).Nodup
  closed : ∀ block ∈ function.blocks, ∃ terminator, block.terminator? = some terminator ∧
    ∀ target ∈ terminator.successors, target ∈ function.blocks.map Block.id
  single : (targets function.instructions).Nodup
  fresh : ∀ register ∈ targets function.instructions, register ∉ function.parameters
  typed : ∀ register ∈ targets function.instructions, (function.typeOf? register).isSome

/-! ### The verifier -/

theorem checkDefinitions_ok {function : Function} {instructions : List Instruction}
    {defined : List Register} {after : List Register} :
    function.checkDefinitions instructions defined = .ok after ↔
      (targets instructions).Nodup ∧ (∀ register ∈ targets instructions, register ∉ defined) ∧
        (∀ register ∈ targets instructions, (function.typeOf? register).isSome) ∧
        after = (targets instructions).reverse ++ defined := by
  induction instructions generalizing defined with
  | nil =>
      simp only [Function.checkDefinitions, targets, List.filterMap_nil, List.nodup_nil,
        List.not_mem_nil, false_implies, implies_true, true_and, List.reverse_nil,
        List.nil_append, Except.ok.injEq]
      exact eq_comm
  | cons instruction rest inductionHypothesis =>
      simp only [Function.checkDefinitions]
      cases named : instruction.target? with
      | none =>
          simp only [inductionHypothesis, targets, List.filterMap_cons, named]
      | some target =>
          have shape : targets (instruction :: rest) = target :: targets rest := by
            simp [targets, named]
          simp only [shape, List.nodup_cons, List.forall_mem_cons, List.reverse_cons,
            List.append_assoc, List.cons_append, List.nil_append]
          by_cases again : target ∈ defined
          · simp [again]
          · cases declared : function.typeOf? target with
            | none => simp [again]
            | some type =>
                simp only [List.contains_eq_mem, again, decide_false, Bool.false_eq_true, if_false,
                  Option.isNone_some, inductionHypothesis, List.mem_cons, not_or]
                constructor
                · rintro ⟨single, fresh, typed, rfl⟩
                  refine ⟨⟨fun member => (fresh target member).1 rfl, single⟩,
                    ⟨not_false, fun register member => (fresh register member).2⟩,
                    ⟨rfl, typed⟩, rfl⟩
                · rintro ⟨⟨once, single⟩, ⟨_, fresh⟩, ⟨_, typed⟩, rfl⟩
                  refine ⟨single, fun register member => ⟨?_, fresh register member⟩, typed, rfl⟩
                  rintro rfl
                  exact once member

theorem block?_isSome {function : Function} {id : BlockId} :
    (function.block? id).isSome ↔ id ∈ function.blocks.map Block.id := by
  simp [Function.block?, List.find?_isSome]

theorem checkBlocks_ok {function : Function} {blocks : List Block} {defined : List Register} :
    function.checkBlocks blocks defined = .ok () ↔
      (∀ block ∈ blocks, ∃ terminator, block.terminator? = some terminator ∧
        ∀ target ∈ terminator.successors, target ∈ function.blocks.map Block.id) ∧
      (targets (blocks.flatMap Block.instructions)).Nodup ∧
      (∀ register ∈ targets (blocks.flatMap Block.instructions), register ∉ defined) ∧
      ∀ register ∈ targets (blocks.flatMap Block.instructions),
        (function.typeOf? register).isSome := by
  induction blocks generalizing defined with
  | nil => simp [Function.checkBlocks, targets]
  | cons block rest inductionHypothesis =>
      have shape : targets ((block :: rest).flatMap Block.instructions) =
          targets block.instructions ++ targets (rest.flatMap Block.instructions) := by
        simp [targets]
      rw [shape]
      simp only [Function.checkBlocks, List.forall_mem_cons]
      cases closed : block.terminator? with
      | none => simp
      | some terminator =>
          simp only [Option.some.injEq, exists_eq_left']
          cases missing : terminator.successors.find? fun target =>
              (function.block? target).isNone with
          | some target =>
              simp only [reduceCtorEq, false_iff, not_and]
              rintro ⟨present, _⟩
              have absent := List.find?_some missing
              have here := block?_isSome.mpr (present target (List.mem_of_find?_eq_some missing))
              simp [Option.isNone_iff_eq_none.mp absent] at here
          | none =>
              have present : ∀ target ∈ terminator.successors,
                  target ∈ function.blocks.map Block.id := by
                intro target member
                have := List.find?_eq_none.mp missing target member
                exact block?_isSome.mp (by simpa [Option.isSome_iff_ne_none] using this)
              cases checked : function.checkDefinitions block.instructions defined with
              | error cause =>
                  simp only [bind, Except.bind, reduceCtorEq, false_iff]
                  rintro ⟨_, single, fresh, typed⟩
                  have accepted := checkDefinitions_ok.mpr
                    ⟨(List.nodup_append.mp single).1,
                      fun register member => fresh register (List.mem_append_left _ member),
                      fun register member => typed register (List.mem_append_left _ member), rfl⟩
                  rw [checked] at accepted
                  cases accepted
              | ok after =>
                  obtain ⟨single, fresh, typed, rfl⟩ := checkDefinitions_ok.mp checked
                  simp only [bind, Except.bind, inductionHypothesis, List.nodup_append,
                    List.mem_append, List.mem_reverse, not_or]
                  constructor
                  · rintro ⟨closedRest, singleRest, freshRest, typedRest⟩
                    refine ⟨⟨present, closedRest⟩, ⟨single, singleRest, ?_⟩, ?_, ?_⟩
                    · rintro register member other later rfl
                      exact (freshRest register later).1 member
                    · rintro register (here | later)
                      · exact fresh register here
                      · exact (freshRest register later).2
                    · rintro register (here | later)
                      · exact typed register here
                      · exact typedRest register later
                  · rintro ⟨⟨_, closedRest⟩, ⟨_, singleRest, apart⟩, freshAll, typedAll⟩
                    refine ⟨closedRest, singleRest, ?_, ?_⟩
                    · intro register member
                      exact ⟨fun early => apart register early register member rfl,
                        freshAll register (.inr member)⟩
                    · exact fun register member => typedAll register (.inr member)

theorem wellFormed_iff {function : Function} :
    WellFormed function ↔ function.verify = .ok () ∧ function.blocks ≠ [] ∧
      (function.blocks.map Block.id).Nodup := by
  rw [Function.verify, checkBlocks_ok]
  constructor
  · intro formed
    exact ⟨⟨formed.closed, formed.single, formed.fresh, formed.typed⟩, formed.nonempty,
      formed.distinct⟩
  · rintro ⟨⟨closed, single, fresh, typed⟩, nonempty, distinct⟩
    exact ⟨nonempty, distinct, closed, single, fresh, typed⟩

/-- Every function is well-formed, and the globals that they name exist. -/
structure ModuleFormed (module : Module) : Prop where
  functions : ∀ function ∈ module.functions, WellFormed function
  globals : ∀ function ∈ module.functions, ∀ name ∈ function.referencedGlobals,
    (module.global? name).isSome

theorem checkGlobals_ok {module : Module} {function : Function} :
    module.checkGlobals function = .ok () ↔
      ∀ name ∈ function.referencedGlobals, (module.global? name).isSome := by
  unfold Module.checkGlobals
  cases missing : function.referencedGlobals.find? fun name => (module.global? name).isNone with
  | some name =>
      simp only [reduceCtorEq, false_iff]
      intro present
      have absent := List.find?_some missing
      have here := present name (List.mem_of_find?_eq_some missing)
      simp [Option.isNone_iff_eq_none.mp absent] at here
  | none =>
      simp only [true_iff]
      intro name member
      have := List.find?_eq_none.mp missing name member
      simpa [Option.isSome_iff_ne_none] using this

theorem checkFunctions_ok {module : Module} {functions : List Function} :
    module.checkFunctions functions = .ok () ↔
      ∀ function ∈ functions, function.verify = .ok () ∧
        ∀ name ∈ function.referencedGlobals, (module.global? name).isSome := by
  induction functions with
  | nil => simp [Module.checkFunctions]
  | cons function rest inductionHypothesis =>
      rw [List.forall_mem_cons, ← inductionHypothesis, ← checkGlobals_ok]
      simp only [Module.checkFunctions, bind, Except.bind]
      cases function.verify with
      | error cause => simp
      | ok _ =>
          cases module.checkGlobals function with
          | error cause => simp
          | ok _ => simp

theorem moduleFormed_iff {module : Module} :
    ModuleFormed module ↔ module.verify = .ok () ∧
      (∀ function ∈ module.functions, function.blocks ≠ []) ∧
      ∀ function ∈ module.functions, (function.blocks.map Block.id).Nodup := by
  rw [Module.verify, checkFunctions_ok]
  constructor
  · intro formed
    exact ⟨fun function member =>
        ⟨(wellFormed_iff.mp (formed.functions function member)).1,
          formed.globals function member⟩,
      fun function member => (formed.functions function member).nonempty,
      fun function member => (formed.functions function member).distinct⟩
  · rintro ⟨accepted, nonempty, distinct⟩
    exact ⟨fun function member => wellFormed_iff.mpr
        ⟨(accepted function member).1, nonempty function member, distinct function member⟩,
      fun function member => (accepted function member).2⟩

/-! ### Blocks by number -/

/-- Where numbers are distinct, a block is found by its number. -/
theorem blockOf_of_mem {function : Function}
    (distinct : (function.blocks.map Block.id).Nodup) {block : Block}
    (member : block ∈ function.blocks) : Frame.blockOf? function block.id = some block := by
  have kept : ∀ (blocks : List Block) (start : Option Block),
      block.id ∉ blocks.map Block.id →
      blocks.foldl (fun found other => if other.id = block.id then some other else found) start =
        start := by
    intro blocks
    induction blocks with
    | nil => exact fun start _ => rfl
    | cons head rest inductionHypothesis =>
        intro start absent
        rw [List.map_cons, List.mem_cons, not_or] at absent
        rw [List.foldl_cons, if_neg (fun same => absent.1 same.symm)]
        exact inductionHypothesis start absent.2
  have found : ∀ (blocks : List Block) (start : Option Block), (blocks.map Block.id).Nodup →
      block ∈ blocks →
      blocks.foldl (fun found other => if other.id = block.id then some other else found) start =
        some block := by
    intro blocks
    induction blocks with
    | nil => exact fun start _ impossible => absurd impossible List.not_mem_nil
    | cons head rest inductionHypothesis =>
        intro start apart here
        rw [List.map_cons, List.nodup_cons] at apart
        rw [List.foldl_cons]
        rcases List.mem_cons.mp here with rfl | later
        · rw [if_pos rfl]
          exact kept rest _ apart.1
        · exact inductionHypothesis _ apart.2 later
  exact found function.blocks none distinct member

theorem block?_of_mem {function : Function}
    (distinct : (function.blocks.map Block.id).Nodup) {block : Block}
    (member : block ∈ function.blocks) : function.block? block.id = some block := by
  have found : ∀ blocks : List Block, (blocks.map Block.id).Nodup → block ∈ blocks →
      blocks.find? (fun other => other.id == block.id) = some block := by
    intro blocks
    induction blocks with
    | nil => exact fun _ impossible => absurd impossible List.not_mem_nil
    | cons head rest inductionHypothesis =>
        intro apart here
        rw [List.map_cons, List.nodup_cons] at apart
        rcases List.mem_cons.mp here with rfl | later
        · simp
        · have different : head.id ≠ block.id := by
            intro same
            exact apart.1 (List.mem_map.mpr ⟨block, later, same.symm⟩)
          rw [List.find?_cons_of_neg (by simpa using different)]
          exact inductionHypothesis apart.2 later
  exact found function.blocks distinct member

/-- A change of every block that keeps the numbers changes what a number finds. -/
theorem blockOf_map (function : Function) (change : Block → Block)
    (same : ∀ block, (change block).id = block.id) (id : BlockId) :
    Frame.blockOf? { function with blocks := function.blocks.map change } id =
      (Frame.blockOf? function id).map change := by
  have general : ∀ (blocks : List Block) (start : Option Block),
      (blocks.map change).foldl
          (fun found block => if block.id = id then some block else found) (start.map change) =
        (blocks.foldl (fun found block => if block.id = id then some block else found)
          start).map change := by
    intro blocks
    induction blocks with
    | nil => exact fun start => rfl
    | cons head rest inductionHypothesis =>
        intro start
        rw [List.map_cons, List.foldl_cons, List.foldl_cons, same]
        by_cases matching : head.id = id
        · rw [if_pos matching, if_pos matching]
          exact inductionHypothesis (some head)
        · rw [if_neg matching, if_neg matching]
          exact inductionHypothesis start
  exact general function.blocks none

theorem mem_instructions {function : Function} {block : Block}
    (member : block ∈ function.blocks) {instruction : Instruction}
    (inside : instruction ∈ block.instructions) : instruction ∈ function.instructions :=
  List.mem_flatMap.mpr ⟨block, member, inside⟩

@[simp]
theorem target_mapOperands (change : Operand → Operand) (instruction : Instruction) :
    (instruction.mapOperands change).target? = instruction.target? := by
  cases instruction <;> rfl

theorem targets_map_mapOperands (change : Operand → Operand) (instructions : List Instruction) :
    targets (instructions.map (Instruction.mapOperands change)) = targets instructions := by
  simp [targets, List.filterMap_map]

theorem targets_sublist {fewer instructions : List Instruction}
    (sublist : fewer.Sublist instructions) : (targets fewer).Sublist (targets instructions) :=
  sublist.filterMap _

/-- A change of every block that keeps the numbers, leads nowhere else than to blocks and
defines no register twice keeps a function well-formed. -/
theorem WellFormed.map {function : Function} (formed : WellFormed function)
    (change : Block → Block) (same : ∀ block, (change block).id = block.id)
    (closed : ∀ block ∈ function.blocks, ∀ terminator, block.terminator? = some terminator →
      ∃ terminator', (change block).terminator? = some terminator' ∧
        ∀ target ∈ terminator'.successors, target ∈ function.blocks.map Block.id)
    (defines : (targets ((function.blocks.map change).flatMap Block.instructions)).Sublist
      (targets function.instructions)) :
    WellFormed { function with blocks := function.blocks.map change } := by
  have ids : (function.blocks.map change).map Block.id = function.blocks.map Block.id := by
    rw [List.map_map]
    exact List.map_congr_left fun block _ => same block
  refine ⟨?_, ?_, ?_, defines.nodup formed.single, ?_, ?_⟩
  · simpa using formed.nonempty
  · simpa only [ids] using formed.distinct
  · intro block' member
    obtain ⟨block, inside, rfl⟩ := List.mem_map.mp member
    obtain ⟨terminator, ends, _⟩ := formed.closed block inside
    obtain ⟨terminator', ends', targets⟩ := closed block inside terminator ends
    refine ⟨terminator', ends', ?_⟩
    intro target listed
    simpa only [ids] using targets target listed
  · exact fun register member => formed.fresh register (defines.subset member)
  · exact fun register member => formed.typed register (defines.subset member)

end TensorGraph.Optimize

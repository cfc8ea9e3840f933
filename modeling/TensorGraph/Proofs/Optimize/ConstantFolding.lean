/-
Constant folding preserves calls.

A constant is recorded for a register only by the one instruction that defines
it, from constants recorded before.  So wherever that instruction has run, the
register holds the constant, whatever the order of blocks is.
-/

import TensorGraph.Proofs.Optimize.Improvement

namespace TensorGraph.Optimize

open Code Machine

namespace Constants

/-- Everything that is known by the one is known by the other. -/
def Within (constants more : Constants) : Prop :=
  ∀ register value, constants.lookup register = some value → more.lookup register = some value

theorem value_within {constants more : Constants} (within : Within constants more)
    {operand : Operand} {value : Literal} (known : constants.value? operand = some value) :
    more.value? operand = some value := by
  cases operand with
  | constant literal => exact known
  | register register => exact within register value known

theorem evaluate_within {constants more : Constants} (within : Within constants more)
    {instruction : Instruction} {found : Register × Literal}
    (known : constants.evaluate? instruction = some found) :
    more.evaluate? instruction = some found := by
  cases instruction with
  | binary target op left right =>
      simp only [evaluate?, Option.bind_eq_bind, Option.bind_eq_some_iff] at known ⊢
      obtain ⟨leftValue, knownLeft, rightValue, knownRight, rest⟩ := known
      exact ⟨leftValue, value_within within knownLeft, rightValue, value_within within knownRight,
        rest⟩
  | unary target op operand =>
      simp only [evaluate?, Option.bind_eq_bind, Option.bind_eq_some_iff] at known ⊢
      obtain ⟨value, knownValue, rest⟩ := known
      exact ⟨value, value_within within knownValue, rest⟩
  | compare target op left right =>
      simp only [evaluate?, Option.bind_eq_bind, Option.bind_eq_some_iff] at known ⊢
      obtain ⟨leftValue, knownLeft, rightValue, knownRight, rest⟩ := known
      exact ⟨leftValue, value_within within knownLeft, rightValue, value_within within knownRight,
        rest⟩
  | cast target operand dtype =>
      simp only [evaluate?, Option.bind_eq_bind, Option.bind_eq_some_iff] at known ⊢
      obtain ⟨value, knownValue, rest⟩ := known
      exact ⟨value, value_within within knownValue, rest⟩
  | alloca _ _ _ | address _ _ | offset _ _ _ | load _ _ | store _ _ | move _ _ _ | call _ _ =>
      cases known

theorem target_of_evaluate {constants : Constants} {instruction : Instruction}
    {found : Register × Literal} (known : constants.evaluate? instruction = some found) :
    instruction.target? = some found.1 := by
  cases instruction with
  | binary target op left right =>
      simp only [evaluate?, Option.bind_eq_bind, Option.bind_eq_some_iff] at known
      obtain ⟨_, _, _, _, _, _, same⟩ := known
      cases same
      rfl
  | unary target op operand =>
      simp only [evaluate?, Option.bind_eq_bind, Option.bind_eq_some_iff] at known
      obtain ⟨_, _, _, _, same⟩ := known
      cases same
      rfl
  | compare target op left right =>
      simp only [evaluate?, Option.bind_eq_bind, Option.bind_eq_some_iff] at known
      obtain ⟨_, _, _, _, _, _, same⟩ := known
      cases same
      rfl
  | cast target operand dtype =>
      simp only [evaluate?, Option.bind_eq_bind, Option.bind_eq_some_iff] at known
      obtain ⟨_, _, same⟩ := known
      cases same
      rfl
  | alloca _ _ _ | address _ _ | offset _ _ _ | load _ _ | store _ _ | move _ _ _ | call _ _ =>
      cases known

/-- Every constant is what an instruction that defines its register computes from the
constants. -/
def Sound (constants : Constants) (instructions : List Instruction) : Prop :=
  ∀ register value, constants.lookup register = some value →
    ∃ instruction ∈ instructions, constants.evaluate? instruction = some (register, value)

/-- An instruction adds nothing, or the constant that it computes for a register of which none
was known. -/
theorem collect_cases (constants : Constants) (instruction : Instruction) :
    constants.collect instruction = constants ∨
      ∃ target value, instruction.target? = some target ∧ constants.lookup target = none ∧
        constants.evaluate? instruction = some (target, value) ∧
        constants.collect instruction = (target, value) :: constants := by
  unfold collect
  split
  · exact .inl rfl
  · rename_i unheld
    split
    · rename_i found known
      obtain ⟨target, value⟩ := found
      have named := target_of_evaluate known
      have unknown : constants.lookup target = none := by
        simp only [named, Option.map_some, Option.getD_some, holds] at unheld
        exact Option.not_isSome_iff_eq_none.mp unheld
      exact .inr ⟨target, value, named, unknown, known, rfl⟩
    · exact .inl rfl

theorem within_cons {constants : Constants} {target : Register} (value : Literal)
    (unknown : constants.lookup target = none) : Within constants ((target, value) :: constants) := by
  intro register literal recorded
  have different : register ≠ target := by
    rintro rfl
    rw [unknown] at recorded
    cases recorded
  have apart : (register == target) = false := by simpa using different
  simp only [List.lookup_cons, apart]
  exact recorded

theorem collect_sound {constants : Constants} {instructions : List Instruction}
    (sound : constants.Sound instructions) {instruction : Instruction}
    (member : instruction ∈ instructions) : (constants.collect instruction).Sound instructions := by
  rcases collect_cases constants instruction with same | ⟨target, value, _, unknown, known, added⟩
  · rwa [same]
  · have within := within_cons value unknown
    rw [added]
    intro register literal recorded
    rw [List.lookup_cons] at recorded
    split at recorded
    · rename_i same
      cases recorded
      have equal : register = target := by simpa using same
      subst equal
      exact ⟨instruction, member, evaluate_within within known⟩
    · obtain ⟨origin, inside, computed⟩ := sound register literal recorded
      exact ⟨origin, inside, evaluate_within within computed⟩

/-! ### Rounds -/

section Rounds

variable {instructions : List Instruction} {motive : Constants → Prop}

/-- What every instruction keeps is kept by a round over some of them. -/
theorem foldl_collect
    (kept : ∀ constants, motive constants → ∀ instruction ∈ instructions,
      motive (constants.collect instruction))
    (some' : List Instruction) (members : ∀ instruction ∈ some', instruction ∈ instructions)
    {constants : Constants} (start : motive constants) : motive (some'.foldl collect constants) := by
  induction some' generalizing constants with
  | nil => exact start
  | cons instruction rest inductionHypothesis =>
      exact inductionHypothesis (fun other member => members other (List.mem_cons_of_mem _ member))
        (kept constants start instruction (members instruction (List.mem_cons_self ..)))

/-- What every instruction keeps is kept by all rounds. -/
theorem collectAll_keeps
    (kept : ∀ constants, motive constants → ∀ instruction ∈ instructions,
      motive (constants.collect instruction))
    (rounds : Nat) {constants : Constants} (start : motive constants) :
    motive (collectAll instructions rounds constants) := by
  induction rounds generalizing constants with
  | zero => exact start
  | succ rounds inductionHypothesis =>
      have next := foldl_collect kept instructions (fun _ member => member) start
      simp only [collectAll]
      split
      · exact next
      · exact inductionHypothesis next

end Rounds

theorem ofFunction_sound (function : Function) :
    (ofFunction function).Sound function.instructions :=
  collectAll_keeps (motive := fun constants => constants.Sound function.instructions)
    (fun _ sound _ member => collect_sound sound member) _
    (fun _ _ impossible => by cases impossible)

end Constants

/-! ### Blocks with constants in them -/

theorem eq_of_target {instructions : List Instruction} (single : (targets instructions).Nodup)
    {first second : Instruction} (one : first ∈ instructions) (other : second ∈ instructions)
    {register : Register} (named : first.target? = some register)
    (named' : second.target? = some register) : first = second := by
  induction instructions with
  | nil => cases one
  | cons head rest inductionHypothesis =>
      cases defines : head.target? with
      | none =>
          have shape : targets (head :: rest) = targets rest := by simp [targets, defines]
          rw [shape] at single
          refine inductionHypothesis single ?_ ?_
          · rcases List.mem_cons.mp one with rfl | later
            · simp [defines] at named
            · exact later
          · rcases List.mem_cons.mp other with rfl | later
            · simp [defines] at named'
            · exact later
      | some target =>
          have shape : targets (head :: rest) = target :: targets rest := by
            simp [targets, defines]
          rw [shape, List.nodup_cons] at single
          have absent : ∀ instruction ∈ rest, instruction.target? ≠ some target := by
            intro instruction member same
            exact single.1 (List.mem_filterMap.mpr ⟨instruction, member, same⟩)
          rcases List.mem_cons.mp one with rfl | later
          · rcases List.mem_cons.mp other with rfl | later'
            · rfl
            · rw [defines] at named
              cases named
              exact absurd named' (absent second later')
          · rcases List.mem_cons.mp other with rfl | later'
            · rw [defines] at named'
              cases named'
              exact absurd named (absent first later)
            · exact inductionHypothesis single.2 later later'

/-- The instruction that defines a register with a constant computes the constant. -/
theorem evaluate_of_lookup {function : Function}
    (single : (targets function.instructions).Nodup)
    {instruction : Instruction} (member : instruction ∈ function.instructions)
    {target : Register} (named : instruction.target? = some target) {value : Literal}
    (known : (Constants.ofFunction function).lookup target = some value) :
    (Constants.ofFunction function).evaluate? instruction = some (target, value) := by
  obtain ⟨origin, inside, computed⟩ := Constants.ofFunction_sound function target value known
  have same := eq_of_target single inside member (Constants.target_of_evaluate computed) named
  subst same
  exact computed

/-- A terminator whose condition is known goes one way. -/
def foldTerminator (constants : Constants) (terminator? : Option Terminator) :
    Option Terminator :=
  match
    match terminator? with
    | some (.branch condition onTrue onFalse _) =>
        (constants.value? condition).map fun value => if value.isTrue then onTrue else onFalse
    | _ => none
  with
  | some target => some (.jump target)
  | none => terminator?

/-- The place in a folded block of a place in the block. -/
def foldPosition (constants : Constants) (position : Position) : Position :=
  { pending :=
      (position.pending.filter fun instruction => !constants.isComputed instruction).map
        (Instruction.mapOperands constants.substitute)
    terminator? := foldTerminator constants position.terminator? }

def foldedBlock (constants : Constants) (block : Block) : Block :=
  (constants.foldBlock block).1

@[simp]
theorem startOf_foldedBlock (constants : Constants) (block : Block) :
    startOf (foldedBlock constants block) = foldPosition constants (startOf block) :=
  rfl

theorem foldConstants_eq (function : Function) :
    (foldConstants function).1 =
      { function with
        blocks := function.blocks.map (foldedBlock (Constants.ofFunction function)) } := by
  simp only [foldConstants, List.map_map]
  rfl

theorem instructions_foldConstants (function : Function) :
    (foldConstants function).1.instructions =
      (function.instructions.filter fun instruction =>
        !(Constants.ofFunction function).isComputed instruction).map
        (Instruction.mapOperands (Constants.ofFunction function).substitute) := by
  rw [foldConstants_eq]
  simp only [Function.instructions, List.flatMap_map, List.filter_flatMap, List.map_flatMap]
  rfl

theorem computed_of_isComputed {constants : Constants} {instruction : Instruction}
    (computed : constants.isComputed instruction = true) :
    ∃ target value, instruction.target? = some target ∧ constants.lookup target = some value := by
  cases named : instruction.target? with
  | none => simp [Constants.isComputed, named] at computed
  | some target =>
      simp only [Constants.isComputed, named, Option.map_some, Option.getD_some,
        Constants.holds] at computed
      obtain ⟨value, known⟩ := Option.isSome_iff_exists.mp computed
      exact ⟨target, value, rfl, known⟩

theorem unknown_of_not_isComputed {constants : Constants} {instruction : Instruction}
    (kept : constants.isComputed instruction = false) {target : Register}
    (named : instruction.target? = some target) : constants.lookup target = none := by
  simpa [Constants.isComputed, named, Constants.holds] using kept

private def foldSimulation (function : Function) (formed : WellFormed function) :
    FunctionSimulation function (foldConstants function).1 :=
  { constants := Constants.ofFunction function
    live := fun _ => True
    follows := fun position position' =>
      position' = foldPosition (Constants.ofFunction function) position ∧
        ∀ instruction ∈ position.pending, instruction ∈ function.instructions
    name := rfl
    exported := rfl
    parameters := rfl
    types := rfl
    free := by
      intro register parameter
      cases known : (Constants.ofFunction function).lookup register with
      | none => rfl
      | some value =>
          obtain ⟨origin, inside, computed⟩ :=
            Constants.ofFunction_sound function register value known
          exact absurd parameter (formed.fresh register
            (List.mem_filterMap.mpr ⟨origin, inside, Constants.target_of_evaluate computed⟩))
    used := fun _ _ _ _ => trivial
    within := fun _ _ follows => follows.2
    entry := by
      intro block blocks shape
      refine ⟨foldedBlock _ block, blocks.map (foldedBlock (Constants.ofFunction function)), _, ?_,
        .here _, rfl, ?_⟩
      · simp [foldConstants_eq, shape]
      · exact fun _ inside =>
          mem_instructions (by rw [shape]; exact List.mem_cons_self ..) inside
    instruction := by
      rintro instruction pending terminator? position' ⟨rfl, within⟩
      have member := within instruction (List.mem_cons_self ..)
      have later : ∀ other ∈ pending, other ∈ function.instructions :=
        fun other inside => within other (List.mem_cons_of_mem _ inside)
      cases kept : (Constants.ofFunction function).isComputed instruction with
      | true =>
          obtain ⟨target, value, named, known⟩ := computed_of_isComputed kept
          refine .inl ⟨⟨target, named, .inr ⟨value, known,
            evaluate_of_lookup formed.single member named known⟩⟩, ?_, later⟩
          simp [foldPosition, kept]
      | false =>
          refine .inr ⟨(foldPosition (Constants.ofFunction function) ⟨pending, terminator?⟩).pending,
            foldTerminator (Constants.ofFunction function) terminator?, ?_, ⟨rfl, later⟩,
            fun target named => unknown_of_not_isComputed kept named⟩
          have shape : foldPosition (Constants.ofFunction function)
              ⟨instruction :: pending, terminator?⟩ =
              ⟨instruction.mapOperands (Constants.ofFunction function).substitute ::
                (foldPosition (Constants.ofFunction function) ⟨pending, terminator?⟩).pending,
                foldTerminator (Constants.ofFunction function) terminator?⟩ := by
            simp [foldPosition, kept]
          rw [shape]
          exact .here _
    jump := by
      rintro target position' ⟨rfl, _⟩ block known
      refine ⟨startOf (foldedBlock _ block), .one ?_, rfl, ?_⟩
      · rw [foldConstants_eq, blockOf_map function (foldedBlock _) (fun _ => rfl), known]
        rfl
      · exact fun _ inside => mem_instructions (mem_of_blockOf known).1 inside
    branch := by
      rintro condition onTrue onFalse hint? position' ⟨rfl, _⟩
      cases known : (Constants.ofFunction function).value? condition with
      | some value =>
          refine .inl ⟨value, rfl, ?_⟩
          intro block found
          refine ⟨startOf (foldedBlock (Constants.ofFunction function) block), ?_, rfl, ?_⟩
          · simp only [foldPosition, foldTerminator, known, Option.map_some, List.filter_nil,
              List.map_nil]
            refine .one ?_
            rw [foldConstants_eq, blockOf_map function (foldedBlock _) (fun _ => rfl), found]
            rfl
          · exact fun _ inside => mem_instructions (mem_of_blockOf found).1 inside
      | none =>
          refine .inr ⟨fun _ _ => trivial, onTrue, onFalse, hint?, ?_, ?_⟩
          · have unchanged : (Constants.ofFunction function).substitute condition = condition := by
              cases condition with
              | constant value => rfl
              | register register =>
                  have unknown : (Constants.ofFunction function).lookup register = none := known
                  simp only [Constants.substitute, unknown]
            rw [unchanged]
            simp only [foldPosition, foldTerminator, known, Option.map_none, List.filter_nil,
              List.map_nil]
            exact .here _
          · intro side block found
            refine ⟨foldedBlock (Constants.ofFunction function) block, _, ?_, .here _, rfl, ?_⟩
            · rw [foldConstants_eq, blockOf_map function (foldedBlock _) (fun _ => rfl), found]
              rfl
            · exact fun _ inside => mem_instructions (mem_of_blockOf found).1 inside
    leave := by
      rintro position' ⟨rfl, _⟩
      exact .here _
    stored := by
      rintro position position' ⟨rfl, _⟩ pointer register unknown member
      refine List.mem_map.mpr ⟨_, List.mem_filter.mpr ⟨member, rfl⟩, ?_⟩
      simp only [Instruction.mapOperands, Constants.substitute, unknown] }

/-- Folding constants improves a function. -/
theorem foldConstants_improves {function : Function} (formed : WellFormed function) :
    Improvement function (foldConstants function).1 := by
  refine ⟨?_, ⟨foldSimulation function formed⟩, ?_⟩
  · rw [foldConstants_eq]
    refine formed.map _ (fun _ => rfl) ?_ ?_
    · intro block member terminator ends
      obtain ⟨other, ends', targets⟩ := formed.closed block member
      rw [ends] at ends'
      cases ends'
      have shape : (foldedBlock (Constants.ofFunction function) block).terminator? =
          foldTerminator (Constants.ofFunction function) (some terminator) := by
        rw [← ends]
        rfl
      rw [shape]
      cases terminator with
      | jump target => exact ⟨.jump target, rfl, targets⟩
      | leave => exact ⟨.leave, rfl, targets⟩
      | branch condition onTrue onFalse hint? =>
          cases known : (Constants.ofFunction function).value? condition with
          | none =>
              refine ⟨.branch condition onTrue onFalse hint?, ?_, targets⟩
              simp only [foldTerminator, known, Option.map_none]
          | some value =>
              refine ⟨.jump (if value.isTrue then onTrue else onFalse), ?_, ?_⟩
              · simp only [foldTerminator, known, Option.map_some]
              · intro target listed
                rw [Terminator.successors, List.mem_singleton] at listed
                subst listed
                refine targets _ ?_
                cases value.isTrue <;> simp [Terminator.successors]
    · have shape := instructions_foldConstants function
      rw [foldConstants_eq, Function.instructions] at shape
      simp only at shape
      rw [shape, targets_map_mapOperands]
      exact targets_sublist List.filter_sublist
  · intro instruction member
    rw [instructions_foldConstants] at member
    obtain ⟨origin, kept, rfl⟩ := List.mem_map.mp member
    exact ⟨origin, (List.mem_filter.mp kept).1, _, rfl⟩

end TensorGraph.Optimize

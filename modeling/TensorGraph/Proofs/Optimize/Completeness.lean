/-
Constant folding is complete.

Every round but the last finds a register more, and there are no more registers
than instructions, so the rounds end where no instruction adds a constant.  What
is known then is everything that follows from constants alone, in whatever order
the blocks stand.  Nothing is left to fold in the function that comes out.
-/

import TensorGraph.Proofs.Optimize.Weight

namespace TensorGraph.Optimize

open Code

/-- The value of an operand follows from constants alone, by operations that succeed. -/
inductive Determined (instructions : List Instruction) : Operand → Literal → Prop where
  | constant (value : Literal) : Determined instructions (.constant value) value
  | binary {target : Register} {op : BinaryOp} {left right : Operand}
      {first second result : Literal} (member : .binary target op left right ∈ instructions)
      (known : Determined instructions left first) (known' : Determined instructions right second)
      (done : first.binary op second = .ok result) :
      Determined instructions (.register target) result
  | unary {target : Register} {op : UnaryOp} {operand : Operand} {value result : Literal}
      (member : .unary target op operand ∈ instructions)
      (known : Determined instructions operand value) (done : value.unary op = .ok result) :
      Determined instructions (.register target) result
  | compare {target : Register} {op : CompareOp} {left right : Operand} {first second : Literal}
      {result : Bool} (member : .compare target op left right ∈ instructions)
      (known : Determined instructions left first) (known' : Determined instructions right second)
      (done : first.compare op second = .ok result) :
      Determined instructions (.register target) (.bool result)
  | cast {target : Register} {operand : Operand} {dtype : DType} {value : Literal}
      (member : .cast target operand dtype ∈ instructions)
      (known : Determined instructions operand value) :
      Determined instructions (.register target) (value.cast dtype)

namespace Constants

variable {constants : Constants} {instructions : List Instruction} {instruction : Instruction}
  {function : Function}

theorem toOption_eq_some {α : Type} {result : Except Error α} {value : α} :
    result.toOption = some value ↔ result = .ok value := by
  cases result <;> simp [Except.toOption]

/-! ### What the rounds find -/

/-- What is known of registers follows from constants. -/
def Grounded (constants : Constants) (instructions : List Instruction) : Prop :=
  ∀ register value, constants.lookup register = some value →
    Determined instructions (.register register) value

theorem Grounded.value (grounded : constants.Grounded instructions) {operand : Operand}
    {value : Literal} (known : constants.value? operand = some value) :
    Determined instructions operand value := by
  cases operand with
  | constant literal =>
      cases known
      exact .constant value
  | register register => exact grounded register value known

theorem Grounded.evaluate (grounded : constants.Grounded instructions)
    (member : instruction ∈ instructions) {target : Register} {value : Literal}
    (known : constants.evaluate? instruction = some (target, value)) :
    Determined instructions (.register target) value := by
  cases instruction with
  | binary target' op left right =>
      simp only [evaluate?, Option.bind_eq_bind, Option.bind_eq_some_iff, toOption_eq_some] at known
      obtain ⟨first, knownFirst, second, knownSecond, result, done, same⟩ := known
      cases same
      exact .binary member (grounded.value knownFirst) (grounded.value knownSecond) done
  | unary target' op operand =>
      simp only [evaluate?, Option.bind_eq_bind, Option.bind_eq_some_iff, toOption_eq_some] at known
      obtain ⟨operand, knownOperand, result, done, same⟩ := known
      cases same
      exact .unary member (grounded.value knownOperand) done
  | compare target' op left right =>
      simp only [evaluate?, Option.bind_eq_bind, Option.bind_eq_some_iff, toOption_eq_some] at known
      obtain ⟨first, knownFirst, second, knownSecond, result, done, same⟩ := known
      cases same
      exact .compare member (grounded.value knownFirst) (grounded.value knownSecond) done
  | cast target' operand dtype =>
      simp only [evaluate?, Option.bind_eq_bind, Option.bind_eq_some_iff] at known
      obtain ⟨operand, knownOperand, same⟩ := known
      cases same
      exact .cast member (grounded.value knownOperand)
  | alloca _ _ _ | address _ _ | offset _ _ _ | load _ _ | store _ _ | move _ _ _ | call _ _ =>
      cases known

theorem Grounded.collect (grounded : constants.Grounded instructions)
    (member : instruction ∈ instructions) : (constants.collect instruction).Grounded instructions := by
  rcases collect_cases constants instruction with same | ⟨target, value, _, _, known, added⟩
  · rwa [same]
  · rw [added]
    intro register literal recorded
    rw [List.lookup_cons] at recorded
    split at recorded
    · rename_i same
      cases recorded
      have equal : register = target := by simpa using same
      subst equal
      exact grounded.evaluate member known
    · exact grounded register literal recorded

theorem ofFunction_grounded (function : Function) :
    (ofFunction function).Grounded function.instructions :=
  collectAll_keeps (motive := fun constants => constants.Grounded function.instructions)
    (fun _ grounded _ member => grounded.collect member) _
    (fun _ _ impossible => by cases impossible)

/-! ### The rounds end -/

/-- Each register is known once, and is one that an instruction defines. -/
structure Registered (constants : Constants) (instructions : List Instruction) : Prop where
  distinct : (constants.map Prod.fst).Nodup
  defined : ∀ register ∈ constants.map Prod.fst, register ∈ targets instructions

theorem Registered.collect (registered : constants.Registered instructions)
    (member : instruction ∈ instructions) :
    (constants.collect instruction).Registered instructions := by
  rcases collect_cases constants instruction with same | ⟨target, value, named, unknown, _, added⟩
  · rwa [same]
  · rw [added]
    have absent : target ∉ constants.map Prod.fst := by
      intro present
      obtain ⟨⟨register, literal⟩, recorded, rfl⟩ := List.mem_map.mp present
      have different := List.lookup_eq_none_iff.mp unknown (register, literal) recorded
      simp at different
    have here : target ∈ targets instructions :=
      List.mem_filterMap.mpr ⟨instruction, member, named⟩
    exact ⟨List.nodup_cons.mpr ⟨absent, registered.distinct⟩,
      List.forall_mem_cons.mpr ⟨here, registered.defined⟩⟩

theorem Registered.length_le (registered : constants.Registered instructions) :
    constants.length ≤ instructions.length :=
  calc constants.length
    _ = (constants.map Prod.fst).length := (List.length_map _).symm
    _ ≤ (targets instructions).length :=
        (List.subperm_of_subset registered.distinct registered.defined).length_le
    _ ≤ instructions.length := List.length_filterMap_le _ _

/-- No instruction adds a constant. -/
def Settled (constants : Constants) (instructions : List Instruction) : Prop :=
  ∀ instruction ∈ instructions, constants.collect instruction = constants

theorem suffix_collect (constants : Constants) (instruction : Instruction) :
    constants <:+ constants.collect instruction := by
  rcases collect_cases constants instruction with same | ⟨target, value, _, _, _, added⟩
  · rw [same]
  · rw [added]
    exact List.suffix_cons _ _

theorem suffix_round (instructions : List Instruction) (constants : Constants) :
    constants <:+ instructions.foldl Constants.collect constants := by
  induction instructions generalizing constants with
  | nil => exact List.suffix_rfl
  | cons instruction rest ih => exact (suffix_collect constants instruction).trans (ih _)

/-- A round that finds nothing new changes nothing at any instruction. -/
theorem settled_of_length
    (same : (instructions.foldl Constants.collect constants).length = constants.length) :
    constants.Settled instructions := by
  induction instructions generalizing constants with
  | nil => exact fun _ member => absurd member List.not_mem_nil
  | cons instruction rest ih =>
      rw [List.foldl_cons] at same
      have first := suffix_collect constants instruction
      have others := suffix_round rest (constants.collect instruction)
      have still : constants.collect instruction = constants :=
        (first.eq_of_length (by have := first.length_le; have := others.length_le; omega)).symm
      rw [still] at same
      exact List.forall_mem_cons.mpr ⟨still, ih same⟩

theorem Settled.round (settled : constants.Settled instructions) :
    instructions.foldl Constants.collect constants = constants := by
  induction instructions with
  | nil => rfl
  | cons instruction rest ih =>
      obtain ⟨first, others⟩ := List.forall_mem_cons.mp settled
      rw [List.foldl_cons, first]
      exact ih others

/-- There are enough rounds when one is left for each instruction whose register is not
known. -/
theorem collectAll_settled (registered : constants.Registered instructions) {rounds : Nat}
    (enough : instructions.length < rounds + constants.length) :
    (collectAll instructions rounds constants).Settled instructions := by
  induction rounds generalizing constants with
  | zero =>
      have := registered.length_le
      omega
  | succ rounds ih =>
      have grown := (suffix_round instructions constants).length_le
      have next : Registered (instructions.foldl Constants.collect constants) instructions :=
        foldl_collect (motive := fun constants => constants.Registered instructions)
          (fun _ registered _ member => registered.collect member) instructions
          (fun _ member => member) registered
      simp only [collectAll]
      split
      case isTrue same =>
        have settled := settled_of_length same
        rwa [settled.round]
      case isFalse more => exact ih next (by omega)

theorem ofFunction_settled (function : Function) :
    (ofFunction function).Settled function.instructions :=
  have registered : Registered [] function.instructions :=
    ⟨List.nodup_nil, fun _ impossible => absurd impossible List.not_mem_nil⟩
  collectAll_settled registered (by rw [Function.instructionCount, List.length_nil]; omega)

/-- Where nothing can be added, an instruction whose register is not known cannot be
evaluated. -/
theorem Settled.evaluate (settled : constants.Settled instructions)
    (member : instruction ∈ instructions) (kept : constants.isComputed instruction = false) :
    constants.evaluate? instruction = none := by
  have same := settled instruction member
  unfold Constants.collect at same
  rw [show (instruction.target?.map constants.holds).getD false = false from kept,
    if_neg Bool.false_ne_true] at same
  cases known : constants.evaluate? instruction with
  | none => rfl
  | some found =>
      rw [known] at same
      exact absurd (congrArg List.length same) (by simp)

/-- Everything that follows from constants is found. -/
theorem value_of_determined (single : (targets function.instructions).Nodup) {operand : Operand}
    {value : Literal} (determined : Determined function.instructions operand value) :
    (ofFunction function).value? operand = some value := by
  have found : ∀ {instruction target value}, instruction ∈ function.instructions →
      (ofFunction function).evaluate? instruction = some (target, value) →
      (ofFunction function).lookup target = some value := by
    intro instruction target value member evaluated
    have named := target_of_evaluate evaluated
    cases kept : (ofFunction function).isComputed instruction with
    | false =>
        rw [(ofFunction_settled function).evaluate member kept] at evaluated
        cases evaluated
    | true =>
        obtain ⟨register, literal, named', known⟩ := computed_of_isComputed kept
        cases named.symm.trans named'
        have evaluated' := evaluate_of_lookup single member named known
        cases evaluated.symm.trans evaluated'
        exact known
  induction determined with
  | constant value => rfl
  | binary member _ _ done first second =>
      exact found member (by simp [evaluate?, first, second, done, Except.toOption])
  | unary member _ done operand =>
      exact found member (by simp [evaluate?, operand, done, Except.toOption])
  | compare member _ _ done first second =>
      exact found member (by simp [evaluate?, first, second, done, Except.toOption])
  | cast member _ operand => exact found member (by simp [evaluate?, operand])

/-- The pass evaluates exactly the registers whose value follows from constants. -/
theorem lookup_ofFunction (single : (targets function.instructions).Nodup) {register : Register}
    {value : Literal} :
    (ofFunction function).lookup register = some value ↔
      Determined function.instructions (.register register) value :=
  ⟨ofFunction_grounded function register value, fun determined =>
    value_of_determined single determined⟩

/-! ### What is left -/

theorem value_substitute (constants : Constants) (operand : Operand) :
    Constants.value? [] (constants.substitute operand) = constants.value? operand := by
  cases operand with
  | constant value => rfl
  | register register =>
      cases found : constants.lookup register <;> simp [substitute, value?, found]

theorem evaluate_mapOperands (constants : Constants) (instruction : Instruction) :
    Constants.evaluate? [] (instruction.mapOperands constants.substitute) =
      constants.evaluate? instruction := by
  cases instruction <;> simp [evaluate?, Instruction.mapOperands, value_substitute]

/-- A register that stands in the place of an operand after folding is not known. -/
theorem unknown_of_substitute {operand : Operand} {register : Register}
    (left : constants.substitute operand = .register register) :
    constants.lookup register = none := by
  cases operand with
  | constant value => cases left
  | register other =>
      cases found : constants.lookup other with
      | none =>
          simp only [substitute, found, Operand.register.injEq] at left
          rwa [← left]
      | some value => simp [substitute, found] at left

/-- A conditional branch that is left depends on a register that is not known. -/
theorem condition_of_foldTerminator {terminator? : Option Terminator} {condition : Operand}
    {onTrue onFalse : BlockId} {hint? : Option LoopHint}
    (left : foldTerminator constants terminator? = some (.branch condition onTrue onFalse hint?)) :
    ∃ register, condition = .register register ∧ constants.lookup register = none := by
  rcases terminator? with _ | ⟨target⟩ | ⟨condition', onTrue', onFalse', hint'?⟩ | _
  case some.branch =>
    cases known : constants.value? condition' with
    | some value => simp [foldTerminator, known] at left
    | none =>
        simp only [foldTerminator, known, Option.map_none, Option.some.injEq,
          Terminator.branch.injEq] at left
        obtain ⟨rfl, _⟩ := left
        cases condition' with
        | constant value => cases known
        | register register => exact ⟨register, rfl, known⟩
  all_goals cases left

end Constants

section Folded

variable {function : Function}

theorem mem_folded {instruction : Instruction}
    (member : instruction ∈ (foldConstants function).1.instructions) :
    ∃ original ∈ function.instructions,
      (Constants.ofFunction function).isComputed original = false ∧
      instruction = original.mapOperands (Constants.ofFunction function).substitute := by
  rw [instructions_foldConstants] at member
  obtain ⟨original, inside, same⟩ := List.mem_map.mp member
  obtain ⟨inside, kept⟩ := List.mem_filter.mp inside
  exact ⟨original, inside, by simpa using kept, same.symm⟩

/-- What is left cannot be evaluated from the constants in it. -/
theorem evaluate_folded {instruction : Instruction}
    (member : instruction ∈ (foldConstants function).1.instructions) :
    Constants.evaluate? [] instruction = none := by
  obtain ⟨original, inside, kept, rfl⟩ := mem_folded member
  rw [Constants.evaluate_mapOperands]
  exact (Constants.ofFunction_settled function).evaluate inside kept

theorem unknown_target_folded {instruction : Instruction}
    (member : instruction ∈ (foldConstants function).1.instructions) {target : Register}
    (named : instruction.target? = some target) :
    (Constants.ofFunction function).lookup target = none := by
  obtain ⟨original, _, kept, rfl⟩ := mem_folded member
  rw [target_mapOperands] at named
  exact unknown_of_not_isComputed kept named

theorem unknown_operand_folded {instruction : Instruction}
    (member : instruction ∈ (foldConstants function).1.instructions) {register : Register}
    (operand : .register register ∈ instruction.operands) :
    (Constants.ofFunction function).lookup register = none := by
  obtain ⟨original, _, _, rfl⟩ := mem_folded member
  rw [operands_mapOperands] at operand
  obtain ⟨before, _, same⟩ := List.mem_map.mp operand
  exact Constants.unknown_of_substitute same

theorem condition_folded {block : Block} (member : block ∈ (foldConstants function).1.blocks)
    {condition : Operand} {onTrue onFalse : BlockId} {hint? : Option LoopHint}
    (branches : block.terminator? = some (.branch condition onTrue onFalse hint?)) :
    ∃ register, condition = .register register ∧
      (Constants.ofFunction function).lookup register = none := by
  rw [foldConstants_eq] at member
  obtain ⟨original, _, rfl⟩ := List.mem_map.mp member
  exact Constants.condition_of_foldTerminator branches

/-! ### Folding again -/

theorem ofFunction_eq_nil
    (stuck : ∀ instruction ∈ function.instructions, Constants.evaluate? [] instruction = none) :
    Constants.ofFunction function = [] := by
  refine Constants.collectAll_keeps (motive := fun constants => constants = []) ?_ _ rfl
  rintro _ rfl instruction member
  rcases Constants.collect_cases [] instruction with same | ⟨_, _, _, _, known, _⟩
  · exact same
  · rw [stuck instruction member] at known
    cases known

/-- Without constants a block whose condition is open stays as it is. -/
theorem foldBlock_nil {block : Block} (open' : decides [] block.terminator? = false) :
    Constants.foldBlock [] block = (block, false) := by
  have none : (Constants.foldBlock [] block).2 = false := by
    have kept : (block.instructions.filter fun instruction => !Constants.isComputed [] instruction) =
        block.instructions := by
      refine List.filter_eq_self.mpr fun instruction _ => ?_
      cases named : instruction.target? <;> simp [Constants.isComputed, Constants.holds, named]
    have unchanged : ∀ operand, Constants.isRewritten [] operand = false := by
      intro operand
      cases operand <;> rfl
    rw [foldBlock_eq, kept, open']
    simp [unchanged]
  exact Prod.ext ((reports_foldBlock [] block).kept none) none

theorem foldConstants_of_stuck
    (stuck : ∀ instruction ∈ function.instructions, Constants.evaluate? [] instruction = none)
    (open' : ∀ block ∈ function.blocks, decides [] block.terminator? = false) :
    foldConstants function = (function, false) := by
  have none : (foldConstants function).2 = false := by
    simp only [foldConstants, ofFunction_eq_nil stuck, List.any_eq_false, List.mem_map]
    rintro _ ⟨block, member, rfl⟩
    rw [foldBlock_nil (open' block member)]
    exact Bool.false_ne_true
  exact Prod.ext ((reports_foldConstants function).kept none) none

/-- Constant folding is complete and idempotent. It evaluates exactly the registers whose value
follows from constants, in whatever order the blocks stand. No instruction is left that defines
one of them, no operand that could give way to a constant and no condition refers to one of
them, an operation on constants that is left fails, and folding again changes nothing. -/
theorem foldConstants_complete {function : Function} (verified : function.verify = .ok ()) :
    (∀ register value, (Constants.ofFunction function).lookup register = some value ↔
      Determined function.instructions (.register register) value) ∧
    (∀ target op left right, Instruction.binary target op (.constant left) (.constant right) ∈
        (foldConstants function).1.instructions → ∃ cause, left.binary op right = .error cause) ∧
    (∀ target op value, Instruction.unary target op (.constant value) ∈
        (foldConstants function).1.instructions → ∃ cause, value.unary op = .error cause) ∧
    (∀ target op left right, Instruction.compare target op (.constant left) (.constant right) ∈
        (foldConstants function).1.instructions → ∃ cause, left.compare op right = .error cause) ∧
    (∀ target value dtype, Instruction.cast target (.constant value) dtype ∉
        (foldConstants function).1.instructions) ∧
    (∀ instruction ∈ (foldConstants function).1.instructions, ∀ register,
      instruction.target? = some register ∨ .register register ∈ instruction.operands →
        (Constants.ofFunction function).lookup register = none) ∧
    (∀ block ∈ (foldConstants function).1.blocks, ∀ condition onTrue onFalse hint?,
      block.terminator? = some (.branch condition onTrue onFalse hint?) →
        ∃ register, condition = .register register ∧
          (Constants.ofFunction function).lookup register = none) ∧
    foldConstants (foldConstants function).1 = ((foldConstants function).1, false) := by
  have single := (checkBlocks_ok.mp verified).2.1
  refine ⟨fun register value => Constants.lookup_ofFunction single, ?_, ?_, ?_, ?_, ?_,
    fun block member condition onTrue onFalse hint? branches => condition_folded member branches,
    ?_⟩
  · intro target op left right member
    have stuck := evaluate_folded member
    cases result : left.binary op right with
    | error cause => exact ⟨cause, rfl⟩
    | ok value => simp [Constants.evaluate?, Constants.value?, result, Except.toOption] at stuck
  · intro target op value member
    have stuck := evaluate_folded member
    cases result : value.unary op with
    | error cause => exact ⟨cause, rfl⟩
    | ok value => simp [Constants.evaluate?, Constants.value?, result, Except.toOption] at stuck
  · intro target op left right member
    have stuck := evaluate_folded member
    cases result : left.compare op right with
    | error cause => exact ⟨cause, rfl⟩
    | ok value => simp [Constants.evaluate?, Constants.value?, result, Except.toOption] at stuck
  · intro target value dtype member
    cases evaluate_folded member
  · rintro instruction member register (named | operand)
    · exact unknown_target_folded member named
    · exact unknown_operand_folded member operand
  · refine foldConstants_of_stuck (fun instruction member => evaluate_folded member) ?_
    intro block member
    rcases ending : block.terminator? with _ | ⟨target⟩ | ⟨condition, onTrue, onFalse, hint?⟩ | _
    case some.branch =>
      obtain ⟨register, rfl, _⟩ := condition_folded member ending
      rfl
    all_goals rfl

/-- Constants that are used in a block before the block that defines them, and a division that
fails. -/
private def scattered : Function :=
  { name := "scattered"
    parameters := []
    registerTypes := #[.element .i64, .element .i64, .element .i64, .element .i64, .element .bool]
    blocks := [
      { id := 0
        label := "entry"
        instructions := []
        terminator? := some (.jump 2) },
      { id := 1
        label := "sum"
        instructions := [.binary 3 .add (.register 0) (.register 1),
          .compare 4 .lt (.register 0) (.register 3)]
        terminator? := some (.branch (.register 4) 2 1 none) },
      { id := 2
        label := "terms"
        instructions := [.binary 0 .add (.constant (.i64 2)) (.constant (.i64 3)),
          .cast 1 (.constant (.u8 7)) .i64, .binary 2 .div (.register 0) (.constant (.i64 0))]
        terminator? := some (.jump 1) }]
    exported := true }

theorem foldConstants_complete_scattered :
    scattered.verify = .ok () ∧
      (Constants.ofFunction scattered).lookup 3 = some (.i64 12) ∧
      (∃ cause, (Literal.i64 5).binary .div (.i64 0) = .error cause) ∧
      foldConstants (foldConstants scattered).1 = ((foldConstants scattered).1, false) := by
  have verified : scattered.verify = .ok () := by rfl
  obtain ⟨found, left, _, _, _, _, _, again⟩ := foldConstants_complete verified
  have terms : Instruction.binary 0 .add (.constant (.i64 2)) (.constant (.i64 3)) ∈
      scattered.instructions := by decide
  have sum : Instruction.binary 3 .add (.register 0) (.register 1) ∈
      scattered.instructions := by decide
  have first : Determined scattered.instructions (.register 0) (.i64 5) :=
    .binary terms (.constant (.i64 2)) (.constant (.i64 3)) rfl
  have second : Determined scattered.instructions (.register 1) ((Literal.u8 7).cast .i64) :=
    .cast (by decide) (.constant (.u8 7))
  have quotient : Instruction.binary 2 .div (.constant (.i64 5)) (.constant (.i64 0)) ∈
      (foldConstants scattered).1.instructions := by decide +kernel
  exact ⟨verified, (found 3 (.i64 12)).mpr (.binary sum first second rfl),
    left 2 .div (.i64 5) (.i64 0) quotient, again⟩

end Folded
end TensorGraph.Optimize

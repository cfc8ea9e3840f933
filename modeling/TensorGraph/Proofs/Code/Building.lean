/-
What building succeeds with.

One equivalence for each action of a function builder: it succeeds exactly when
the operands have the right types and the current block is open, and then the
builder afterwards is the one of a single step.
-/

import TensorGraph.Proofs.Action
import TensorGraph.Proofs.Code.Builder

namespace TensorGraph.Code.Building

open FunctionBuilder Action

variable {builder after : FunctionBuilder}

theorem query_ok {α : Type} {question : FunctionBuilder → Except Error α} {answer : α} :
    query question builder = .ok answer after ↔
      question builder = .ok answer ∧ after = builder := by
  simp only [query, bind_ok, get_ok, ofExcept_ok]
  constructor
  · rintro ⟨_, _, ⟨rfl, rfl⟩, known, rfl⟩
    exact ⟨known, rfl⟩
  · rintro ⟨known, rfl⟩
    exact ⟨_, _, ⟨rfl, rfl⟩, known, rfl⟩

theorem sameTypes_ok {left right : DType} {result : Unit} :
    sameTypes left right builder = .ok result after ↔ left = right ∧ after = builder := by
  unfold sameTypes
  split
  case isTrue same =>
    rw [pure_ok]
    exact ⟨fun done => ⟨same, done.2.symm⟩, fun done => ⟨rfl, done.2.symm⟩⟩
  case isFalse different =>
    exact ⟨fun done => absurd done fail_ok, fun done => absurd done.1 different⟩

theorem newRegister_ok {type : RegisterType} {register : Register} :
    newRegister type builder = .ok register after ↔
      register = builder.size ∧ after = builder.registering type := by
  rw [newRegister, modifyGet_ok, Prod.mk.injEq]
  exact and_congr eq_comm eq_comm

/-! ### Blocks -/

theorem appendBlock_ok {label : String} {block : BlockId} :
    appendBlock label builder = .ok block after ↔
      block = builder.nextBlock ∧ after = builder.appending label := by
  rw [appendBlock, modifyGet_ok, Prod.mk.injEq]
  exact and_congr eq_comm eq_comm

theorem setInsertPoint_ok {block : BlockId} {result : Unit} :
    setInsertPoint block builder = .ok result after ↔ after = builder.seeking block := by
  rw [setInsertPoint, modify_ok]
  exact eq_comm

private theorem onCurrent_ok (numbered : builder.Numbered) {closed : Block → String}
    {change : Block → Block} {result : Unit} :
    onCurrent closed change builder = .ok result after ↔
      builder.Opened ∧ after = builder.changing change := by
  simp only [onCurrent, bind_ok, get_ok]
  constructor
  · rintro ⟨_, _, ⟨rfl, rfl⟩, done⟩
    rw [numbered.block?_eq] at done
    cases found : builder.function.blocks[builder.current]? with
    | none =>
        rw [found] at done
        exact absurd done abort_ok
    | some block =>
        rw [found] at done
        simp only at done
        split at done
        case isTrue ended => exact absurd done abort_ok
        case isFalse open' =>
          rw [set_ok] at done
          exact ⟨⟨block, found, by simpa using open'⟩, done.symm⟩
  · rintro ⟨⟨block, found, open'⟩, rfl⟩
    refine ⟨_, _, ⟨rfl, rfl⟩, ?_⟩
    rw [numbered.block?_eq, found]
    simp only [open', Option.isSome_none, Bool.false_eq_true, if_false, set_ok]
    rfl

theorem push_ok (numbered : builder.Numbered) {instruction : Instruction} {result : Unit} :
    push instruction builder = .ok result after ↔
      builder.Opened ∧ after = builder.pushing instruction :=
  onCurrent_ok numbered

theorem terminate_ok (numbered : builder.Numbered) {terminator : Terminator} {result : Unit} :
    terminate terminator builder = .ok result after ↔
      builder.Opened ∧ after = builder.closing terminator :=
  onCurrent_ok numbered

theorem isTerminated_of_opened (numbered : builder.Numbered) (opened : builder.Opened) :
    builder.isTerminated = false := by
  obtain ⟨block, found, open'⟩ := opened
  rw [isTerminated, numbered.block?_eq, found]
  simp [open']

/-! ### Memory -/

theorem alloca_ok {dtype : DType} {count : Nat} {register : Register} :
    alloca dtype count builder = .ok register after ↔
      register = builder.size ∧ after = builder.allocating dtype count := by
  simp only [alloca, bind_ok, newRegister_ok, pushPrologue, modify_ok, pure_ok]
  constructor
  · rintro ⟨_, _, ⟨rfl, rfl⟩, ⟨⟩, _, rfl, rfl, rfl⟩
    exact ⟨rfl, rfl⟩
  · rintro ⟨rfl, rfl⟩
    exact ⟨_, _, ⟨rfl, rfl⟩, (), _, rfl, rfl, rfl⟩

theorem global_ok {hint : String} {data : Storage} {isMutable : Bool} {name : String} :
    global hint data isMutable builder = .ok name after ↔
      name = builder.nextName hint ∧ after = builder.declaring hint data isMutable := by
  simp only [global, modifyGet_ok, Prod.mk.injEq]
  exact and_congr eq_comm eq_comm

theorem stateGlobal_ok {hint : String} {data : Storage} {name : String} :
    stateGlobal hint data builder = .ok name after ↔
      name = builder.nextName hint ∧ ∃ states,
        after =
          { (builder.declaring hint data true).declaring (hint ++ ".reset") data.cleared false with
            states := states } ∧
        states = builder.states ++
          [{ state := builder.nextName hint
             image := (builder.declaring hint data true).nextName (hint ++ ".reset")
             bytes := data.size * data.dtype.width }] := by
  simp only [stateGlobal, bind_ok, global_ok, modify_ok, pure_ok]
  constructor
  · rintro ⟨_, _, ⟨rfl, rfl⟩, _, _, ⟨rfl, rfl⟩, ⟨⟩, _, rfl, rfl, rfl⟩
    exact ⟨rfl, _, rfl, rfl⟩
  · rintro ⟨rfl, _, rfl, rfl⟩
    exact ⟨_, _, ⟨rfl, rfl⟩, _, _, ⟨rfl, rfl⟩, (), _, rfl, rfl, rfl⟩

/-- The address of a global is taken once, and only of a global of the function. -/
theorem globalAddress_ok (formed : builder.Formed) {name : String} {register : Register} :
    globalAddress name builder = .ok register after ↔
      (builder.addresses.lookup name = some register ∧ after = builder) ∨
      (builder.addresses.lookup name = none ∧ register = builder.size ∧
        ∃ global ∈ builder.globals, global.name = name ∧ after = builder.locating global) := by
  simp only [globalAddress, bind_ok, get_ok]
  cases cached : builder.addresses.lookup name with
  | some known =>
      simp only [reduceCtorEq, false_and, or_false]
      constructor
      · rintro ⟨_, _, ⟨rfl, rfl⟩, done⟩
        rw [cached] at done
        obtain ⟨rfl, rfl⟩ := pure_ok.mp done
        exact ⟨rfl, rfl⟩
      · rintro ⟨same, rfl⟩
        cases same
        refine ⟨_, _, ⟨rfl, rfl⟩, ?_⟩
        rw [cached]
        exact pure_ok.mpr ⟨rfl, rfl⟩
  | none =>
      simp only [reduceCtorEq, false_and, true_and, false_or]
      constructor
      · rintro ⟨_, _, ⟨rfl, rfl⟩, done⟩
        rw [cached] at done
        cases own : builder.globals.find? fun global => global.name == name with
        | none =>
            simp only [own, Option.map_none, Option.none_or, formed.own, List.lookup_nil] at done
            exact absurd done fail_ok
        | some global =>
            have listed := List.mem_of_find?_eq_some own
            have named : global.name = name := by
              simpa using List.find?_some own
            simp only [own, Option.map_some, Option.some_or, bind_ok, newRegister_ok, pushPrologue,
              modify_ok, pure_ok] at done
            obtain ⟨_, _, ⟨rfl, rfl⟩, ⟨⟩, _, rfl, ⟨⟩, _, rfl, rfl, rfl⟩ := done
            exact ⟨rfl, global, listed, named, by rw [← named]; rfl⟩
      · rintro ⟨rfl, global, listed, named, rfl⟩
        refine ⟨_, _, ⟨rfl, rfl⟩, ?_⟩
        rw [cached]
        have own : builder.globals.find? (fun other => other.name == name) = some global := by
          have found : (builder.globals.find? fun other => other.name == name).isSome := by
            rw [List.find?_isSome]
            exact ⟨global, listed, by simpa using named⟩
          obtain ⟨other, here⟩ := Option.isSome_iff_exists.mp found
          have same : other.name = global.name := by
            rw [named]
            simpa using List.find?_some here
          rw [here, List.inj_on_of_nodup_map formed.apart (List.mem_of_find?_eq_some here) listed
            same]
        simp only [own, Option.map_some, Option.some_or, bind_ok, newRegister_ok, pushPrologue,
          modify_ok, pure_ok]
        exact ⟨_, _, ⟨rfl, rfl⟩, (), _, rfl, (), _, rfl, rfl, by rw [← named]; rfl⟩

theorem pointeeType_ok {register : Register} {dtype : DType} :
    builder.pointeeType register = .ok dtype ↔
      builder.function.registerTypes[register]? = some (.pointer dtype) := by
  simp only [pointeeType, typeOf, Function.typeOf?]
  cases builder.function.registerTypes[register]? with
  | none => simp [bind, Except.bind]
  | some type =>
      cases type <;> simp [bind, Except.bind, throw, throwThe, MonadExceptOf.throw, pure,
        Except.pure]

theorem elementType_ok {operand : Operand} {dtype : DType} :
    builder.elementType operand = .ok dtype ↔
      match operand with
      | .constant value => value.dtype = dtype
      | .register register =>
          builder.function.registerTypes[register]? = some (.element dtype) := by
  cases operand with
  | constant value =>
      simp [elementType, operandType, bind, Except.bind, pure, Except.pure]
  | register register =>
      simp only [elementType, operandType, typeOf, Function.typeOf?]
      cases builder.function.registerTypes[register]? with
      | none => simp [bind, Except.bind]
      | some type =>
          cases type <;> simp [bind, Except.bind, throw, throwThe, MonadExceptOf.throw, pure,
            Except.pure]

/-! ### Instructions -/

/-- A register defined by an instruction in the current block. -/
private theorem define_ok (numbered : builder.Numbered) {type : RegisterType}
    {instruction : Register → Instruction} {register : Register} :
    (do
      let target ← newRegister type
      push (instruction target)
      return target : Building Register) builder = .ok register after ↔
      builder.Opened ∧ register = builder.size ∧
        after = (builder.registering type).pushing (instruction builder.size) := by
  simp only [bind_ok, newRegister_ok, pure_ok]
  constructor
  · rintro ⟨_, _, ⟨rfl, rfl⟩, ⟨⟩, _, pushed, rfl, rfl⟩
    obtain ⟨opened, rfl⟩ := (push_ok (numbered.registering type)).mp pushed
    exact ⟨opened, rfl, rfl⟩
  · rintro ⟨opened, rfl, rfl⟩
    exact ⟨_, _, ⟨rfl, rfl⟩, (), _, (push_ok (numbered.registering type)).mpr ⟨opened, rfl⟩,
      rfl, rfl⟩

theorem offset_ok (numbered : builder.Numbered) {base register : Register} {index : Operand} :
    offset base index builder = .ok register after ↔
      ∃ dtype, builder.pointeeType base = .ok dtype ∧ builder.elementType index = .ok .i64 ∧
        ((index = .constant (.i64 0) ∧ register = base ∧ after = builder) ∨
          (index ≠ .constant (.i64 0) ∧ builder.Opened ∧ register = builder.size ∧
            after = (builder.registering (.pointer dtype)).pushing
              (.offset builder.size base index))) := by
  simp only [offset, bind_ok, query_ok, sameTypes_ok]
  constructor
  · rintro ⟨dtype, _, ⟨pointee, rfl⟩, _, _, ⟨typed, rfl⟩, ⟨⟩, _, ⟨rfl, rfl⟩, done⟩
    refine ⟨dtype, pointee, typed, ?_⟩
    split at done
    case isTrue zero =>
      obtain ⟨rfl, rfl⟩ := pure_ok.mp done
      exact .inl ⟨zero, rfl, rfl⟩
    case isFalse nonzero => exact .inr ⟨nonzero, (define_ok numbered).mp done⟩
  · rintro ⟨dtype, pointee, typed, place⟩
    refine ⟨dtype, _, ⟨pointee, rfl⟩, _, _, ⟨typed, rfl⟩, (), _, ⟨rfl, rfl⟩, ?_⟩
    rcases place with ⟨zero, rfl, rfl⟩ | ⟨nonzero, defined⟩
    · rw [if_pos zero]
      exact pure_ok.mpr ⟨rfl, rfl⟩
    · rw [if_neg nonzero]
      exact (define_ok numbered).mpr defined

theorem load_ok (numbered : builder.Numbered) {pointer register : Register} :
    load pointer builder = .ok register after ↔
      ∃ dtype, builder.pointeeType pointer = .ok dtype ∧ builder.Opened ∧
        register = builder.size ∧
        after = (builder.registering (.element dtype)).pushing (.load builder.size pointer) := by
  rw [load, bind_ok]
  simp only [query_ok]
  constructor
  · rintro ⟨dtype, _, ⟨pointee, rfl⟩, done⟩
    exact ⟨dtype, pointee, (define_ok numbered).mp done⟩
  · rintro ⟨dtype, pointee, defined⟩
    exact ⟨dtype, _, ⟨pointee, rfl⟩, (define_ok numbered).mpr defined⟩

theorem store_ok (numbered : builder.Numbered) {pointer : Register} {value : Operand}
    {result : Unit} :
    store pointer value builder = .ok result after ↔
      ∃ dtype, builder.pointeeType pointer = .ok dtype ∧ builder.elementType value = .ok dtype ∧
        builder.Opened ∧ after = builder.pushing (.store pointer value) := by
  simp only [store, bind_ok, query_ok, sameTypes_ok]
  constructor
  · rintro ⟨dtype, _, ⟨pointee, rfl⟩, _, _, ⟨typed, rfl⟩, ⟨⟩, _, ⟨rfl, rfl⟩, done⟩
    exact ⟨dtype, pointee, typed, (push_ok numbered).mp done⟩
  · rintro ⟨dtype, pointee, typed, pushed⟩
    exact ⟨dtype, _, ⟨pointee, rfl⟩, _, _, ⟨typed, rfl⟩, (), _, ⟨rfl, rfl⟩,
      (push_ok numbered).mpr pushed⟩

theorem move_ok (numbered : builder.Numbered) {destination source : Register} {bytes : Nat}
    {result : Unit} :
    move destination source bytes builder = .ok result after ↔
      ∃ dtype, builder.pointeeType destination = .ok dtype ∧
        builder.pointeeType source = .ok dtype ∧ builder.Opened ∧
        after = builder.pushing (.move destination source bytes) := by
  simp only [move, bind_ok, query_ok, sameTypes_ok]
  constructor
  · rintro ⟨dtype, _, ⟨left, rfl⟩, _, _, ⟨right, rfl⟩, ⟨⟩, _, ⟨rfl, rfl⟩, done⟩
    exact ⟨dtype, left, right, (push_ok numbered).mp done⟩
  · rintro ⟨dtype, left, right, pushed⟩
    exact ⟨dtype, _, ⟨left, rfl⟩, _, _, ⟨right, rfl⟩, (), _, ⟨rfl, rfl⟩,
      (push_ok numbered).mpr pushed⟩

theorem binary_ok (numbered : builder.Numbered) {op : BinaryOp} {left right : Operand}
    {register : Register} :
    binary op left right builder = .ok register after ↔
      ∃ dtype, builder.elementType left = .ok dtype ∧ builder.elementType right = .ok dtype ∧
        builder.Opened ∧ register = builder.size ∧
        after = (builder.registering (.element dtype)).pushing
          (.binary builder.size op left right) := by
  simp only [binary, bind_ok, query_ok, sameTypes_ok]
  constructor
  · rintro ⟨dtype, _, ⟨first, rfl⟩, _, _, ⟨second, rfl⟩, ⟨⟩, _, ⟨rfl, rfl⟩, done⟩
    exact ⟨dtype, first, second, (define_ok numbered).mp (by simpa only [bind_ok] using done)⟩
  · rintro ⟨dtype, first, second, defined⟩
    exact ⟨dtype, _, ⟨first, rfl⟩, _, _, ⟨second, rfl⟩, (), _, ⟨rfl, rfl⟩,
      by simpa only [bind_ok] using (define_ok numbered).mpr defined⟩

theorem compare_ok (numbered : builder.Numbered) {op : CompareOp} {left right : Operand}
    {register : Register} :
    compare op left right builder = .ok register after ↔
      ∃ dtype, builder.elementType left = .ok dtype ∧ builder.elementType right = .ok dtype ∧
        builder.Opened ∧ register = builder.size ∧
        after = (builder.registering (.element .bool)).pushing
          (.compare builder.size op left right) := by
  simp only [compare, bind_ok, query_ok, sameTypes_ok]
  constructor
  · rintro ⟨dtype, _, ⟨first, rfl⟩, _, _, ⟨second, rfl⟩, ⟨⟩, _, ⟨rfl, rfl⟩, done⟩
    exact ⟨dtype, first, second, (define_ok numbered).mp (by simpa only [bind_ok] using done)⟩
  · rintro ⟨dtype, first, second, defined⟩
    exact ⟨dtype, _, ⟨first, rfl⟩, _, _, ⟨second, rfl⟩, (), _, ⟨rfl, rfl⟩,
      by simpa only [bind_ok] using (define_ok numbered).mpr defined⟩

theorem unary_ok (numbered : builder.Numbered) {op : UnaryOp} {operand : Operand}
    {register : Register} :
    unary op operand builder = .ok register after ↔
      ∃ dtype, builder.elementType operand = .ok dtype ∧ builder.Opened ∧
        register = builder.size ∧
        after = (builder.registering (.element dtype)).pushing
          (.unary builder.size op operand) := by
  rw [unary, bind_ok]
  simp only [query_ok]
  constructor
  · rintro ⟨dtype, _, ⟨typed, rfl⟩, done⟩
    exact ⟨dtype, typed, (define_ok numbered).mp done⟩
  · rintro ⟨dtype, typed, defined⟩
    exact ⟨dtype, _, ⟨typed, rfl⟩, (define_ok numbered).mpr defined⟩

theorem cast_ok (numbered : builder.Numbered) {operand : Operand} {dtype : DType}
    {register : Register} :
    cast operand dtype builder = .ok register after ↔
      (∃ source, builder.elementType operand = .ok source) ∧ builder.Opened ∧
        register = builder.size ∧
        after = (builder.registering (.element dtype)).pushing
          (.cast builder.size operand dtype) := by
  rw [cast, bind_ok]
  simp only [query_ok]
  constructor
  · rintro ⟨source, _, ⟨typed, rfl⟩, done⟩
    exact ⟨⟨source, typed⟩, (define_ok numbered).mp done⟩
  · rintro ⟨⟨source, typed⟩, defined⟩
    exact ⟨source, _, ⟨typed, rfl⟩, (define_ok numbered).mpr defined⟩

theorem branch_ok (numbered : builder.Numbered) {condition : Operand} {onTrue onFalse : BlockId}
    {hint? : Option LoopHint} {result : Unit} :
    branch condition onTrue onFalse hint? builder = .ok result after ↔
      builder.elementType condition = .ok .bool ∧ builder.Opened ∧
        after = builder.closing (.branch condition onTrue onFalse hint?) := by
  simp only [branch, bind_ok, query_ok, sameTypes_ok]
  constructor
  · rintro ⟨_, _, ⟨typed, rfl⟩, ⟨⟩, _, ⟨rfl, rfl⟩, done⟩
    exact ⟨typed, (terminate_ok numbered).mp done⟩
  · rintro ⟨typed, closed⟩
    exact ⟨_, _, ⟨typed, rfl⟩, (), _, ⟨rfl, rfl⟩, (terminate_ok numbered).mpr closed⟩

end TensorGraph.Code.Building

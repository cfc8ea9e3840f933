/-
Integer arithmetic.

An operation on integers gives the exact answer, wrapped into their type.  A
quotient is refused where there is none, and also where it is the one that does
not fit: that of the least number and minus one.  The host, the emission of code,
constant folding and the machine all combine elements in this way.
-/

import TensorGraph.Kernel.Emission
import TensorGraph.Machine.Step
import TensorGraph.Optimize.ConstantFolding
import TensorGraph.Proofs.Emission.Growth
import TensorGraph.Proofs.Kernel.Scalars
import TensorGraph.Proofs.Literal.Sums

namespace TensorGraph

namespace BinaryOp

/-- The answer among the whole numbers.  Quotients are cut off towards zero. -/
def exact : BinaryOp → Int → Int → Int
  | add, left, right => left + right
  | sub, left, right => left - right
  | mul, left, right => left * right
  | div, left, right => left.tdiv right
  | min, left, right => Min.min left right
  | max, left, right => Max.max left right

/-- A division by zero, or of the least number of a signed type by minus one. -/
def Undivided (op : BinaryOp) (dtype : DType) (left right : Int) : Prop :=
  op = div ∧ (right = 0 ∨ left = -2 ^ (8 * dtype.width - 1) ∧ right = -1)

instance (op : BinaryOp) (dtype : DType) (left right : Int) :
    Decidable (op.Undivided dtype left right) :=
  inferInstanceAs (Decidable (_ ∧ _))

end BinaryOp

namespace Literal

variable {left right : Literal} {dtype : DType} {op : BinaryOp}

/-- A whole number wrapped into an integer type. -/
def wrapped (dtype : DType) (number : Int) : Literal :=
  match dtype with
  | .u8 => u8 (UInt8.ofInt number)
  | .i32 => i32 (Int32.ofInt number)
  | .i64 => i64 (Int64.ofInt number)
  | .bool | .f32 | .f64 => zero dtype

/-- Wrapping keeps the number as far as the type has bits. -/
theorem integer_wrapped (whole : dtype.isInteger = true) (number : Int) :
    (wrapped dtype number).integer ≡ number [ZMOD 2 ^ (8 * dtype.width)] := by
  cases dtype with
  | bool | f32 | f64 => cases whole
  | u8 =>
      change ((UInt8.ofNat (number % 2 ^ 8).toNat).toNat : Int) ≡ number [ZMOD 2 ^ 8]
      rw [UInt8.toNat_ofNat', Int.natCast_mod, Int.toNat_of_nonneg (by omega)]
      exact (Int.mod_modEq _ _).trans (Int.mod_modEq _ _)
  | i32 =>
      change (Int32.ofInt number).toInt ≡ number [ZMOD 2 ^ 32]
      rw [Int32.toInt_ofInt]
      exact Int.bmod_emod
  | i64 =>
      change (Int64.ofInt number).toInt ≡ number [ZMOD 2 ^ 64]
      rw [Int64.toInt_ofInt]
      exact Int.bmod_emod

end Literal

/-! ### Machine integers -/

section Machine

variable {α : Type} [Add α] [Sub α] [Mul α] [Div α] [LE α] [DecidableLE α]

/-- The operation in the arithmetic of the type itself. -/
def BinaryOp.within (op : BinaryOp) (left right : α) : α :=
  match op with
  | .add => left + right
  | .sub => left - right
  | .mul => left * right
  | .div => left / right
  | .min => if left ≤ right then left else right
  | .max => if left ≤ right then right else left

/-- The arithmetic of the type is that of the numbers its elements stand for, wrapped. -/
structure Wraps (number : α → Int) (wrap : Int → α) : Prop where
  back : ∀ element, wrap (number element) = element
  add : ∀ left right, wrap (number left + number right) = left + right
  sub : ∀ left right, wrap (number left - number right) = left - right
  mul : ∀ left right, wrap (number left * number right) = left * right
  div : ∀ left right, wrap ((number left).tdiv (number right)) = left / right
  le : ∀ left right, left ≤ right ↔ number left ≤ number right

theorem Wraps.exact {number : α → Int} {wrap : Int → α} (wraps : Wraps number wrap)
    (op : BinaryOp) (left right : α) :
    wrap (op.exact (number left) (number right)) = op.within left right := by
  cases op with
  | add => exact wraps.add left right
  | sub => exact wraps.sub left right
  | mul => exact wraps.mul left right
  | div => exact wraps.div left right
  | min =>
      change wrap (min (number left) (number right)) = if left ≤ right then left else right
      by_cases below : left ≤ right
      · rw [if_pos below, min_eq_left ((wraps.le left right).mp below), wraps.back]
      · rw [if_neg below, min_eq_right (by have := mt (wraps.le left right).mpr below; omega),
          wraps.back]
  | max =>
      change wrap (max (number left) (number right)) = if left ≤ right then right else left
      by_cases below : left ≤ right
      · rw [if_pos below, max_eq_right ((wraps.le left right).mp below), wraps.back]
      · rw [if_neg below, max_eq_left (by have := mt (wraps.le left right).mpr below; omega),
          wraps.back]

end Machine

/-- A byte is not changed by wrapping the number that it stands for. -/
private theorem ofInt_byte (element : UInt8) : UInt8.ofInt (element.toNat : Int) = element := by
  unfold UInt8.ofInt
  rw [Int.emod_eq_of_lt (by omega) (by exact_mod_cast element.toNat_lt), Int.toNat_natCast,
    UInt8.ofNat_toNat]

theorem wraps_uInt8 : Wraps (fun element : UInt8 => (element.toNat : Int)) UInt8.ofInt where
  back := ofInt_byte
  add left right := by rw [UInt8.ofInt_add, ofInt_byte, ofInt_byte]
  sub left right := by
    rw [Int.sub_eq_add_neg, UInt8.ofInt_add, UInt8.ofInt_neg, ofInt_byte, ofInt_byte,
      UInt8.sub_eq_add_neg]
  mul left right := by rw [UInt8.ofInt_mul, ofInt_byte, ofInt_byte]
  div left right := by rw [← Int.ofNat_tdiv, ← UInt8.toNat_div, ofInt_byte]
  le _ _ := UInt8.le_iff_toNat_le.trans Int.ofNat_le.symm

theorem wraps_int32 : Wraps Int32.toInt Int32.ofInt where
  back := Int32.ofInt_toInt
  add left right := by rw [Int32.ofInt_add, Int32.ofInt_toInt, Int32.ofInt_toInt]
  sub left right := by rw [Int32.ofInt_sub, Int32.ofInt_toInt, Int32.ofInt_toInt]
  mul left right := by rw [Int32.ofInt_mul, Int32.ofInt_toInt, Int32.ofInt_toInt]
  div left right := by
    rw [Int32.ofInt_tdiv left.minValue_le_toInt left.toInt_le right.minValue_le_toInt
      right.toInt_le, Int32.ofInt_toInt, Int32.ofInt_toInt]
  le _ _ := Int32.le_iff_toInt_le

theorem wraps_int64 : Wraps Int64.toInt Int64.ofInt where
  back := Int64.ofInt_toInt
  add left right := by rw [Int64.ofInt_add, Int64.ofInt_toInt, Int64.ofInt_toInt]
  sub left right := by rw [Int64.ofInt_sub, Int64.ofInt_toInt, Int64.ofInt_toInt]
  mul left right := by rw [Int64.ofInt_mul, Int64.ofInt_toInt, Int64.ofInt_toInt]
  div left right := by
    rw [Int64.ofInt_tdiv left.minValue_le_toInt left.toInt_le right.minValue_le_toInt
      right.toInt_le, Int64.ofInt_toInt, Int64.ofInt_toInt]
  le _ _ := Int64.le_iff_toInt_le

namespace Literal

variable {left right : Literal} {op : BinaryOp}

/-! ### Operations -/

/-- The exact answer wrapped into the type, or the refusal of a quotient. -/
def answer (op : BinaryOp) (dtype : DType) (left right : Int) : Except Error Literal :=
  if op.Undivided dtype left right then .error noQuotient
  else .ok (wrapped dtype (op.exact left right))

private theorem map_quotient {α : Type} (make : α → Literal) (divides : Bool) (quotient : α) :
    (make <$> if divides = true then Except.ok quotient else .error noQuotient) =
      if BinaryOp.div = .div ∧ divides = false then .error noQuotient
      else .ok (make quotient) := by
  cases divides <;> rfl

/-- The answer of a type whose arithmetic is that of the numbers, wrapped, and which
divides but where there is no quotient that fits. -/
private theorem answer_of_wraps {α : Type} [Add α] [Sub α] [Mul α] [Div α] [LE α] [DecidableLE α]
    {number : α → Int} {wrap : Int → α} (wraps : Wraps number wrap) (make : α → Literal)
    {dtype : DType} (made : ∀ number, make (wrap number) = wrapped dtype number) (divides : Bool)
    {left right : α} (quotient : divides = false ↔
      number right = 0 ∨ number left = -2 ^ (8 * dtype.width - 1) ∧ number right = -1)
    (op : BinaryOp) :
    (if op = .div ∧ divides = false then .error noQuotient else .ok (make (op.within left right))) =
      answer op dtype (number left) (number right) := by
  unfold answer
  rw [← made, wraps.exact]
  exact if_congr (and_congr_right fun _ => quotient) rfl rfl

theorem binary_u8 (op : BinaryOp) (left right : UInt8) :
    (u8 left).binary op (u8 right) = answer op .u8 left.toNat right.toNat := by
  rw [← answer_of_wraps wraps_uInt8 u8 (fun _ => rfl) (right != 0)]
  · cases op with
    | div => exact map_quotient u8 (right != 0) (left / right)
    | _ => rfl
  · rw [bne_eq_false_iff_eq, ← UInt8.toNat_inj]
    change _ ↔ (right.toNat : Int) = 0 ∨ (left.toNat : Int) = -2 ^ 7 ∧ (right.toNat : Int) = -1
    change right.toNat = 0 ↔ _
    omega

theorem binary_i32 (op : BinaryOp) (left right : Int32) :
    (i32 left).binary op (i32 right) = answer op .i32 left.toInt right.toInt := by
  rw [← answer_of_wraps wraps_int32 i32 (fun _ => rfl)
    (right != 0 && !(left == Int32.minValue && right == -1))]
  · cases op with
    | div => exact map_quotient i32 _ (left / right)
    | _ => rfl
  · simp only [Bool.and_eq_false_iff, bne_eq_false_iff_eq, Bool.not_eq_false', Bool.and_eq_true,
      beq_iff_eq, ← Int32.toInt_inj]
    exact Iff.rfl

theorem binary_i64 (op : BinaryOp) (left right : Int64) :
    (i64 left).binary op (i64 right) = answer op .i64 left.toInt right.toInt := by
  rw [← answer_of_wraps wraps_int64 i64 (fun _ => rfl)
    (right != 0 && !(left == Int64.minValue && right == -1))]
  · cases op with
    | div => exact map_quotient i64 _ (left / right)
    | _ => rfl
  · simp only [Bool.and_eq_false_iff, bne_eq_false_iff_eq, Bool.not_eq_false', Bool.and_eq_true,
      beq_iff_eq, ← Int64.toInt_inj]
    exact Iff.rfl

/-- Operations on integers of one type. -/
theorem binary_whole (op : BinaryOp) (whole : left.dtype.isInteger = true)
    (typed : right.dtype = left.dtype) :
    left.binary op right = answer op left.dtype left.integer right.integer := by
  cases left with
  | bool value | f32 value | f64 value => cases whole
  | u8 value =>
      cases right with
      | u8 other => exact binary_u8 op value other
      | _ => cases typed
  | i32 value =>
      cases right with
      | i32 other => exact binary_i32 op value other
      | _ => cases typed
  | i64 value =>
      cases right with
      | i64 other => exact binary_i64 op value other
      | _ => cases typed

/-! ### Where elements are combined -/

/-- All that combines two elements does so with the given answer: the host, the emission of
code for known operands, constant folding, and the machine. -/
structure Combines (op : BinaryOp) (left right : Literal) (answer : Except Error Literal) :
    Prop where
  host : ∀ {ρ : Type} (state : HostState ρ) (one two : Scalar),
    Host.Reads state.heap one left → Host.Reads state.heap two right →
      (∀ result, answer = .ok result → Host.Gives (one.binary op two) state result) ∧
      ∀ cause, answer = .error cause → ∃ after,
        (one.binary op two : Host ρ Scalar) state = .error (.error cause) after
  /-- Known operands become a constant and no code.  What fails is left for the machine. -/
  emitted : ∀ {ρ : Type} (state : EmissionState ρ) (one two : Value),
    Emission.literal? one state.heap = some left → Emission.literal? two state.heap = some right →
      (∀ result, answer = .ok result → ∃ value,
        (Emission.binary op one two : Emission ρ Value) state =
            .ok value { state with heap := state.heap.add (Storage.singleton result) } ∧
          Emission.literal? value (state.heap.add (Storage.singleton result)) = some result) ∧
      ∀ cause, answer = .error cause → ∀ value after,
        (Emission.binary op one two : Emission ρ Value) state = .ok value after →
          Emission.literal? value after.heap = none
  folded : ∀ (constants : Optimize.Constants) (target : Code.Register) (one two : Code.Operand),
    constants.value? one = some left → constants.value? two = some right →
      constants.evaluate? (.binary target op one two) = answer.toOption.map (Prod.mk target)
  executed : ∀ (program : Machine.Program) (state : Machine.State) (target : Code.Register)
    (one two : Code.Operand), state.frame.element one = .ok left →
      state.frame.element two = .ok right →
        (∀ result, answer = .ok result →
          Machine.execute program (.binary target op one two) state =
            .ok () { state with frame := state.frame.define target (.element result) }) ∧
        ∀ cause, answer = .error cause →
          Machine.execute program (.binary target op one two) state =
            .error (.arithmetic cause) state

/-- A failed combination fails on the host. -/
private theorem host_failed {ρ : Type} {state : HostState ρ} {one two : Scalar} {cause : Error}
    (reads : Host.Reads state.heap one left) (reads' : Host.Reads state.heap two right)
    (typed : right.dtype = left.dtype) (failed : left.binary op right = .error cause) :
    ∃ after, (one.binary op two : Host ρ Scalar) state = .error (.error cause) after := by
  have same : one.dtype = two.dtype := by rw [reads.dtype, reads'.dtype, typed]
  have read := @Host.readLiteral_reads ρ (Host.counted state 1) _ _ reads
  have read' := @Host.readLiteral_reads ρ (Host.counted state 1) _ _ reads'
  have stopped : (Host.binary op one.value two.value : Host ρ Value) state =
      .error (.error cause) (Host.counted state 1) :=
    Host.bind_error.mpr (.inr ⟨(), Host.counted state 1, rfl,
      Host.bind_error.mpr (.inr ⟨left, _, read, Host.bind_error.mpr (.inr ⟨right, _, read',
        Host.bind_error.mpr (.inl (Host.ofExcept_error.mpr ⟨cause, failed, rfl, rfl⟩))⟩)⟩)⟩)
  exact ⟨_, Host.bind_error.mpr (.inr ⟨(), state, Host.checkType_done same,
    Host.bind_error.mpr (.inl stopped)⟩)⟩

/-- A combination of known operands is known, unless it fails. -/
private theorem emitted_known {ρ : Type} {state : EmissionState ρ} {one two : Value}
    (known : Emission.literal? one state.heap = some left)
    (known' : Emission.literal? two state.heap = some right) :
    (∀ result, left.binary op right = .ok result → ∃ value,
      (Emission.binary op one two : Emission ρ Value) state =
          .ok value { state with heap := state.heap.add (Storage.singleton result) } ∧
        Emission.literal? value (state.heap.add (Storage.singleton result)) = some result) ∧
    ∀ cause, left.binary op right = .error cause → ∀ value after,
      (Emission.binary op one two : Emission ρ Value) state = .ok value after →
        Emission.literal? value after.heap = none := by
  have found : (Emission.known one : Emission ρ (Option Literal)) state = .ok (some left) state :=
    Emission.known_ok.mpr ⟨known, rfl⟩
  have found' : (Emission.known two : Emission ρ (Option Literal)) state = .ok (some right) state :=
    Emission.known_ok.mpr ⟨known', rfl⟩
  refine ⟨fun result evaluated => ⟨(Host.alone result state.heap.next).value, ?_, ?_⟩,
    fun cause failed value after done => ?_⟩
  · refine Emission.bind_ok.mpr ⟨_, _, found, Emission.bind_ok.mpr ⟨_, _, found', ?_⟩⟩
    simp only [evaluated, Except.toOption]
    rfl
  · have read : Host.literal (Host.alone result state.heap.next).value
        (state.heap.add (Storage.singleton result)) = .ok result :=
      (Host.reads_alone result state.heap).literal
    exact congrArg Except.toOption read
  · obtain ⟨_, _, one, done⟩ := Emission.bind_ok.mp done
    obtain ⟨rfl, rfl⟩ := (Emission.known_ok.mp one)
    obtain ⟨_, _, two, done⟩ := Emission.bind_ok.mp done
    obtain ⟨rfl, rfl⟩ := (Emission.known_ok.mp two)
    rw [known, known'] at done
    simp only [failed, Except.toOption] at done
    obtain ⟨dtype, _, -, done⟩ := Emission.bind_ok.mp done
    obtain ⟨first, _, -, done⟩ := Emission.bind_ok.mp done
    obtain ⟨second, _, -, done⟩ := Emission.bind_ok.mp done
    obtain ⟨register, _, -, done⟩ := Emission.bind_ok.mp done
    obtain ⟨slot, _, -, done⟩ := Emission.bind_ok.mp done
    obtain ⟨_, _, -, done⟩ := Emission.bind_ok.mp done
    obtain ⟨rfl, rfl⟩ := Emission.pure_ok.mp done
    rfl

theorem combines_binary (op : BinaryOp) (typed : right.dtype = left.dtype) :
    Combines op left right (left.binary op right) where
  host := fun state one two reads reads' =>
    ⟨fun result evaluated => Host.gives_binary reads reads' typed evaluated,
      fun cause failed => host_failed reads reads' typed failed⟩
  emitted := fun state one two known known' => emitted_known known known'
  folded := by
    intro constants target one two known known'
    unfold Optimize.Constants.evaluate?
    simp only [known, known', Option.bind_eq_bind, Option.bind_some]
    cases left.binary op right <;> rfl
  executed := by
    intro program state target one two found found'
    have reduced : Machine.execute program (.binary target op one two) state =
        Machine.Execution.computed target (left.binary op right) state := by
      unfold Machine.execute Machine.Execution.ask
      simp only [found, found', bind, EStateM.bind]
    rw [reduced]
    refine ⟨fun result evaluated => ?_, fun cause failed => ?_⟩
    · rw [evaluated]
      rfl
    · rw [failed]
      rfl

/-- Integer arithmetic is exact arithmetic wrapped into the type, and so it is wherever two
integers are combined.  Only a division is ever refused: by zero, and of the least number by
minus one, whose quotient does not fit. -/
theorem binary_wraps (op : BinaryOp) {left right : Literal}
    (whole : left.dtype.isInteger = true) (typed : right.dtype = left.dtype) :
    left.binary op right = answer op left.dtype left.integer right.integer ∧
      Combines op left right (answer op left.dtype left.integer right.integer) := by
  have answered := binary_whole op whole typed
  exact ⟨answered, answered ▸ combines_binary op typed⟩

/-- Bytes wrap, and a quotient is cut off towards zero. -/
theorem binary_wraps_sum :
    (u8 250).binary .add (u8 10) = .ok (u8 4) ∧ (i32 (-7)).binary .div (i32 2) = .ok (i32 (-3)) :=
  ⟨(@binary_wraps .add (u8 250) (u8 10) rfl rfl).1.trans (by decide),
    (@binary_wraps .div (i32 (-7)) (i32 2) rfl rfl).1.trans (by decide)⟩

/-- The quotient of the least number and minus one is refused like one by zero, though it
wraps to the least number. -/
theorem least_quotient_refused :
    (i32 Int32.minValue).binary .div (i32 (-1)) = .error noQuotient ∧
      wrapped .i32 (BinaryOp.exact .div Int32.minValue.toInt (-1)) = i32 Int32.minValue ∧
        (i64 Int64.minValue).binary .div (i64 (-1)) = .error noQuotient ∧
          wrapped .i64 (BinaryOp.exact .div Int64.minValue.toInt (-1)) = i64 Int64.minValue := by
  decide

end Literal
end TensorGraph

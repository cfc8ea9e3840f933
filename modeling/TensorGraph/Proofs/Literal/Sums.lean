/-
Sums of products.

The products of pairs of numbers, added up from zero on in order, have the type
of the numbers.  Integers wrap, so the sum of their products is the exact sum as
far as the type has bits.
-/

import TensorGraph.Literal
import TensorGraph.Proofs.Action

namespace TensorGraph

namespace Literal

variable {left right result sum : Literal} {pair : Literal × Literal}
  {pairs : List (Literal × Literal)} {dtype : DType}

/-- The sum so far and one more product. -/
def accumulate (sum : Literal) (pair : Literal × Literal) : Except Error Literal := do
  sum.binary .add (← pair.1.binary .mul pair.2)

/-- The products of the pairs, added up from zero on in order. -/
def sumOfProducts (dtype : DType) (pairs : List (Literal × Literal)) : Except Error Literal :=
  pairs.foldlM accumulate (.zero dtype)

/-- A fold comes to its end when its steps do, on numbers of one type. -/
theorem exists_foldlM {α : Type} {dtype : DType} {items : List α}
    {take : Literal → α → Except Error Literal}
    (step : ∀ item ∈ items, ∀ old : Literal, old.dtype = dtype →
      ∃ new, take old item = .ok new ∧ new.dtype = dtype) :
    ∀ start : Literal, start.dtype = dtype →
      ∃ sum, items.foldlM take start = .ok sum ∧ sum.dtype = dtype := by
  induction items with
  | nil => exact fun start typed => ⟨start, rfl, typed⟩
  | cons item rest inductionHypothesis =>
      intro start typed
      obtain ⟨first, others⟩ := List.forall_mem_cons.mp step
      obtain ⟨new, made, typed'⟩ := first start typed
      obtain ⟨sum, folded, typed''⟩ := inductionHypothesis others new typed'
      exact ⟨sum, bind_eq_ok.mpr ⟨new, made, folded⟩, typed''⟩

/-- Numbers of one type have a sum and a product, of that type. -/
theorem number_binary {op : BinaryOp} (total : op = .add ∨ op = .mul)
    (numeric : left.dtype ≠ .bool) (typed : right.dtype = left.dtype) :
    ∃ result, left.binary op right = .ok result ∧ result.dtype = left.dtype := by
  cases left with
  | bool value => exact (numeric rfl).elim
  | _ =>
      rcases total with rfl | rfl
      all_goals
        cases right
        all_goals
          first
          | cases typed
            exact ⟨_, rfl, rfl⟩
          | cases typed

theorem accumulate_done (numeric : sum.dtype ≠ .bool) (typed : pair.1.dtype = sum.dtype)
    (typed' : pair.2.dtype = sum.dtype) :
    ∃ product result, pair.1.binary .mul pair.2 = .ok product ∧ product.dtype = sum.dtype ∧
      sum.binary .add product = .ok result ∧ result.dtype = sum.dtype ∧
        accumulate sum pair = .ok result := by
  obtain ⟨product, multiplied, typed₁⟩ :=
    number_binary (.inr rfl) (typed ▸ numeric) (typed'.trans typed.symm)
  obtain ⟨result, added, typed₂⟩ := number_binary (.inl rfl) numeric (typed₁.trans typed)
  refine ⟨product, result, multiplied, typed₁.trans typed, added, typed₂, ?_⟩
  rw [accumulate, multiplied]
  exact added

/-- Numbers of one type have a sum of products. -/
theorem sumOfProducts_done (numeric : dtype ≠ .bool)
    (typed : ∀ pair ∈ pairs, pair.1.dtype = dtype ∧ pair.2.dtype = dtype) :
    ∃ sum, sumOfProducts dtype pairs = .ok sum ∧ sum.dtype = dtype := by
  have run : ∀ start : Literal, start.dtype = dtype →
      ∃ sum, pairs.foldlM accumulate start = .ok sum ∧ sum.dtype = dtype := by
    induction pairs with
    | nil => exact fun start same => ⟨start, rfl, same⟩
    | cons pair rest inductionHypothesis =>
        intro start same
        obtain ⟨⟨first, second⟩, others⟩ := List.forall_mem_cons.mp typed
        obtain ⟨_, next, -, -, -, typed', done⟩ :=
          accumulate_done (same ▸ numeric) (first.trans same.symm) (second.trans same.symm)
        obtain ⟨sum, rest', typed''⟩ := inductionHypothesis others next (typed'.trans same)
        exact ⟨sum, bind_eq_ok.mpr ⟨next, done, rest'⟩, typed''⟩
  exact run _ (dtype_zero dtype)

/-- One more pair is one more product. -/
theorem sumOfProducts_take_succ {index : Nat} (found : pairs[index]? = some pair) :
    sumOfProducts dtype (pairs.take (index + 1)) =
      (sumOfProducts dtype (pairs.take index)).bind fun sum => accumulate sum pair := by
  unfold sumOfProducts
  rw [List.take_add_one, found, Option.toList_some, List.foldlM_append]
  refine congrArg (Except.bind _) (funext fun sum => ?_)
  rw [List.foldlM_cons]
  cases accumulate sum pair with
  | error cause => rfl
  | ok result => rfl

/-- The factors of the products at the indices below a size. -/
def Factors (first second : Nat → Except Error Literal) (size : Nat)
    (pairs : List (Literal × Literal)) : Prop :=
  List.Forall₂ (fun index pair => first index = .ok pair.1 ∧ second index = .ok pair.2)
    (List.range size) pairs

namespace Factors

variable {first second : Nat → Except Error Literal} {size index : Nat}

theorem exists_of_read (read : ∀ index < size, ∃ element, first index = .ok element)
    (read' : ∀ index < size, ∃ element, second index = .ok element) :
    ∃ pairs, Factors first second size pairs := by
  have each : ∀ index ∈ List.range size, ∃ pair : Literal × Literal,
      first index = .ok pair.1 ∧ second index = .ok pair.2 := by
    intro index member
    obtain ⟨one, found⟩ := read index (List.mem_range.mp member)
    obtain ⟨two, found'⟩ := read' index (List.mem_range.mp member)
    exact ⟨(one, two), found, found'⟩
  have some : Nonempty (Literal × Literal) := ⟨(.zero .bool, .zero .bool)⟩
  choose! pair found using each
  exact ⟨(List.range size).map pair, List.forall₂_map_right_iff.mpr
    (List.forall₂_same.mpr fun index member => found index member)⟩

/-- Factors that are read in another way. -/
theorem congr {first' second' : Nat → Except Error Literal}
    (factors : Factors first second size pairs)
    (one : ∀ index < size, ∀ element, first index = .ok element → first' index = .ok element)
    (two : ∀ index < size, ∀ element, second index = .ok element → second' index = .ok element) :
    Factors first' second' size pairs := by
  refine List.forall₂_iff_zip.mpr ⟨List.Forall₂.length_eq factors, fun {index pair} member => ?_⟩
  obtain ⟨read, read'⟩ := (List.forall₂_iff_zip.mp factors).2 member
  have below := List.mem_range.mp (List.of_mem_zip member).1
  exact ⟨one index below _ read, two index below _ read'⟩

theorem length_eq (factors : Factors first second size pairs) : pairs.length = size := by
  rw [← List.Forall₂.length_eq factors, List.length_range]

theorem at_index (factors : Factors first second size pairs) (below : index < size) :
    ∃ pair, pairs[index]? = some pair ∧ first index = .ok pair.1 ∧ second index = .ok pair.2 := by
  have within : index < pairs.length := below.trans_eq factors.length_eq.symm
  have counted : index < (List.range size).length := by rwa [List.length_range]
  have here := List.Forall₂.get factors counted within
  rw [List.get_eq_getElem, List.getElem_range] at here
  exact ⟨_, List.getElem?_eq_getElem within, here⟩

theorem unique {pairs' : List (Literal × Literal)} (factors : Factors first second size pairs)
    (factors' : Factors first second size pairs') : pairs = pairs' := by
  refine List.ext_getElem? fun index => ?_
  by_cases below : index < size
  · obtain ⟨pair, found, one, two⟩ := factors.at_index below
    obtain ⟨pair', found', one', two'⟩ := factors'.at_index below
    rw [found, found']
    exact congrArg some (Prod.ext (Except.ok.inj (one.symm.trans one'))
      (Except.ok.inj (two.symm.trans two')))
  · rw [List.getElem?_eq_none (by rw [factors.length_eq]; omega),
      List.getElem?_eq_none (by rw [factors'.length_eq]; omega)]

theorem forall_mem {holds : Literal × Literal → Prop} (factors : Factors first second size pairs)
    (each : ∀ index pair, first index = .ok pair.1 → second index = .ok pair.2 → holds pair) :
    ∀ pair ∈ pairs, holds pair := by
  intro pair member
  obtain ⟨index, within, rfl⟩ := List.getElem_of_mem member
  obtain ⟨pair, found, one, two⟩ := factors.at_index (within.trans_eq factors.length_eq)
  rw [List.getElem?_eq_getElem within] at found
  cases found
  exact each index _ one two

end Factors

/-! ### Integers -/

/-- The number that an integer stands for. -/
def integer : Literal → Int
  | u8 value => value.toNat
  | i32 value => value.toInt
  | i64 value => value.toInt
  | bool _ | f32 _ | f64 _ => 0

/-- Integer arithmetic is that of the integers, as far as the type has bits. -/
theorem integer_binary (whole : left.dtype.isInteger = true) :
    (left.binary .add right = .ok result →
      result.integer ≡ left.integer + right.integer [ZMOD 2 ^ (8 * left.dtype.width)]) ∧
    (left.binary .mul right = .ok result →
      result.integer ≡ left.integer * right.integer [ZMOD 2 ^ (8 * left.dtype.width)]) := by
  cases left with
  | bool value | f32 value | f64 value => cases whole
  | u8 value =>
      cases right with
      | u8 other =>
          refine ⟨?_, ?_⟩
          · rintro ⟨⟩
            change ((value + other).toNat : Int) ≡ _ [ZMOD 2 ^ 8]
            rw [UInt8.toNat_add]
            push_cast
            exact Int.mod_modEq _ _
          · rintro ⟨⟩
            change ((value * other).toNat : Int) ≡ _ [ZMOD 2 ^ 8]
            rw [UInt8.toNat_mul]
            push_cast
            exact Int.mod_modEq _ _
      | _ => exact ⟨nofun, nofun⟩
  | i32 value =>
      cases right with
      | i32 other =>
          refine ⟨?_, ?_⟩
          · rintro ⟨⟩
            change (value + other).toInt ≡ _ [ZMOD 2 ^ 32]
            rw [Int32.toInt_add]
            exact Int.bmod_emod
          · rintro ⟨⟩
            change (value * other).toInt ≡ _ [ZMOD 2 ^ 32]
            rw [Int32.toInt_mul]
            exact Int.bmod_emod
      | _ => exact ⟨nofun, nofun⟩
  | i64 value =>
      cases right with
      | i64 other =>
          refine ⟨?_, ?_⟩
          · rintro ⟨⟩
            change (value + other).toInt ≡ _ [ZMOD 2 ^ 64]
            rw [Int64.toInt_add]
            exact Int.bmod_emod
          · rintro ⟨⟩
            change (value * other).toInt ≡ _ [ZMOD 2 ^ 64]
            rw [Int64.toInt_mul]
            exact Int.bmod_emod
      | _ => exact ⟨nofun, nofun⟩

/-- The sum of products of integers is the exact one, as far as the type has bits. -/
theorem integer_sumOfProducts (whole : dtype.isInteger = true)
    (typed : ∀ pair ∈ pairs, pair.1.dtype = dtype ∧ pair.2.dtype = dtype)
    (done : sumOfProducts dtype pairs = .ok sum) :
    sum.integer ≡ (pairs.map fun pair => pair.1.integer * pair.2.integer).sum
      [ZMOD 2 ^ (8 * dtype.width)] := by
  have numeric : dtype ≠ .bool := by
    rintro rfl
    cases whole
  have run : ∀ start : Literal, start.dtype = dtype → pairs.foldlM accumulate start = .ok sum →
      sum.integer ≡ start.integer + (pairs.map fun pair => pair.1.integer * pair.2.integer).sum
        [ZMOD 2 ^ (8 * dtype.width)] := by
    clear done
    induction pairs with
    | nil =>
        rintro start - ⟨⟩
        rw [List.map_nil, List.sum_nil, add_zero]
    | cons pair rest inductionHypothesis =>
        intro start same done
        obtain ⟨⟨first, second⟩, others⟩ := List.forall_mem_cons.mp typed
        obtain ⟨product, next, multiplied, typed₁, added, typed₂, done'⟩ :=
          accumulate_done (same ▸ numeric) (first.trans same.symm) (second.trans same.symm)
        obtain ⟨_, done'', rest'⟩ := bind_eq_ok.mp done
        cases done'.symm.trans done''
        have product_exact := (integer_binary (first.symm ▸ whole)).2 multiplied
        have next_exact := (integer_binary (same.symm ▸ whole)).1 added
        rw [first] at product_exact
        rw [same] at next_exact
        refine (inductionHypothesis others next (typed₂.trans same) rest').trans ?_
        rw [List.map_cons, List.sum_cons, ← add_assoc]
        exact (next_exact.trans (product_exact.add_left _)).add_right _
  have begun := run _ (dtype_zero dtype) done
  have nothing : (zero dtype).integer = 0 := by
    cases dtype <;> rfl
  rwa [nothing, zero_add] at begun

/-- The sum of the products of the pairs; of integers it is the exact sum, as far as the type
has bits. -/
structure Summed (dtype : DType) (pairs : List (Literal × Literal)) (sum : Literal) :
    Prop where
  done : sumOfProducts dtype pairs = .ok sum
  exact : dtype.isInteger = true →
    sum.integer ≡ (pairs.map fun pair => pair.1.integer * pair.2.integer).sum
      [ZMOD 2 ^ (8 * dtype.width)]

end Literal
end TensorGraph

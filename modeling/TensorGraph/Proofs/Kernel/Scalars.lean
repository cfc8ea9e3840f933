/-
Scalars on the host.

What the host makes of a scalar expression over floating point numbers is one
literal, and it does nothing else but put new storages into the heap.  An
activation function is therefore a function on literals.
-/

import TensorGraph.Kernel.Layer.Dense
import TensorGraph.Proofs.Heap
import TensorGraph.Proofs.Kernel.Host

namespace TensorGraph

namespace Host

variable {ρ : Type} {state : HostState ρ}

/-- The scalar stands for the element. -/
structure Reads (heap : Heap) (scalar : Scalar) (element : Literal) : Prop where
  dtype : scalar.dtype = element.dtype
  layout : scalar.value.layout? = some Layout.scalar
  place : ∃ name index, scalar.value.place = .host name index ∧ name < heap.next ∧
    (heap.storage name).cells[index]? = some element

theorem Reads.mono {heap later : Heap} {scalar : Scalar} {element : Literal}
    (reads : Reads heap scalar element) (growing : heap.Grows later) :
    Reads later scalar element := by
  obtain ⟨name, index, placed, known, held⟩ := reads.place
  refine ⟨reads.dtype, reads.layout, name, index, placed, known.trans_le growing.next, ?_⟩
  rw [growing.kept name known]
  exact held

/-- What a scalar stands for stays when only another storage is written. -/
theorem Reads.beside {heap later : Heap} {scalar : Scalar} {element : Literal} {name : Nat}
    (reads : Reads heap scalar element) (apart : ∀ index, scalar.value.place ≠ .host name index)
    (next : heap.next ≤ later.next)
    (others : ∀ other < heap.next, other ≠ name → later.storage other = heap.storage other) :
    Reads later scalar element := by
  obtain ⟨other, index, placed, known, held⟩ := reads.place
  have different : other ≠ name := fun same => apart index (same ▸ placed)
  refine ⟨reads.dtype, reads.layout, other, index, placed, known.trans_le next, ?_⟩
  rw [others other known different]
  exact held

theorem Reads.literal {heap : Heap} {scalar : Scalar} {element : Literal}
    (reads : Reads heap scalar element) : Host.literal scalar.value heap = .ok element := by
  obtain ⟨name, index, placed, -, held⟩ := reads.place
  obtain ⟨within, same⟩ := Array.getElem?_eq_some_iff.mp held
  obtain ⟨⟨dtype?, layout?, place⟩, dtype, typed, rankZero⟩ := scalar
  have here : layout? = some Layout.scalar := reads.layout
  have there : place = .host name index := placed
  subst here there
  change (heap.storage name).get index = .ok element
  unfold Storage.get
  rw [dif_pos within, same]

/-- The action answers with a scalar that stands for the element, and only adds to the
heap. -/
def Gives (action : Host ρ Scalar) (state : HostState ρ) (element : Literal) : Prop :=
  ∃ scalar after, action state = .ok scalar after ∧ state.heap.Grows after.heap ∧
    Reads after.heap scalar element

theorem Gives.bind {first : Host ρ Scalar} {rest : Scalar → Host ρ Scalar}
    {element result : Literal} (one : Gives first state element)
    (two : ∀ scalar after, state.heap.Grows after.heap → Reads after.heap scalar element →
      Gives (rest scalar) after result) : Gives (first >>= rest) state result := by
  obtain ⟨scalar, middle, done, growing, reads⟩ := one
  obtain ⟨answer, last, done', growing', reads'⟩ := two scalar middle growing reads
  exact ⟨answer, last, bind_ok.mpr ⟨scalar, middle, done, done'⟩, growing.trans growing', reads'⟩

/-- The scalar of an element in a storage of its own. -/
def alone (element : Literal) (name : Nat) : Scalar :=
  { value :=
      { dtype? := some element.dtype
        layout? := some Layout.scalar
        place := .host name 0 }
    dtype := element.dtype
    typed := rfl
    rankZero := rfl }

theorem reads_alone (element : Literal) (heap : Heap) :
    Reads (heap.add (Storage.singleton element)) (alone element heap.next) element := by
  refine ⟨rfl, rfl, heap.next, 0, rfl, ?_, ?_⟩
  · simp [Heap.next, Heap.add]
  · rw [Heap.storage_add_self]
    rfl

theorem gives_constant (element : Literal) (state : HostState ρ) :
    Gives (Scalar.constant element) state element :=
  ⟨alone element state.heap.next, onto state (state.heap.add (Storage.singleton element)), rfl,
    .add _ _, reads_alone element state.heap⟩

theorem gives_like {scalar : Scalar} {element : Literal} (reads : Reads state.heap scalar element)
    (number : Float) :
    Gives (scalar.like number) state (.ofFloat element.dtype number) := by
  unfold Scalar.like
  rw [reads.dtype]
  exact gives_constant _ _

/-- The state after some more scalar operations. -/
def counted (state : HostState ρ) (operations : Nat) : HostState ρ :=
  { state with operations := state.operations + operations }

theorem readLiteral_reads {scalar : Scalar} {element : Literal}
    (reads : Reads state.heap scalar element) :
    (readLiteral scalar.value : Host ρ Literal) state = .ok element state :=
  readLiteral_ok.mpr ⟨reads.literal, rfl⟩

theorem checkType_done {left right : Scalar} (same : left.dtype = right.dtype) :
    (Scalar.checkType left right : Host ρ Unit) state = .ok () state := by
  unfold Scalar.checkType
  rw [if_pos same]
  rfl

/-- What is made of a scalar stands in a storage of its own. -/
theorem unary_done {op : UnaryOp} {scalar : Scalar} {element result : Literal}
    (reads : Reads state.heap scalar element) (evaluated : element.unary op = .ok result) :
    (scalar.unary op : Host ρ Scalar) state = .ok (alone result state.heap.next)
      (onto (counted state 1) (state.heap.add (Storage.singleton result))) := by
  have read := @readLiteral_reads ρ (counted state 1) _ _ reads
  have done : (Host.unary op scalar.value : Host ρ Value) state =
      .ok (alone result state.heap.next).value
        (onto (counted state 1) (state.heap.add (Storage.singleton result))) :=
    bind_ok.mpr ⟨(), counted state 1, rfl, bind_ok.mpr ⟨element, _, read,
      bind_ok.mpr ⟨result, _, ofExcept_ok.mpr ⟨evaluated, rfl⟩, rfl⟩⟩⟩
  exact bind_ok.mpr ⟨_, _, done, rfl⟩

theorem gives_unary {op : UnaryOp} {scalar : Scalar} {element result : Literal}
    (reads : Reads state.heap scalar element) (evaluated : element.unary op = .ok result) :
    Gives (scalar.unary op) state result :=
  ⟨_, _, unary_done reads evaluated, .add _ _, reads_alone result state.heap⟩

/-- What two scalars are combined to stands in a storage of its own. -/
theorem binary_done {op : BinaryOp} {left right : Scalar} {element other result : Literal}
    (reads : Reads state.heap left element) (reads' : Reads state.heap right other)
    (typed : other.dtype = element.dtype) (evaluated : element.binary op other = .ok result) :
    (left.binary op right : Host ρ Scalar) state = .ok (alone result state.heap.next)
      (onto (counted state 1) (state.heap.add (Storage.singleton result))) := by
  have same : left.dtype = right.dtype := by
    rw [reads.dtype, reads'.dtype, typed]
  have read := @readLiteral_reads ρ (counted state 1) _ _ reads
  have read' := @readLiteral_reads ρ (counted state 1) _ _ reads'
  have done : (Host.binary op left.value right.value : Host ρ Value) state =
      .ok (alone result state.heap.next).value
        (onto (counted state 1) (state.heap.add (Storage.singleton result))) :=
    bind_ok.mpr ⟨(), counted state 1, rfl, bind_ok.mpr ⟨element, _, read,
      bind_ok.mpr ⟨other, _, read', bind_ok.mpr ⟨result, _, ofExcept_ok.mpr ⟨evaluated, rfl⟩,
        rfl⟩⟩⟩⟩
  exact bind_ok.mpr ⟨(), state, checkType_done same, bind_ok.mpr ⟨_, _, done, rfl⟩⟩

theorem gives_binary {op : BinaryOp} {left right : Scalar} {element other result : Literal}
    (reads : Reads state.heap left element) (reads' : Reads state.heap right other)
    (typed : other.dtype = element.dtype) (evaluated : element.binary op other = .ok result) :
    Gives (left.binary op right) state result :=
  ⟨_, _, binary_done reads reads' typed evaluated, .add _ _, reads_alone result state.heap⟩

end Host

/-! ### Floating point numbers -/

namespace Literal

theorem float_binary (op : BinaryOp) {left right : Literal} (float : left.dtype.isFloat = true)
    (typed : right.dtype = left.dtype) :
    ∃ result, left.binary op right = .ok result ∧ result.dtype = left.dtype := by
  cases left with
  | f32 value | f64 value => cases right <;> first | cases typed; exact ⟨_, rfl, rfl⟩ | cases typed
  | _ => cases float

theorem float_unary (op : UnaryOp) (other : op ≠ .not) {operand : Literal}
    (float : operand.dtype.isFloat = true) :
    ∃ result, operand.unary op = .ok result ∧ result.dtype = operand.dtype := by
  cases operand with
  | f32 value | f64 value => cases op <;> first | exact ⟨_, rfl, rfl⟩ | exact (other rfl).elim
  | _ => cases float

end Literal

namespace ActivationFunction

/-- The logistic function on an element. -/
def logisticImage (x : Literal) : Except Error Literal := do
  let negated ← x.unary .neg
  let power ← negated.unary .exp
  let one := Literal.ofFloat x.dtype 1.0
  one.binary .div (← one.binary .add power)

/-- The function on an element, in the operations and the order of the kernel. -/
def image (function : ActivationFunction) (x : Literal) : Except Error Literal :=
  match function with
  | relu => x.binary .max (.ofFloat x.dtype 0.0)
  | leakyRelu alpha => do
      let scaled ← x.binary .mul (.ofFloat x.dtype alpha)
      x.binary (if alpha ≤ 1.0 then .max else .min) scaled
  | sigmoid => logisticImage x
  | tanh => x.unary .tanh
  | hardSigmoid => do
      let scaled ← x.binary .mul (.ofFloat x.dtype 0.2)
      let shifted ← scaled.binary .add (.ofFloat x.dtype 0.5)
      let raised ← shifted.binary .max (.ofFloat x.dtype 0.0)
      raised.binary .min (.ofFloat x.dtype 1.0)

end ActivationFunction

namespace Host

variable {ρ : Type}

/-- What an action makes of a scalar depends on its element alone. -/
def Maps (action : Scalar → Host ρ Scalar) (element result : Literal) : Prop :=
  ∀ (scalar : Scalar) (state : HostState ρ), Reads state.heap scalar element →
    Gives (action scalar) state result

theorem maps_logistic {element : Literal} (float : element.dtype.isFloat = true) :
    ∃ result, ActivationFunction.logisticImage element = .ok result ∧
      result.dtype = element.dtype ∧
        Maps (ρ := ρ) ActivationFunction.logistic element result := by
  have typed := Literal.dtype_ofFloat element.dtype 1.0
  obtain ⟨negated, neg, typed₁⟩ := Literal.float_unary .neg nofun float
  obtain ⟨power, exp, typed₂⟩ := Literal.float_unary .exp nofun (typed₁.symm ▸ float)
  obtain ⟨sum, add, typed₃⟩ := Literal.float_binary .add (typed.symm ▸ float)
    (typed₂.trans (typed₁.trans typed.symm))
  obtain ⟨result, div, typed₄⟩ := Literal.float_binary .div (typed.symm ▸ float) typed₃
  refine ⟨result, ?_, typed₄.trans typed, fun scalar state reads => ?_⟩
  · simp only [ActivationFunction.logisticImage, neg, exp, add, bind, Except.bind]
    exact div
  refine (gives_unary reads neg).bind fun _ one growing₁ reads₁ => ?_
  refine (gives_unary reads₁ exp).bind fun _ two growing₂ reads₂ => ?_
  have here := reads.mono (growing₁.trans growing₂)
  refine (gives_like here 1.0).bind fun _ three growing₃ reads₃ => ?_
  refine (gives_binary reads₃ (reads₂.mono growing₃) (typed₂.trans (typed₁.trans typed.symm))
    add).bind fun _ four growing₄ reads₄ => ?_
  exact gives_binary (reads₃.mono growing₄) reads₄ typed₃ div

/-- One operation with a constant on the right. -/
private theorem maps_constant (op : BinaryOp) (number : Float) {element : Literal}
    (float : element.dtype.isFloat = true) :
    ∃ result, element.binary op (.ofFloat element.dtype number) = .ok result ∧
      result.dtype = element.dtype ∧ Maps (ρ := ρ) (fun scalar => do
        scalar.binary op (← scalar.like number)) element result := by
  have typed := Literal.dtype_ofFloat element.dtype number
  obtain ⟨result, done, typed'⟩ := Literal.float_binary op float typed
  refine ⟨result, done, typed', fun scalar state reads => ?_⟩
  refine (gives_like reads number).bind fun _ one growing reads₁ => ?_
  exact gives_binary (reads.mono growing) reads₁ typed done

/-- An activation function is one on elements. -/
theorem maps_image (function : ActivationFunction) {element : Literal}
    (float : element.dtype.isFloat = true) :
    ∃ result, function.image element = .ok result ∧ result.dtype = element.dtype ∧
      Maps (ρ := ρ) function.apply element result := by
  cases function with
  | relu => exact maps_constant .max 0.0 float
  | sigmoid => exact maps_logistic float
  | tanh =>
      obtain ⟨result, done, typed⟩ := Literal.float_unary .tanh nofun float
      exact ⟨result, done, typed, fun scalar state reads => gives_unary reads done⟩
  | leakyRelu alpha =>
      have typed := Literal.dtype_ofFloat element.dtype alpha
      obtain ⟨scaled, mul, typed₁⟩ := Literal.float_binary .mul float typed
      obtain ⟨result, done, typed₂⟩ := Literal.float_binary (if alpha ≤ 1.0 then .max else .min)
        float typed₁
      refine ⟨result, bind_eq_ok.mpr ⟨scaled, mul, done⟩, typed₂, fun scalar state reads => ?_⟩
      refine (gives_like reads alpha).bind fun _ one growing₁ reads₁ => ?_
      refine (gives_binary (reads.mono growing₁) reads₁ typed mul).bind
        fun _ two growing₂ reads₂ => ?_
      exact gives_binary (reads.mono (growing₁.trans growing₂)) reads₂ typed₁ done
  | hardSigmoid =>
      have constant (number : Float) := Literal.dtype_ofFloat element.dtype number
      obtain ⟨scaled, mul, typed₁⟩ := Literal.float_binary .mul float (constant 0.2)
      obtain ⟨shifted, add, typed₂⟩ := Literal.float_binary .add (typed₁.symm ▸ float)
        ((constant 0.5).trans typed₁.symm)
      have same₂ := typed₂.trans typed₁
      obtain ⟨raised, max, typed₃⟩ := Literal.float_binary .max (same₂.symm ▸ float)
        ((constant 0.0).trans same₂.symm)
      have same₃ := typed₃.trans same₂
      obtain ⟨result, min, typed₄⟩ := Literal.float_binary .min (same₃.symm ▸ float)
        ((constant 1.0).trans same₃.symm)
      refine ⟨result, ?_, typed₄.trans same₃, fun scalar state reads => ?_⟩
      · simp only [ActivationFunction.image, mul, add, max, bind, Except.bind]
        exact min
      refine (gives_like reads 0.2).bind fun _ one growing₁ reads₁ => ?_
      refine (gives_binary (reads.mono growing₁) reads₁ (constant 0.2) mul).bind
        fun _ two growing₂ reads₂ => ?_
      have here₂ := reads.mono (growing₁.trans growing₂)
      refine (gives_like here₂ 0.5).bind fun _ three growing₃ reads₃ => ?_
      refine (gives_binary (reads₂.mono growing₃) reads₃ ((constant 0.5).trans typed₁.symm)
        add).bind fun _ four growing₄ reads₄ => ?_
      have here₄ := here₂.mono (growing₃.trans growing₄)
      refine (gives_like here₄ 0.0).bind fun _ five growing₅ reads₅ => ?_
      refine (gives_binary (reads₄.mono growing₅) reads₅ ((constant 0.0).trans same₂.symm)
        max).bind fun _ six growing₆ reads₆ => ?_
      have here₆ := here₄.mono (growing₅.trans growing₆)
      refine (gives_like here₆ 1.0).bind fun _ seven growing₇ reads₇ => ?_
      exact gives_binary (reads₆.mono growing₇) reads₇ ((constant 1.0).trans same₃.symm) min

theorem maps_apply (function : ActivationFunction) {element : Literal}
    (float : element.dtype.isFloat = true) :
    ∃ result, result.dtype = element.dtype ∧ Maps (ρ := ρ) function.apply element result := by
  obtain ⟨result, -, typed, maps⟩ := maps_image function float
  exact ⟨result, typed, maps⟩

end Host
end TensorGraph

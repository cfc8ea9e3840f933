/-
Gates of a cell.

With the sums `z = wx * x + wh * h + bx + bh` of four gates, each of as many rows
as there are hidden units, a step of a cell is

  c := f * c + i * g        h := o * activation c

All arithmetic is that of the type, in the order of the kernel.  The kernel finds
the sums in a storage of its own.
-/

import TensorGraph.Graph.Evaluate
import TensorGraph.Proofs.Kernel.Tabulated

namespace TensorGraph

/-! ### One step -/

namespace LstmWeights

/-- The sums of all gates, the gates one after the other. -/
def sums (weights : LstmWeights) (dtype : DType) (x hidden : Storage) : Except Error Storage := do
  let numbers (values : List Float) := Storage.ofFloats dtype values.toArray
  let driven ← (numbers weights.inputWeights).rowProducts (4 * weights.hiddenUnits) x
  let recurrent ← (numbers weights.hiddenWeights).rowProducts (4 * weights.hiddenUnits) hidden
  let both ← driven.combined .add recurrent
  let biased ← both.combined .add (numbers weights.inputBias)
  biased.combined .add (numbers weights.hiddenBias)

/-- The part of a gate that belongs to a unit. -/
def gate (weights : LstmWeights) (sums : Storage) (unit number : Nat) : Except Error Literal :=
  sums.get (unit + number * weights.hiddenUnits)

/-- `c := f * c + i * g` for one unit. -/
def cellUnit (weights : LstmWeights) (sums cell : Storage) (unit : Nat) :
    Except Error Literal := do
  let i ← weights.recurrent.image (← weights.gate sums unit 0)
  let f ← weights.recurrent.image (← weights.gate sums unit 1)
  let g ← weights.activation.image (← weights.gate sums unit 2)
  let kept ← f.binary .mul (← cell.get unit)
  let added ← i.binary .mul g
  kept.binary .add added

/-- `h := o * activation c` for one unit. -/
def hiddenUnit (weights : LstmWeights) (sums cell : Storage) (unit : Nat) :
    Except Error Literal := do
  let o ← weights.recurrent.image (← weights.gate sums unit 3)
  let activated ← weights.activation.image (← cell.get unit)
  o.binary .mul activated

/-- The hidden state and the cell state behind those of the step before. -/
def advance (weights : LstmWeights) (dtype : DType) (x hidden cell : Storage) :
    Except Error (Storage × Storage) := do
  let sums ← weights.sums dtype x hidden
  let cell ← Storage.tabulate dtype weights.hiddenUnits (weights.cellUnit sums cell)
  let hidden ← Storage.tabulate dtype weights.hiddenUnits (weights.hiddenUnit sums cell)
  return (hidden, cell)

/-- There are as many weights and biases as the gates have, for an input of some columns. -/
structure Sized (weights : LstmWeights) (columns : Nat) : Prop where
  some : 0 < weights.hiddenUnits
  inputWeights : weights.inputWeights.length = 4 * weights.hiddenUnits * columns
  hiddenWeights : weights.hiddenWeights.length = 4 * weights.hiddenUnits * weights.hiddenUnits
  inputBias : weights.inputBias.length = 4 * weights.hiddenUnits
  hiddenBias : weights.hiddenBias.length = 4 * weights.hiddenUnits

variable {weights : LstmWeights} {dtype : DType} {x hidden cell sums : Storage} {unit : Nat}

theorem image_done (function : ActivationFunction) {element : Literal}
    (float : element.dtype.isFloat = true) :
    ∃ result, function.image element = .ok result ∧ result.dtype = element.dtype := by
  obtain ⟨result, done, typed, -⟩ := Host.maps_image (ρ := Unit) function float
  exact ⟨result, done, typed⟩

theorem sums_ok (done : weights.sums dtype x hidden = .ok sums) :
    sums.dtype = dtype ∧ sums.size = 4 * weights.hiddenUnits := by
  obtain ⟨driven, done₁, done⟩ := bind_eq_ok.mp done
  obtain ⟨recurrent, -, done⟩ := bind_eq_ok.mp done
  obtain ⟨both, done₂, done⟩ := bind_eq_ok.mp done
  obtain ⟨biased, done₃, done⟩ := bind_eq_ok.mp done
  obtain ⟨typed₁, sized₁, -⟩ := Storage.tabulate_ok done₁
  obtain ⟨typed₂, sized₂, -⟩ := Storage.tabulate_ok done₂
  obtain ⟨typed₃, sized₃, -⟩ := Storage.tabulate_ok done₃
  obtain ⟨typed₄, sized₄, -⟩ := Storage.tabulate_ok done
  exact ⟨typed₄.trans (typed₃.trans (typed₂.trans typed₁)),
    sized₄.trans (sized₃.trans (sized₂.trans sized₁))⟩

theorem exists_sums (float : dtype.isFloat = true) (sized : weights.Sized x.size)
    (typed : x.dtype = dtype) (typed' : hidden.dtype = dtype)
    (sized' : hidden.size = weights.hiddenUnits) :
    ∃ sums, weights.sums dtype x hidden = .ok sums := by
  have numeric : dtype ≠ .bool := by
    rintro rfl
    cases float
  have numbers (values : List Float) := Storage.size_ofFloats dtype values
  obtain ⟨driven, done₁⟩ : ∃ driven,
      (Storage.ofFloats dtype weights.inputWeights.toArray).rowProducts
        (4 * weights.hiddenUnits) x = .ok driven :=
    Storage.exists_rowProducts numeric typed ((numbers _).trans sized.inputWeights)
  obtain ⟨recurrent, done₂⟩ : ∃ recurrent,
      (Storage.ofFloats dtype weights.hiddenWeights.toArray).rowProducts
        (4 * weights.hiddenUnits) hidden = .ok recurrent :=
    Storage.exists_rowProducts numeric typed'
      ((numbers _).trans (sized.hiddenWeights.trans (by rw [sized'])))
  obtain ⟨typed₁, sized₁, -⟩ := Storage.tabulate_ok done₁
  obtain ⟨typed₂, sized₂, -⟩ := Storage.tabulate_ok done₂
  obtain ⟨both, done₃⟩ := Storage.exists_combined .add (typed₁.symm ▸ float)
    (typed₂.trans typed₁.symm) (sized₂.trans sized₁.symm)
  obtain ⟨typed₃, sized₃, -⟩ := Storage.tabulate_ok done₃
  obtain ⟨biased, done₄⟩ : ∃ biased,
      both.combined .add (Storage.ofFloats dtype weights.inputBias.toArray) = .ok biased :=
    Storage.exists_combined .add (typed₃.trans typed₁ ▸ float) (typed₃.trans typed₁).symm
      ((numbers _).trans (sized.inputBias.trans (sized₃.trans sized₁).symm))
  obtain ⟨typed₄, sized₄, -⟩ := Storage.tabulate_ok done₄
  have kind := typed₄.trans (typed₃.trans typed₁)
  obtain ⟨sums, done₅⟩ : ∃ sums,
      biased.combined .add (Storage.ofFloats dtype weights.hiddenBias.toArray) = .ok sums :=
    Storage.exists_combined .add (kind ▸ float) kind.symm
      ((numbers _).trans (sized.hiddenBias.trans (sized₄.trans (sized₃.trans sized₁)).symm))
  exact ⟨sums, bind_eq_ok.mpr ⟨_, done₁, bind_eq_ok.mpr ⟨_, done₂, bind_eq_ok.mpr ⟨_, done₃,
    bind_eq_ok.mpr ⟨_, done₄, done₅⟩⟩⟩⟩⟩

/-- An activated element of a row of floating point numbers. -/
theorem exists_gate (function : ActivationFunction) (float : sums.dtype.isFloat = true)
    (below : unit < sums.size) :
    ∃ element result, sums.get unit = .ok element ∧ function.image element = .ok result ∧
      result.dtype = sums.dtype := by
  obtain ⟨element, read⟩ := Storage.exists_get below
  have kind := Storage.dtype_of_get read
  obtain ⟨result, done, typed⟩ := image_done function (kind ▸ float)
  exact ⟨element, result, read, done, typed.trans kind⟩

theorem exists_cellUnit (float : dtype.isFloat = true) (typed : sums.dtype = dtype)
    (sized : sums.size = 4 * weights.hiddenUnits) (typed' : cell.dtype = dtype)
    (sized' : cell.size = weights.hiddenUnits) (below : unit < weights.hiddenUnits) :
    ∃ result, weights.cellUnit sums cell unit = .ok result ∧ result.dtype = dtype := by
  subst typed
  obtain ⟨zi, i, read₁, done₁, kind₁⟩ := exists_gate weights.recurrent float
    (by omega : unit + 0 * weights.hiddenUnits < sums.size)
  obtain ⟨zf, f, read₂, done₂, kind₂⟩ := exists_gate weights.recurrent float
    (by omega : unit + 1 * weights.hiddenUnits < sums.size)
  obtain ⟨zg, g, read₃, done₃, kind₃⟩ := exists_gate weights.activation float
    (by omega : unit + 2 * weights.hiddenUnits < sums.size)
  obtain ⟨previous, read₄⟩ := Storage.exists_get (below.trans_eq sized'.symm)
  have kind₄ := (Storage.dtype_of_get read₄).trans typed'
  obtain ⟨kept, mul, kind₅⟩ := Literal.float_binary .mul (kind₂ ▸ float) (kind₄.trans kind₂.symm)
  obtain ⟨added, mul', kind₆⟩ := Literal.float_binary .mul (kind₁ ▸ float) (kind₃.trans kind₁.symm)
  have kind₇ := kind₅.trans kind₂
  obtain ⟨result, add, kind₈⟩ := Literal.float_binary .add (kind₇ ▸ float)
    (kind₆.trans (kind₁.trans kind₇.symm))
  refine ⟨result, ?_, kind₈.trans kind₇⟩
  simp only [cellUnit, gate, read₁, done₁, read₂, done₂, read₃, done₃, read₄, mul, mul', bind,
    Except.bind]
  exact add

theorem exists_hiddenUnit (float : dtype.isFloat = true) (typed : sums.dtype = dtype)
    (sized : sums.size = 4 * weights.hiddenUnits) (typed' : cell.dtype = dtype)
    (sized' : cell.size = weights.hiddenUnits) (below : unit < weights.hiddenUnits) :
    ∃ result, weights.hiddenUnit sums cell unit = .ok result ∧ result.dtype = dtype := by
  subst typed
  obtain ⟨zo, o, read₁, done₁, kind₁⟩ := exists_gate weights.recurrent float
    (by omega : unit + 3 * weights.hiddenUnits < sums.size)
  obtain ⟨c, activated, read₂, done₂, kind₂⟩ := exists_gate weights.activation (typed'.symm ▸ float)
    (by omega : unit < cell.size)
  obtain ⟨result, mul, kind₃⟩ := Literal.float_binary .mul (kind₁ ▸ float)
    (kind₂.trans (typed'.trans kind₁.symm))
  refine ⟨result, ?_, kind₃.trans kind₁⟩
  simp only [hiddenUnit, gate, read₁, done₁, read₂, done₂, bind, Except.bind]
  exact mul

/-- A cell of floating point numbers always has a next state. -/
theorem exists_advance (float : dtype.isFloat = true) (sized : weights.Sized x.size)
    (typed : x.dtype = dtype) (hidden_typed : hidden.dtype = dtype)
    (hidden_sized : hidden.size = weights.hiddenUnits) (cell_typed : cell.dtype = dtype)
    (cell_sized : cell.size = weights.hiddenUnits) :
    ∃ next, weights.advance dtype x hidden cell = .ok next := by
  obtain ⟨sums, summed⟩ := exists_sums float sized typed hidden_typed hidden_sized
  obtain ⟨kind, count⟩ := sums_ok summed
  obtain ⟨cell', done₁⟩ := Storage.exists_tabulate fun unit below =>
    exists_cellUnit float kind count cell_typed cell_sized below
  obtain ⟨kind', count', -⟩ := Storage.tabulate_ok done₁
  obtain ⟨hidden', done₂⟩ := Storage.exists_tabulate fun unit below =>
    exists_hiddenUnit float kind count kind' count' below
  exact ⟨(hidden', cell'), bind_eq_ok.mpr ⟨_, summed, bind_eq_ok.mpr ⟨_, done₁,
    bind_eq_ok.mpr ⟨_, done₂, rfl⟩⟩⟩⟩

end LstmWeights

namespace Host

variable {ρ : Type} {state : HostState ρ} {heap after : Heap}
  {parameters : Kernel.LstmParameters} {weights : LstmWeights} {dtype : DType}
  {input previous sums : Storage} {x hidden : Vector} {name name' size : Nat}

/-! ### The sums -/

/-- The parameters are the weights of a cell, in storages that are not among some. -/
structure CellOf (names : List Nat) (heap : Heap) (parameters : Kernel.LstmParameters)
    (weights : LstmWeights) (dtype : DType) (columns : Nat) : Prop where
  units : parameters.hiddenUnits = weights.hiddenUnits
  activation : parameters.activation = weights.activation
  recurrent : parameters.recurrent = weights.recurrent
  sized : weights.Sized columns
  inputWeights : ∃ name ∉ names, parameters.inputWeights.value.Fills heap name
    [4 * weights.hiddenUnits, columns] (.ofFloats dtype weights.inputWeights.toArray)
  hiddenWeights : ∃ name ∉ names, parameters.hiddenWeights.value.Fills heap name
    [4 * weights.hiddenUnits, weights.hiddenUnits] (.ofFloats dtype weights.hiddenWeights.toArray)
  inputBias : ∃ name ∉ names, RowOf parameters.inputBias heap name
    (.ofFloats dtype weights.inputBias.toArray)
  hiddenBias : ∃ name ∉ names, RowOf parameters.hiddenBias heap name
    (.ofFloats dtype weights.hiddenBias.toArray)

theorem CellOf.onlyIn {names : List Nat} {columns : Nat}
    (cell : CellOf names heap parameters weights dtype columns) (only : heap.OnlyIn names after) :
    CellOf names after parameters weights dtype columns where
  units := cell.units
  activation := cell.activation
  recurrent := cell.recurrent
  sized := cell.sized
  inputWeights := cell.inputWeights.imp fun _ held => ⟨held.1, held.2.onlyIn only held.1⟩
  hiddenWeights := cell.hiddenWeights.imp fun _ held => ⟨held.1, held.2.onlyIn only held.1⟩
  inputBias := cell.inputBias.imp fun _ held => ⟨held.1, held.2.onlyIn only held.1⟩
  hiddenBias := cell.hiddenBias.imp fun _ held => ⟨held.1, held.2.onlyIn only held.1⟩

/-- A new row of zeros. -/
theorem freshVector_yields (dtype : DType) (size : Nat) (state : HostState ρ) :
    Yields (Kernel.freshVector dtype size : Host ρ Vector) state fun vector after =>
      state.heap.Grows after.heap ∧ state.heap.next < after.heap.next ∧
        RowOf vector after.heap state.heap.next (.zeros dtype size) := by
  refine (allocate_fills dtype [size] state).bind ?_
  rintro value middle ⟨growing, fills⟩
  refine (vector_of_fills fills).mono ?_
  rintro vector after ⟨rfl, -, row⟩
  rw [Layout.elementCount_single] at row
  exact ⟨growing, fills.known, row⟩

/-- The sums of all gates are found in a storage of their own. -/
theorem gateSums_yields {names : List Nat}
    (cell : CellOf names state.heap parameters weights dtype input.size)
    (row : RowOf x state.heap name input) (row' : RowOf hidden state.heap name' previous)
    (float : dtype.isFloat = true) (typed : input.dtype = dtype) (typed' : previous.dtype = dtype)
    (sized : previous.size = weights.hiddenUnits) (counts : input.size ≤ Nat.pow 2 63)
    (counts' : 4 * weights.hiddenUnits ≤ Nat.pow 2 63)
    (done : weights.sums dtype input previous = .ok sums) :
    Yields (Kernel.gateSums parameters x hidden : Host ρ Vector) state fun gates after =>
      state.heap.Grows after.heap ∧ RowOf gates after.heap state.heap.next sums := by
  obtain ⟨driven, done₁, done⟩ := bind_eq_ok.mp done
  obtain ⟨recurrent, done₂, done⟩ := bind_eq_ok.mp done
  obtain ⟨both, done₃, done⟩ := bind_eq_ok.mp done
  obtain ⟨biased, done₄, done₅⟩ := bind_eq_ok.mp done
  obtain ⟨kind₁, count₁, -⟩ := Storage.tabulate_ok done₁
  obtain ⟨kind₂, count₂, -⟩ := Storage.tabulate_ok done₂
  obtain ⟨kind₃, count₃, -⟩ := Storage.tabulate_ok done₃
  obtain ⟨kind₄, count₄, -⟩ := Storage.tabulate_ok done₄
  have numeric : dtype ≠ .bool := by
    rintro rfl
    cases float
  have blank := Storage.size_zeros dtype (4 * weights.hiddenUnits)
  have numbers (values : List Float) := Storage.size_ofFloats dtype values
  obtain ⟨wx, -, weights_wx⟩ := cell.inputWeights
  obtain ⟨wh, -, weights_wh⟩ := cell.hiddenWeights
  obtain ⟨bx, -, bias_bx⟩ := cell.inputBias
  obtain ⟨bh, -, bias_bh⟩ := cell.hiddenBias
  have known₁ := weights_wx.known
  have known₂ := weights_wh.known
  have known₃ := bias_bx.fills.known
  have known₄ := bias_bh.fills.known
  have known₅ := row.fills.known
  have known₆ := row'.fills.known
  unfold Kernel.gateSums
  rw [dtype_of_matrix weights_wx, cell.units]
  refine (freshVector_yields dtype (4 * weights.hiddenUnits) state).bind ?_
  rintro gates one ⟨grows₁, next₁, gates₁⟩
  refine (freshVector_yields dtype (4 * weights.hiddenUnits) one).bind ?_
  rintro others two ⟨grows₂, next₂, others₂⟩
  have grows : state.heap.Grows two.heap := grows₁.trans grows₂
  have driving : Spans two.heap parameters.inputWeights x gates wx name state.heap.next
      (.ofFloats dtype weights.inputWeights.toArray) input
      (.zeros dtype (4 * weights.hiddenUnits)) :=
    ⟨blank.symm ▸ weights_wx.grows grows, row.grows grows, gates₁.grows grows₂, typed, rfl⟩
  refine (multiply_rowOf driving numeric (blank.trans_le counts') counts (by omega)
    (blank.symm ▸ done₁)).bind ?_
  rintro _ three ⟨spares₃, gates₃⟩
  have grows := spares₃.grown grows le_rfl
  have recurring : Spans three.heap parameters.hiddenWeights hidden others wh name' one.heap.next
      (.ofFloats dtype weights.hiddenWeights.toArray) previous
      (.zeros dtype (4 * weights.hiddenUnits)) :=
    ⟨blank.symm ▸ sized.symm ▸ weights_wh.grows grows, row'.grows grows,
      others₂.spared spares₃ (by omega), typed', rfl⟩
  refine (multiply_rowOf recurring numeric (blank.trans_le counts') (by omega) (by omega)
    (blank.symm ▸ done₂)).bind ?_
  rintro _ four ⟨spares₄, others₄⟩
  have grows := spares₄.grown grows (by omega)
  refine (combine_rowOf (gates₃.spared spares₄ (by omega)) others₄ (by omega)
    (kind₂.trans kind₁.symm) (count₂.trans count₁.symm) (count₁.trans_le counts') done₃).bind ?_
  rintro _ five ⟨spares₅, gates₅⟩
  have grows := spares₅.grown grows le_rfl
  have count := count₃.trans count₁
  have kind := kind₃.trans kind₁
  refine (combine_rowOf gates₅ (bias_bx.grows grows) (by omega) kind.symm
    ((numbers _).trans (cell.sized.inputBias.trans count.symm)) (count.trans_le counts')
    done₄).bind ?_
  rintro _ six ⟨spares₆, gates₆⟩
  have grows := spares₆.grown grows le_rfl
  refine (combine_rowOf gates₆ (bias_bh.grows grows) (by omega) (kind₄.trans kind).symm
    ((numbers _).trans (cell.sized.hiddenBias.trans (count₄.trans count).symm))
    ((count₄.trans count).trans_le counts') done₅).bind ?_
  rintro _ seven ⟨spares₇, gates₇⟩
  exact .of_done rfl ⟨spares₇.grown grows le_rfl, gates₇⟩

end Host

end TensorGraph

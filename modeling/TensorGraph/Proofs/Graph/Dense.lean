/-
A dense layer in steps.

A dense layer multiplies, adds its bias and applies its function, all in one row
of memory.  Done in three steps, each into a row of its own, the same operations
are carried out on the same elements.  Both ways fail in the product or not at
all.
-/

import TensorGraph.Proofs.Graph.Running
import TensorGraph.Proofs.Kernel.Frame
import TensorGraph.Proofs.Kernel.Rows
import TensorGraph.Proofs.Kernel.Twins

namespace TensorGraph

namespace DenseWeights

variable {m : Type → Type} [Kernel m]

/-- The weights in memory. -/
def matrix (parameters : DenseWeights) (dtype : DType) (columns : Nat) : m Value :=
  Kernel.onHost (Parameter.ofFloats dtype parameters.weights [parameters.units, columns]).place

/-- The offsets in memory. -/
def offsets (parameters : DenseWeights) (dtype : DType) : m Value :=
  Kernel.onHost (Parameter.ofFloats dtype parameters.bias [parameters.bias.length]).place

/-- The layer on the values of one type, all in the row of its output. -/
def atOnce (parameters : DenseWeights) (dtype : DType) (columns : Nat) (input output : Value) :
    m Unit := do
  let matrix ← parameters.matrix dtype columns
  let offsets ← parameters.offsets dtype
  let weights ← matrixOf matrix
  let bias ← vectorOf offsets
  Kernel.dense weights bias parameters.function input output

/-- The sum and the result behind a product, each in a row of its own. -/
def behind (parameters : DenseWeights) (dtype : DType) (product : Value) : m (Value × Value) := do
  let sum ← Kernel.allocate dtype (Layout.packed [parameters.units])
  let offsets ← Kernel.onHost (Parameter.ofFloats dtype parameters.bias [parameters.units]).place
  Kernel.perChannel .add offsets product sum
  let result ← Kernel.allocate dtype (Layout.packed [parameters.units])
  Kernel.activate parameters.function sum result
  return (sum, result)

/-- The product alone, with the offsets at hand. -/
def product (parameters : DenseWeights) (dtype : DType) (columns : Nat) (input output : Value) :
    m Vector := do
  let matrix ← parameters.matrix dtype columns
  let offsets ← parameters.offsets dtype
  let weights ← matrixOf matrix
  let bias ← vectorOf offsets
  Kernel.multiply weights input output
  return bias

/-- What is left behind the product, in the row of the product. -/
def within (parameters : DenseWeights) (bias : Vector) (output : Value) : m Unit := do
  Kernel.elementwise output bias.value .add
  Kernel.forEach (Layout.packed [parameters.units]) fun coordinates => do
    let sum ← Kernel.element output coordinates
    sum.assign (← parameters.function.apply sum)

/-- The product, the sum and the result, each in a row of its own. -/
def inSteps (parameters : DenseWeights) (dtype : DType) (columns : Nat) (input product : Value) :
    m (Value × Value) := do
  let matrix ← parameters.matrix dtype columns
  let weights ← matrixOf matrix
  Kernel.multiply weights input product
  parameters.behind dtype product

end DenseWeights

namespace Host

variable {ρ : Type} {state after : HostState ρ}

/-- The value that is one packed row, a whole storage. -/
def rowAt (dtype : DType) (size name : Nat) : Value :=
  { dtype? := some dtype
    layout? := some (Layout.packed [size])
    place := .host name 0 }

theorem memorySize_row (size : Nat) : (Layout.packed [size]).memorySize = size := by
  have axes : (Layout.packed [size]).axes =
      [{ size := size, extent := size, offset := 0, increment := 1, logical := 0 }] := rfl
  unfold Layout.memorySize
  rw [axes]
  cases size <;> simp

theorem span_row (size : Nat) : (Layout.packed [size]).span = size := by
  have axes : (Layout.packed [size]).axes =
      [{ size := size, extent := size, offset := 0, increment := 1, logical := 0 }] := rfl
  unfold Layout.span
  rw [axes]
  cases size <;> simp

theorem allocate_row (dtype : DType) (size : Nat) (state : HostState ρ) :
    (Kernel.allocate dtype (Layout.packed [size]) : Host ρ Value) state =
      .ok (rowAt dtype size state.heap.next)
        (onto state (state.heap.add (Storage.zeros dtype size))) := by
  have done : (Host.allocate dtype (Layout.packed [size]) : Host ρ Value) state =
      .ok (rowAt dtype size state.heap.next) (onto state (state.heap.add
        (Storage.zeros dtype (Layout.packed [size]).memorySize))) := rfl
  rw [memorySize_row] at done
  exact done

theorem parameter_row (dtype : DType) (values : List Float) (state : HostState ρ) :
    (Kernel.onHost (Parameter.ofFloats dtype values [values.length]).place : Host ρ Value) state =
      .ok (rowAt dtype values.length state.heap.next)
        (onto state (state.heap.add (Storage.ofFloats dtype values.toArray))) := by
  have fits : Value.checkFits (Layout.packed [values.length]) 0
      (Storage.ofFloats dtype values.toArray).size = .ok () := by
    unfold Value.checkFits
    rw [span_row, if_neg]
    simp [Storage.size_ofFloats]
  refine onHeap_ok.mpr ⟨_, ?_, rfl⟩
  unfold Parameter.place Value.ofStorage Parameter.ofFloats
  rw [fits]
  rfl

theorem vector_row (dtype : DType) (size name : Nat) :
    ∃ vector : Vector, Vector.ofValue (rowAt dtype size name) = .ok vector ∧
      vector.value = rowAt dtype size name := by
  have ready : (rowAt dtype size name).ready = .ok (Layout.packed [size]) := rfl
  unfold Vector.ofValue
  rw [ready]
  dsimp only
  split
  · rename_i axis single
    split
    · split
      · exact ⟨_, rfl, rfl⟩
      · rename_i missing
        exact (missing (congrArg some single)).elim
    · rename_i untyped
      cases untyped
  · rename_i others
    exact (others _ rfl).elim

theorem matrixOf_ok {value : Value} {matrix : Matrix} :
    (matrixOf value : Host ρ Matrix) state = .ok matrix after ↔
      Matrix.ofValue value = .ok matrix ∧ state = after :=
  ofExcept_ok

theorem vectorOf_ok {value : Value} {vector : Vector} :
    (vectorOf value : Host ρ Vector) state = .ok vector after ↔
      Vector.ofValue value = .ok vector ∧ state = after :=
  ofExcept_ok

theorem matrix_of_value {value : Value} {matrix : Matrix} (done : Matrix.ofValue value = .ok matrix) :
    matrix.value = value := by
  obtain ⟨dtype?, layout?, place⟩ := value
  unfold Matrix.ofValue at done
  split at done
  · cases done
  split at done
  · dsimp only at done
    split at done
    · split at done
      · cases done
        rfl
      · cases done
    · cases done
  · cases done

/-- Weights in memory are one more storage. -/
theorem matrix_ok {parameters : DenseWeights} {dtype : DType} {columns : Nat} {value : Value}
    (done : (parameters.matrix dtype columns : Host ρ Value) state = .ok value after) :
    value.layout? = some (Layout.packed [parameters.units, columns]) ∧
      state.heap.Grows after.heap := by
  obtain ⟨heap, stored, rfl⟩ := onHeap_ok.mp done
  obtain ⟨_, _, checked, stored⟩ := Action.bind_ok.mp stored
  obtain ⟨-, rfl⟩ := Action.ofExcept_ok.mp checked
  obtain ⟨name, _, added, stored⟩ := Action.bind_ok.mp stored
  cases added
  obtain ⟨rfl, rfl⟩ := Action.pure_ok.mp stored
  exact ⟨rfl, .add _ _⟩

/-- A matrix has the rows of its layout. -/
theorem rows_of_value {rows columns : Nat} {value : Value} {matrix : Matrix}
    (placed : value.layout? = some (Layout.packed [rows, columns]))
    (view : Matrix.ofValue value = .ok matrix) : matrix.rows = rows := by
  have held := matrix.placed
  rw [matrix_of_value view, placed] at held
  have same : Layout.packed [rows, columns] = matrix.layout := Option.some.inj held
  unfold Matrix.rows Matrix.side
  rw [← same]
  rfl

theorem row_new (heap : Heap) (storage : Storage) {dtype : DType} {size : Nat}
    (typed : storage.dtype = dtype) (sized : storage.size = size) :
    Row (heap.add storage) (rowAt dtype size heap.next) heap.next dtype size := by
  refine ⟨rfl, ?_, ?_, ?_⟩
  · simp [Heap.next, Heap.add]
  · rw [Heap.storage_add_self, typed]
  · rw [Heap.storage_add_self, sized]

/-- A product writes to no storage but that of its output. -/
theorem multiply_leaves {matrix : Matrix} {input : Value} {dtype : DType} {size name : Nat}
    (done : (Kernel.multiply matrix input (rowAt dtype size name) : Host ρ Unit) state =
      .ok () after) :
    state.heap.next ≤ after.heap.next ∧ ∀ other < state.heap.next, other ≠ name →
      after.heap.storage other = state.heap.storage other := by
  let frame : Frame :=
    { heap := state.heap
      free := fun other => other = name }
  have free : frame.Free (rowAt dtype size name) := by
    rintro _ _ ⟨⟩
    exact .inr rfl
  have holds : (framed ρ frame).Relates () (Kernel.multiply matrix input (rowAt dtype size name))
      (Kernel.multiply matrix input (rowAt dtype size name)) fun _ _ _ => True :=
    (framed ρ frame).multiplied rfl rfl rfl free
  obtain ⟨kept, -⟩ := holds.done state after () ⟨le_rfl, fun _ _ _ => rfl⟩ done
  exact ⟨kept.next, kept.same⟩

/-- The elements of a storage by position. -/
def cellsOf (heap : Heap) (name index : Nat) : Literal :=
  ((heap.storage name).cells[index]?).getD (.bool false)

theorem Row.cells {heap : Heap} {value : Value} {name : Nat} {dtype : DType} {size : Nat}
    (row : Row heap value name dtype size) : Cells heap name size (cellsOf heap name) := by
  intro index below
  have within : index < (heap.storage name).cells.size := by
    rw [← row.size] at below
    exact below
  rw [cellsOf, Array.getElem?_eq_getElem within, Option.getD_some]

/-- The sums and the results that a layer makes of products and offsets. -/
structure Layer (function : ActivationFunction) (dtype : DType) (size : Nat)
    (product offset sum result : Nat → Literal) : Prop where
  added : ∀ index < size, (product index).binary .add (offset index) = .ok (sum index)
  maps : ∀ index < size, Maps (ρ := ρ) function.apply (sum index) (result index)
  sums : ∀ index < size, (sum index).dtype = dtype
  results : ∀ index < size, (result index).dtype = dtype

theorem layer_exists (function : ActivationFunction) {dtype : DType} (float : dtype.isFloat = true)
    {size : Nat} {product offset : Nat → Literal}
    (typed : ∀ index < size, (product index).dtype = dtype)
    (typed' : ∀ index < size, (offset index).dtype = dtype) :
    ∃ sum result, Layer (ρ := ρ) function dtype size product offset sum result := by
  have each : ∀ index, ∃ sum result, index < size →
      (product index).binary .add (offset index) = .ok sum ∧ sum.dtype = dtype ∧
        Maps (ρ := ρ) function.apply sum result ∧ result.dtype = dtype := by
    intro index
    by_cases below : index < size
    · have here := typed index below
      obtain ⟨sum, added, same⟩ := Literal.float_binary .add (here.symm ▸ float)
        ((typed' index below).trans here.symm)
      obtain ⟨result, same', maps⟩ := maps_apply (ρ := ρ) function
        ((same.trans here).symm ▸ float : sum.dtype.isFloat = true)
      exact ⟨sum, result, fun _ => ⟨added, same.trans here, maps, same'.trans (same.trans here)⟩⟩
    · exact ⟨.bool false, .bool false, fun absurd => (below absurd).elim⟩
  choose sum result holds using each
  exact ⟨sum, result, fun index below => (holds index below).1,
    fun index below => (holds index below).2.2.1, fun index below => (holds index below).2.1,
    fun index below => (holds index below).2.2.2⟩

theorem finish_at_once {parameters : DenseWeights} {bias : Vector} {dtype : DType}
    {name spot : Nat} {product offset sum result : Nat → Literal}
    (row : Row state.heap (rowAt dtype parameters.units name) name dtype parameters.units)
    (row' : Row state.heap bias.value spot dtype parameters.units) (different : spot ≠ name)
    (cells : Cells state.heap name parameters.units product)
    (cells' : Cells state.heap spot parameters.units offset)
    (counts : parameters.units ≤ Nat.pow 2 63)
    (layer : Layer (ρ := ρ) parameters.function dtype parameters.units product offset sum result) :
    ∃ after : HostState ρ,
      (parameters.within bias (rowAt dtype parameters.units name) : Host ρ Unit) state =
        .ok () after ∧
      Row after.heap (rowAt dtype parameters.units name) name dtype parameters.units ∧
      Cells after.heap name parameters.units result ∧ state.heap.next ≤ after.heap.next ∧
      ∀ other < state.heap.next, other ≠ name →
        after.heap.storage other = state.heap.storage other := by
  obtain ⟨middle, done, filled⟩ := elementwise_rows row row' different cells cells' counts
    layer.added layer.sums
  have here := filled.row row
  obtain ⟨after, done', filled'⟩ := apply_rows here (filled.cells row.size) counts layer.maps
    layer.results
  refine ⟨after, bind_ok.mpr ⟨(), middle, done, done'⟩, filled'.row here,
    filled'.cells here.size, filled.next.trans filled'.next, ?_⟩
  intro other known apart
  rw [filled'.others other (known.trans_le filled.next) apart, filled.others other known apart]

/-- Two rows of the same elements are two storages of the same data. -/
theorem Row.same_storage {heap heap' : Heap} {value value' : Value} {name name' : Nat}
    {dtype : DType} {size : Nat} {element : Nat → Literal}
    (row : Row heap value name dtype size) (row' : Row heap' value' name' dtype size)
    (cells : Cells heap name size element) (cells' : Cells heap' name' size element) :
    heap'.storage name' = heap.storage name := by
  refine Storage.ext_cells (row'.dtype.trans row.dtype.symm) (Array.ext_getElem? fun index => ?_)
  by_cases below : index < size
  · rw [cells index below, cells' index below]
  · have outside : (heap.storage name).cells.size ≤ index := by
      have := row.size
      unfold Storage.size at this
      omega
    have outside' : (heap'.storage name').cells.size ≤ index := by
      have := row'.size
      unfold Storage.size at this
      omega
    rw [Array.getElem?_eq_none outside, Array.getElem?_eq_none outside']

theorem Row.grows {heap later : Heap} {value : Value} {name : Nat} {dtype : DType} {size : Nat}
    (row : Row heap value name dtype size) (growing : heap.Grows later) :
    Row later value name dtype size := by
  have same := growing.kept name row.known
  exact ⟨row.value, row.known.trans_le growing.next, same ▸ row.dtype, same ▸ row.size⟩

theorem Cells.grows {heap later : Heap} {name size : Nat} {element : Nat → Literal}
    (cells : Cells heap name size element) (known : name < heap.next)
    (growing : heap.Grows later) : Cells later name size element := by
  intro index below
  rw [growing.kept name known]
  exact cells index below

/-- A storage that was not there before has been filled. -/
theorem Filled.grows_from {before heap start : Heap} {name count : Nat} {target : Nat → Literal}
    (filled : Filled before heap name target count) (fresh : start.next ≤ name)
    (growing : start.Grows before) : start.Grows heap := by
  refine ⟨growing.next.trans filled.next, fun other known => ?_⟩
  rw [filled.others other (known.trans_le growing.next) (by omega), growing.kept other known]

/-- The same in rows of their own. -/
theorem finish_in_steps {parameters : DenseWeights} {dtype : DType} {name : Nat}
    {product offset sum result : Nat → Literal}
    (row : Row state.heap (rowAt dtype parameters.units name) name dtype parameters.units)
    (cells : Cells state.heap name parameters.units product)
    (sized : parameters.bias.length = parameters.units)
    (fixed : ∀ index < parameters.units,
      (Storage.ofFloats dtype parameters.bias.toArray).cells[index]? = some (offset index))
    (counts : parameters.units ≤ Nat.pow 2 63)
    (layer : Layer (ρ := ρ) parameters.function dtype parameters.units product offset sum result) :
    ∃ (after : HostState ρ) (first last : Nat),
      (parameters.behind dtype (rowAt dtype parameters.units name) : Host ρ _) state =
        .ok (rowAt dtype parameters.units first, rowAt dtype parameters.units last) after ∧
      Row after.heap (rowAt dtype parameters.units last) last dtype parameters.units ∧
      Cells after.heap last parameters.units result ∧ state.heap.next ≤ last ∧
      state.heap.Grows after.heap := by
  generalize units : parameters.units = size at *
  let start := state.heap
  have zero : (Storage.zeros dtype size).dtype = dtype ∧ (Storage.zeros dtype size).size = size :=
    ⟨rfl, Array.size_replicate⟩
  let one := onto state (start.add (Storage.zeros dtype size))
  let two := onto one (one.heap.add (Storage.ofFloats dtype parameters.bias.toArray))
  have grows₁ : start.Grows one.heap := .add _ _
  have grows₂ : one.heap.Grows two.heap := .add _ _
  have sums : Row one.heap (rowAt dtype size start.next) start.next dtype size :=
    row_new start _ zero.1 zero.2
  have offsets : Row two.heap (rowAt dtype size one.heap.next) one.heap.next dtype size :=
    row_new one.heap _ rfl (by simp [Storage.ofFloats, Storage.size, sized])
  have offsets' : Cells two.heap one.heap.next size offset := by
    have here : two.heap.storage one.heap.next = Storage.ofFloats dtype parameters.bias.toArray :=
      Heap.storage_add_self one.heap _
    intro index below
    rw [here]
    exact fixed index below
  have apart : name ≠ start.next := row.known.ne
  have apart' : one.heap.next ≠ start.next := by
    have counted := Heap.next_add start (Storage.zeros dtype size)
    change (start.add (Storage.zeros dtype size)).next ≠ start.next
    omega
  obtain ⟨three, added, filled⟩ := perChannel_rows (sums.grows grows₂)
    (row.grows (grows₁.trans grows₂)) offsets apart apart'
    (cells.grows row.known (grows₁.trans grows₂)) offsets' counts layer.added layer.sums
  let four := onto three (three.heap.add (Storage.zeros dtype size))
  have grows₄ : three.heap.Grows four.heap := .add _ _
  have known := filled.row (sums.grows grows₂)
  have results : Row four.heap (rowAt dtype size three.heap.next) three.heap.next dtype size :=
    row_new three.heap _ zero.1 zero.2
  obtain ⟨after, mapped, filled'⟩ := activate_rows results (known.grows grows₄) known.known.ne
    ((filled.cells (sums.grows grows₂).size).grows known.known grows₄) counts layer.maps
    layer.results
  have grown : start.Grows three.heap := filled.grows_from le_rfl (grows₁.trans grows₂)
  refine ⟨after, start.next, three.heap.next, ?_, filled'.row results,
    filled'.cells results.size, grown.next, filled'.grows_from grown.next (grown.trans grows₄)⟩
  unfold DenseWeights.behind
  rw [units]
  refine bind_ok.mpr ⟨_, one, allocate_row dtype size state, ?_⟩
  refine bind_ok.mpr ⟨_, two, sized ▸ parameter_row dtype parameters.bias one, ?_⟩
  refine bind_ok.mpr ⟨(), three, added, ?_⟩
  refine bind_ok.mpr ⟨_, four, allocate_row dtype size three, ?_⟩
  exact bind_ok.mpr ⟨(), after, mapped, rfl⟩

theorem product_ok {parameters : DenseWeights} {dtype : DType} {columns name : Nat} {input : Value}
    {bias : Vector} (known : name < state.heap.next)
    (sized : parameters.bias.length = parameters.units)
    (done : (parameters.product dtype columns input (rowAt dtype parameters.units name) :
      Host ρ Vector) state = .ok bias after) :
    parameters.units ≤ Nat.pow 2 63 ∧ ∃ spot, spot ≠ name ∧ spot < after.heap.next ∧
      bias.value = rowAt dtype parameters.units spot ∧
      after.heap.storage spot = Storage.ofFloats dtype parameters.bias.toArray := by
  obtain ⟨matrix, one, made, done⟩ := bind_ok.mp done
  obtain ⟨offsets, two, placed, done⟩ := bind_ok.mp done
  obtain ⟨weights, three, seen, done⟩ := bind_ok.mp done
  obtain ⟨bias', four, taken, done⟩ := bind_ok.mp done
  obtain ⟨_, five, multiplied, done⟩ := bind_ok.mp done
  obtain ⟨rfl, rfl⟩ := pure_ok.mp done
  have placed' := parameter_row dtype parameters.bias one
  unfold DenseWeights.offsets at placed
  rw [placed'] at placed
  cases placed
  obtain ⟨view, rfl⟩ := matrixOf_ok.mp seen
  obtain ⟨row, rfl⟩ := vectorOf_ok.mp taken
  obtain ⟨layout, growing⟩ := matrix_ok made
  obtain ⟨vector, known', same⟩ := vector_row dtype parameters.bias.length one.heap.next
  rw [row] at known'
  cases known'
  obtain ⟨x, six, -, rest⟩ := bind_ok.mp multiplied
  obtain ⟨y, seven, -, rest⟩ := bind_ok.mp rest
  have counts := rows_of_multiply rest
  rw [rows_of_value layout view] at counts
  obtain ⟨next, kept⟩ := multiply_leaves multiplied
  have below := Heap.next_add one.heap (Storage.ofFloats dtype parameters.bias.toArray)
  have spot : one.heap.next < (one.heap.add (Storage.ofFloats dtype parameters.bias.toArray)).next := by
    omega
  have apart : one.heap.next ≠ name := by
    have := growing.next
    omega
  refine ⟨counts, one.heap.next, apart, spot.trans_le next, sized ▸ same, ?_⟩
  rw [kept _ spot apart]
  exact Heap.storage_add_self _ _

/-- A layer all in one row is its product and what is left behind it. -/
theorem atOnce_eq {parameters : DenseWeights} {input : Value} {dtype : DType} {columns name : Nat} :
    (parameters.atOnce dtype columns input (rowAt dtype parameters.units name) : Host ρ Unit) =
      parameters.product dtype columns input (rowAt dtype parameters.units name) >>= fun bias =>
        parameters.within bias (rowAt dtype parameters.units name) := by
  obtain ⟨vector, taken, same⟩ := vector_row dtype parameters.units name
  have view : (Kernel.ofExcept (Vector.ofValue (rowAt dtype parameters.units name)) :
      Host ρ Vector) = pure vector := by
    rw [taken]
    rfl
  have placed : (Kernel.ofExcept (rowAt dtype parameters.units name).layout : Host ρ Layout) =
      pure (Layout.packed [parameters.units]) := rfl
  unfold DenseWeights.atOnce DenseWeights.product DenseWeights.within Kernel.dense Kernel.multiply
    Vector.combine
  rw [view, placed]
  simp only [pure_bind, bind_assoc, same]

/-- The layer in steps is its product and what is left behind it. -/
theorem inSteps_eq {parameters : DenseWeights} {input product : Value} {dtype : DType}
    {columns : Nat} :
    (parameters.inSteps dtype columns input product : Host ρ (Value × Value)) = ((do
      let matrix ← parameters.matrix dtype columns
      let weights ← matrixOf matrix
      Kernel.multiply weights input product) >>= fun _ => parameters.behind dtype product) := by
  unfold DenseWeights.inSteps
  simp only [bind_assoc]

end Host

namespace Twins

variable {renamed : NodeId → NodeId → Prop}

/-- A row is made anew on each side of a run; all else is as in the middle of it. -/
theorem Agrees.settled {world later : Twins renamed} {heap heap' middle middle' last last' : Heap}
    (agrees : world.Agrees heap heap') (growing : world.Later later)
    (between : later.Agrees middle middle') {name name' : Nat} {dtype : DType} {size : Nat}
    (fresh : heap.next ≤ name ∧ heap'.next ≤ name')
    (within : name < last.next ∧ name' < last'.next)
    (next : middle.next ≤ last.next ∧ middle'.next ≤ last'.next)
    (kept : ∀ other < heap.next, last.storage other = middle.storage other)
    (kept' : ∀ other < heap'.next, last'.storage other = middle'.storage other)
    (same : last'.storage name' = last.storage name)
    (shape : (last.storage name).dtype = dtype ∧ (last.storage name).size = size) :
    (world.pair name name' dtype size).Agrees last last' := by
  have old : ∀ other other' dtype size, world.paired other other' dtype size →
      other ≠ name ∧ other' ≠ name' := by
    intro other other' dtype size paired
    obtain ⟨below, below'⟩ := agrees.within _ _ _ _ paired
    omega
  refine ⟨?_, ?_, ?_, ?_⟩
  · rintro other other' dtype size (⟨rfl, rfl, rfl, rfl⟩ | paired)
    · exact within
    · obtain ⟨below, below'⟩ := between.within _ _ _ _ (growing _ _ _ _ paired)
      exact ⟨below.trans_le next.1, below'.trans_le next.2⟩
  · rintro other other' dtype size (⟨rfl, rfl, rfl, rfl⟩ | paired)
    · exact ⟨same, shape⟩
    · obtain ⟨below, below'⟩ := agrees.within _ _ _ _ paired
      rw [kept other below, kept' other' below']
      exact between.same _ _ _ _ (growing _ _ _ _ paired)
  · rintro other first second dtype dtype' size size' (⟨rfl, rfl, -, -⟩ | one)
      (⟨here, rfl, -, -⟩ | two)
    · rfl
    · exact ((old _ _ _ _ two).1 rfl).elim
    · exact ((old _ _ _ _ one).1 here).elim
    · exact agrees.left _ _ _ _ _ _ _ one two
  · rintro first second other dtype dtype' size size' (⟨rfl, rfl, -, -⟩ | one)
      (⟨rfl, here, -, -⟩ | two)
    · rfl
    · exact ((old _ _ _ _ two).2 rfl).elim
    · exact ((old _ _ _ _ one).2 here).elim
    · exact agrees.right _ _ _ _ _ _ _ one two

/-- A step of the first run alone, which adds one storage. -/
theorem Relates.aside {ρ σ α β γ : Type} {world : Twins renamed} {first : Host ρ α} {rest : α → Host ρ β}
    {right : Host σ γ} {post : Twins renamed → β → γ → Prop}
    {made : α → Prop}
    (adds : ∀ state, ∃ answer storage, made answer ∧
      first state = .ok answer (Host.onto state (state.heap.add storage)))
    (alike : ∀ answer, made answer → world.Relates (rest answer) right post) :
    world.Relates (first >>= rest) right post := by
  intro state state' agrees
  obtain ⟨answer, storage, known, done⟩ := adds state
  have same : (first >>= rest) state =
      rest answer (Host.onto state (state.heap.add storage)) := by
    change EStateM.bind first rest state = _
    unfold EStateM.bind
    rw [done]
  rw [same]
  exact alike answer known _ state' (agrees.add_left storage)

/-- The two products of a layer. -/
theorem product_alike {ρ : Type} {world : Twins renamed} (parameters : DenseWeights) (dtype : DType)
    (columns : Nat) {input input' output output' : Value} (alike : world.Alike input input')
    (alike' : world.Alike output output') :
    world.Relates (parameters.product dtype columns input output : Host ρ Vector)
      (do
        let matrix ← parameters.matrix dtype columns
        let weights ← matrixOf matrix
        Kernel.multiply weights input' output' : Host ρ Unit) fun _ _ _ => True := by
  refine Relates.bind (ofStorage _ _) ?_
  intro one matrix matrix' growing₁ alike₁
  have stored (state : HostState ρ) : ∃ answer storage,
      (∃ name, answer = Host.rowAt dtype parameters.bias.length name) ∧
        (parameters.offsets dtype : Host ρ Value) state =
          .ok answer (Host.onto state (state.heap.add storage)) :=
    ⟨_, _, ⟨state.heap.next, rfl⟩, Host.parameter_row dtype parameters.bias state⟩
  refine Relates.aside stored ?_
  rintro _ ⟨name, rfl⟩
  obtain ⟨bias, taken, -⟩ := Host.vector_row dtype parameters.bias.length name
  have view : (vectorOf (Host.rowAt dtype parameters.bias.length name) : Host ρ Vector) =
      Pure.pure bias := by
    unfold vectorOf
    rw [taken]
    rfl
  refine Relates.bind ((twins _ ρ ρ).matrixOf alike₁) ?_
  intro two weights weights' growing₂ alike₂
  have grown := growing₁.trans growing₂
  rw [view, ← bind_pure (Kernel.multiply weights' input' output' : Host ρ Unit)]
  simp only [pure_bind]
  refine Relates.bind ((twins _ ρ ρ).multiplied alike₂ (alike.mono grown)
    (alike'.mono grown) trivial) ?_
  exact fun _ _ _ _ _ => Relates.pure trivial

open Host in
/-- What is left behind two products goes well, and makes the same elements. -/
private theorem behind_product {ρ : Type} {world later : Twins renamed} {parameters : DenseWeights}
    {dtype : DType} {columns : Nat} {input : Value} {bias : Vector}
    (float : dtype.isFloat = true) (sized : parameters.bias.length = parameters.units)
    {heap heap' : Heap} {start middle middle' : HostState ρ}
    (agrees : world.Agrees heap heap')
    (entered : start.heap = heap.add (Storage.zeros dtype parameters.units))
    (done : (parameters.product dtype columns input (rowAt dtype parameters.units heap.next) :
      Host ρ Vector) start = .ok bias middle)
    (growing : (world.pair heap.next heap'.next dtype parameters.units).Later later)
    (between : later.Agrees middle.heap middle'.heap) :
    ∃ after after' : HostState ρ, ∃ first last : Nat, ∃ newest : Twins renamed,
      (parameters.within bias (rowAt dtype parameters.units heap.next) : Host ρ Unit) middle =
        .ok () after ∧
      (parameters.behind dtype (rowAt dtype parameters.units heap'.next) : Host ρ _) middle' =
        .ok (rowAt dtype parameters.units first, rowAt dtype parameters.units last) after' ∧
      world.Later newest ∧ newest.Agrees after.heap after'.heap ∧
      newest.Alike (rowAt dtype parameters.units heap.next)
        (rowAt dtype parameters.units last) := by
  have paired := growing _ _ _ _ (paired_self _ _ _ _)
  obtain ⟨same, typed, size⟩ := between.same _ _ _ _ paired
  obtain ⟨below, below'⟩ := between.within _ _ _ _ paired
  have row : Row middle.heap (rowAt dtype parameters.units heap.next) heap.next dtype
      parameters.units := ⟨rfl, below, typed, size⟩
  have row' : Row middle'.heap (rowAt dtype parameters.units heap'.next) heap'.next dtype
      parameters.units := ⟨rfl, below', same ▸ typed, same ▸ size⟩
  have known : heap.next < start.heap.next := by
    rw [entered, Heap.next_add]
    exact Nat.lt_succ_self _
  obtain ⟨counts, spot, apart, within, view, held⟩ := product_ok known sized done
  have offsets : Row middle.heap bias.value spot dtype parameters.units := by
    refine ⟨view, within, ?_, ?_⟩
    · rw [held]
      rfl
    · rw [held]
      simp [Storage.ofFloats, Storage.size, sized]
  obtain ⟨sum, result, layer⟩ := layer_exists (ρ := ρ) parameters.function float
    (fun index => row.typed row.cells) (fun index => offsets.typed offsets.cells)
  obtain ⟨after, ended, filled, cells, next, kept⟩ :=
    finish_at_once row offsets apart row.cells offsets.cells counts layer
  have products : Cells middle'.heap heap'.next parameters.units
      (cellsOf middle.heap heap.next) := by
    intro index within
    rw [same]
    exact row.cells index within
  have fixed := offsets.cells
  unfold Cells at fixed
  rw [held] at fixed
  obtain ⟨after', first, last, ended', filled', cells', fresh, grows⟩ :=
    finish_in_steps row' products sized fixed counts layer
  have newer : world.Later later := (later_pair _ _ _ _).trans growing
  refine ⟨after, after', first, last, world.pair heap.next last dtype parameters.units, ended,
    ended', later_pair _ _ _ _, ?_, rfl, rfl, .host 0 (paired_self _ _ _ _)⟩
  refine agrees.settled newer between ⟨le_rfl, ?_⟩ ⟨filled.known, filled'.known⟩
    ⟨next, grows.next⟩ ?_ ?_ (filled.same_storage filled' cells cells') ⟨filled.dtype, filled.size⟩
  · exact below'.le.trans fresh
  · exact fun other known => kept other (known.trans below) known.ne
  · exact fun other known => grows.kept other (known.trans below')

open Host in
/-- A dense layer on fresh memory, at once and in steps. -/
theorem dense_in_steps {ρ : Type} {world : Twins renamed} {parameters : DenseWeights} {dtype : DType}
    (columns : Nat) {input input' : Value} (float : dtype.isFloat = true)
    (sized : parameters.bias.length = parameters.units) (alike : world.Alike input input') :
    world.Relates
      (do
        let output ← Kernel.allocate dtype (Layout.packed [parameters.units])
        parameters.atOnce dtype columns input output
        return output : Host ρ Value)
      (do
        let product ← Kernel.allocate dtype (Layout.packed [parameters.units])
        let others ← parameters.inSteps dtype columns input' product
        return (product, others) : Host ρ (Value × Value × Value))
      fun later answer answer' => later.Alike answer answer'.2.2 := by
  intro state state' agrees
  let zeros := Storage.zeros dtype parameters.units
  let start := onto state (state.heap.add zeros)
  let start' := onto state' (state'.heap.add zeros)
  have size : zeros.size = parameters.units := Array.size_replicate
  have agrees₁ : (world.pair state.heap.next state'.heap.next dtype parameters.units).Agrees
      start.heap start'.heap := by
    have added := agrees.add zeros
    rw [size] at added
    exact added
  have outputs : (world.pair state.heap.next state'.heap.next dtype parameters.units).Alike
      (rowAt dtype parameters.units state.heap.next)
      (rowAt dtype parameters.units state'.heap.next) :=
    ⟨rfl, rfl, .host 0 (paired_self _ _ _ _)⟩
  have products := product_alike (ρ := ρ) parameters dtype columns
    (alike.mono (later_pair _ _ _ _)) outputs start start' agrees₁
  refine ⟨?_, ?_⟩
  · intro answer after done
    obtain ⟨output, _, made, rest⟩ := bind_ok.mp done
    rw [allocate_row] at made
    cases made
    rw [atOnce_eq] at rest
    obtain ⟨_, finished, worked, answered⟩ := bind_ok.mp rest
    obtain ⟨rfl, rfl⟩ := pure_ok.mp answered
    obtain ⟨bias, middle, multiplied, ended⟩ := bind_ok.mp worked
    obtain ⟨later, _, middle', multiplied', growing, between, -⟩ :=
      products.1 bias middle multiplied
    obtain ⟨after, after', first, last, newest, ends, ends', grown, agrees', same⟩ :=
      behind_product float sized agrees rfl multiplied growing between
    rw [ends] at ended
    cases ended
    refine ⟨newest, (rowAt dtype parameters.units state'.heap.next,
      rowAt dtype parameters.units first, rowAt dtype parameters.units last), after',
      bind_ok.mpr ⟨_, start', allocate_row _ _ _, ?_⟩, grown, agrees', same⟩
    rw [inSteps_eq]
    exact bind_ok.mpr ⟨_, after', bind_ok.mpr ⟨_, middle', multiplied', ends'⟩, rfl⟩
  · intro fault after failed
    rcases bind_error.mp failed with refused | ⟨output, _, made, rest⟩
    · rw [allocate_row] at refused
      cases refused
    rw [allocate_row] at made
    cases made
    rw [atOnce_eq] at rest
    rcases bind_error.mp rest with stopped | ⟨_, _, _, stopped⟩
    · rcases bind_error.mp stopped with refused | ⟨bias, middle, multiplied, refused⟩
      · obtain ⟨later, fault', after', refused', growing, agrees', same⟩ :=
          products.2 fault after refused
        refine ⟨later, fault', after', bind_error.mpr (.inr ⟨_, start', allocate_row _ _ _, ?_⟩),
          (later_pair _ _ _ _).trans growing, agrees', same⟩
        rw [inSteps_eq]
        exact bind_error.mpr (.inl (bind_error.mpr (.inl refused')))
      · obtain ⟨later, _, middle', multiplied', growing, between, -⟩ :=
          products.1 bias middle multiplied
        obtain ⟨_, _, _, _, _, ends, -⟩ :=
          behind_product float sized agrees rfl multiplied growing between
        rw [ends] at refused
        cases refused
    · cases stopped

end Twins
end TensorGraph

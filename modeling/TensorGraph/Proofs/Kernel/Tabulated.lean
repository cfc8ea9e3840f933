/-
Storages that are computed.

A storage is computed element by element from others.  What a kernel leaves in a
whole storage is such a storage: a sum of two rows, or the products of the rows
of a matrix with another row.  No other storage is written.
-/

import TensorGraph.Proofs.Kernel.Products
import TensorGraph.Proofs.Kernel.Storages

namespace TensorGraph

namespace Storage

variable {dtype : DType} {size : Nat} {element : Nat → Except Error Literal}
  {left right storage : Storage}

theorem ext_get (typed : left.dtype = right.dtype) (sized : left.size = right.size)
    (same : ∀ index < left.size, left.get index = right.get index) : left = right := by
  refine ext_cells typed (Array.ext_getElem? fun index => ?_)
  by_cases below : index < left.size
  · obtain ⟨element, read⟩ := exists_get below
    rw [get_eq_ok.mp read, get_eq_ok.mp ((same index below).symm.trans read)]
  · rw [Array.getElem?_eq_none (Nat.not_lt.mp below),
      Array.getElem?_eq_none (sized.symm.trans_le (Nat.not_lt.mp below))]

/-- The storage of elements that are computed one after the other. -/
def tabulate (dtype : DType) (size : Nat) (element : Nat → Except Error Literal) :
    Except Error Storage := do
  let cells ← (List.range size).mapM element
  match ofLiterals? dtype cells.toArray with
  | some storage => return storage
  | none => throw (.invalidArgument ("not all elements are " ++ dtype.name))

theorem tabulate_ok (made : tabulate dtype size element = .ok storage) :
    storage.dtype = dtype ∧ storage.size = size ∧
      ∀ index < size, element index = storage.get index := by
  obtain ⟨cells, computed, made⟩ := bind_eq_ok.mp made
  have all := mapM_forall₂.mp computed
  unfold ofLiterals? at made
  split at made
  · rename_i found
    split at found
    · cases found
      cases made
      refine ⟨rfl, ?_, fun index below => ?_⟩
      · exact all.length_eq.symm.trans List.length_range
      · have within : index < cells.length := by
          rw [← all.length_eq, List.length_range]
          exact below
        have here := all.get (by rwa [List.length_range]) within
        rw [List.get_eq_getElem, List.get_eq_getElem, List.getElem_range] at here
        rw [here, eq_comm, get_eq_ok]
        exact (List.getElem?_toArray ..).trans (List.getElem?_eq_getElem within)
    · cases found
  · cases made

theorem exists_tabulate
    (each : ∀ index < size, ∃ result, element index = .ok result ∧ result.dtype = dtype) :
    ∃ storage, tabulate dtype size element = .ok storage := by
  have some : Nonempty Literal := ⟨.zero .bool⟩
  choose! result found typed using each
  have computed : (List.range size).mapM element = .ok ((List.range size).map result) :=
    mapM_eq_ok fun index member => found index (List.mem_range.mp member)
  have alike : ∀ cell ∈ ((List.range size).map result).toArray, cell.dtype = dtype := by
    intro cell member
    obtain ⟨index, below, rfl⟩ := List.mem_map.mp (List.mem_toArray.mp member)
    exact typed index (List.mem_range.mp below)
  unfold tabulate ofLiterals?
  rw [computed]
  simp only [bind, Except.bind, dif_pos alike]
  exact ⟨_, rfl⟩

/-- Two storages combined, element by element. -/
def combined (op : BinaryOp) (left right : Storage) : Except Error Storage :=
  tabulate left.dtype left.size fun index => do
    (← left.get index).binary op (← right.get index)

/-- The products of some rows, as long as another storage and one after the other, with that
storage. -/
def rowProducts (matrix : Storage) (rows : Nat) (source : Storage) : Except Error Storage :=
  tabulate matrix.dtype rows fun row => do
    let pairs ← (List.range source.size).mapM fun column => do
      return (← matrix.get (row * source.size + column), ← source.get column)
    Literal.sumOfProducts matrix.dtype pairs

theorem exists_combined (op : BinaryOp) (float : left.dtype.isFloat = true)
    (typed : right.dtype = left.dtype) (sized : right.size = left.size) :
    ∃ storage, left.combined op right = .ok storage := by
  refine exists_tabulate fun index below => ?_
  obtain ⟨first, read⟩ := exists_get below
  obtain ⟨second, read'⟩ := exists_get (below.trans_eq sized.symm)
  have kind := dtype_of_get read
  obtain ⟨result, done, typed'⟩ := Literal.float_binary op (kind ▸ float)
    ((dtype_of_get read').trans (typed.trans kind.symm))
  refine ⟨result, ?_, typed'.trans kind⟩
  rw [read, read']
  exact done

/-- Pairs that are read one after the other. -/
theorem factors_iff {first second : Nat → Except Error Literal}
    {pairs : List (Literal × Literal)} :
    ((List.range size).mapM fun index => do return (← first index, ← second index)) = .ok pairs ↔
      Literal.Factors first second size pairs := by
  have each (index : Nat) (pair : Literal × Literal) :
      (do return (← first index, ← second index) : Except Error (Literal × Literal)) = .ok pair ↔
        first index = .ok pair.1 ∧ second index = .ok pair.2 := by
    constructor
    · intro done
      obtain ⟨one, read, done⟩ := bind_eq_ok.mp done
      obtain ⟨two, read', ⟨⟩⟩ := bind_eq_ok.mp done
      exact ⟨read, read'⟩
    · rintro ⟨read, read'⟩
      exact bind_eq_ok.mpr ⟨_, read, bind_eq_ok.mpr ⟨_, read', rfl⟩⟩
  rw [mapM_forall₂, Literal.Factors]
  simp only [each]

theorem row_inside {row rows column columns : Nat} (below : row < rows)
    (below' : column < columns) :
    row * columns + column < rows * columns :=
  calc
    row * columns + column < row * columns + columns := Nat.add_lt_add_left below' _
    _ = (row + 1) * columns := (Nat.succ_mul ..).symm
    _ ≤ rows * columns := Nat.mul_le_mul_right _ below

theorem exists_rowProducts {matrix source : Storage} {rows : Nat} (numeric : matrix.dtype ≠ .bool)
    (typed : source.dtype = matrix.dtype) (sized : matrix.size = rows * source.size) :
    ∃ storage, matrix.rowProducts rows source = .ok storage := by
  refine exists_tabulate fun row below => ?_
  have inside (column : Nat) (within : column < source.size) : ∃ element, source.get column =
      .ok element := exists_get within
  obtain ⟨pairs, factors⟩ := Literal.Factors.exists_of_read
    (fun column within => exists_get (sized ▸ row_inside below within)) inside
  have kinds := factors.forall_mem fun column pair read read' =>
    And.intro (dtype_of_get read) ((dtype_of_get read').trans typed)
  obtain ⟨sum, done, kind⟩ := Literal.sumOfProducts_done numeric kinds
  exact ⟨sum, bind_eq_ok.mpr ⟨pairs, factors_iff.mpr factors, done⟩, kind⟩

/-- An element, and zero behind the last. -/
def item (storage : Storage) (index : Nat) : Literal :=
  (storage.cells[index]?).getD (.zero storage.dtype)

theorem get_item {index : Nat} (below : index < storage.size) :
    storage.get index = .ok (storage.item index) := by
  have within : index < storage.cells.size := below
  rw [get_eq_ok, item, Array.getElem?_eq_getElem within]
  rfl

theorem dtype_item (storage : Storage) {index : Nat} (below : index < storage.size) :
    (storage.item index).dtype = storage.dtype :=
  dtype_of_get (get_item below)

end Storage

theorem Layout.rowIndex_matrix (row column rows columns : Nat) :
    Layout.rowIndex [rows, columns] [row, column] = row * columns + column := by
  simp only [Layout.rowIndex, Layout.elementCount_single]
  exact congrArg (row * columns + ·) (Nat.mul_one column)

theorem Layout.rowIndex_single (index size : Nat) : Layout.rowIndex [size] [index] = index := by
  exact Nat.mul_one index

/-! ### Heaps of which some storages are written -/

/-- No storages but some are changed, and these keep their types and sizes. -/
structure Heap.OnlyIn (names : List Nat) (heap after : Heap) : Prop where
  keeps : heap.Keeps after
  others : ∀ other < heap.next, other ∉ names → after.storage other = heap.storage other

namespace Heap.OnlyIn

variable {names more : List Nat} {heap middle after : Heap} {name : Nat}

theorem of_grows (names : List Nat) (growing : heap.Grows after) : OnlyIn names heap after :=
  ⟨.of_grows growing, fun other known _ => growing.kept other known⟩

theorem of_spares (spares : heap.Spares name after) (member : name ∈ names) :
    OnlyIn names heap after := by
  refine ⟨spares.keeps, fun other known apart => spares.others other known ?_⟩
  rintro rfl
  exact apart member

theorem mono (only : OnlyIn names heap after) (among : names ⊆ more) : OnlyIn more heap after :=
  ⟨only.keeps, fun other known apart => only.others other known fun member => apart (among member)⟩

theorem trans (one : OnlyIn names heap middle) (two : OnlyIn names middle after) :
    OnlyIn names heap after where
  keeps := one.keeps.trans two.keeps
  others := fun other known apart =>
    (two.others other (known.trans_le one.keeps.next) apart).trans (one.others other known apart)

/-- Storages that are new do not count. -/
theorem of_grown (growing : heap.Grows middle) (only : OnlyIn (names ++ more) middle after)
    (new : ∀ name ∈ more, heap.next ≤ name) : OnlyIn names heap after where
  keeps := (Heap.Keeps.of_grows growing).trans only.keeps
  others := by
    intro other known apart
    rw [only.others other (known.trans_le growing.next), growing.kept other known]
    refine fun member => apart ((List.mem_append.mp member).resolve_right fun later => ?_)
    exact Nat.not_lt.mpr (new other later) known

end Heap.OnlyIn

/-! ### Whole storages as rows -/

namespace Value.Fills

variable {value : Value} {heap after : Heap} {name size count : Nat} {sizes : List Nat}
  {data new : Storage} {target : Nat → Literal}

theorem become (fills : value.Fills heap name sizes data) (keeps : heap.Keeps after)
    (typed : new.dtype = data.dtype) (sized : new.size = data.size)
    (each : ∀ index < data.size, (after.storage name).get index = new.get index) :
    value.Fills after name sizes new := by
  have kept := (keeps.size name fills.known).trans (congrArg Storage.size fills.held)
  refine fills.changed keeps.next (Storage.ext_get ?_ (kept.trans sized.symm) ?_) typed sized
  · rw [keeps.dtype name fills.known, fills.held, typed]
  · exact fun index below => each index (below.trans_eq kept)

theorem spared (fills : value.Fills heap name sizes data) {other : Nat}
    (spares : heap.Spares other after) (different : name ≠ other) :
    value.Fills after name sizes data :=
  fills.changed spares.keeps.next
    ((spares.others name fills.known different).trans fills.held) rfl rfl

theorem onlyIn (fills : value.Fills heap name sizes data) {names : List Nat}
    (only : heap.OnlyIn names after) (apart : name ∉ names) : value.Fills after name sizes data :=
  fills.changed only.keeps.next ((only.others name fills.known apart).trans fills.held) rfl rfl

theorem row (fills : value.Fills heap name [size] data) :
    Host.Row heap value name data.dtype size where
  value := fills.value
  known := fills.known
  dtype := congrArg Storage.dtype fills.held
  size := (congrArg Storage.size fills.held).trans
    (fills.sized.trans (Layout.elementCount_single size))

theorem cells (fills : value.Fills heap name [size] data) :
    Host.Cells heap name size data.item := by
  intro index below
  rw [fills.held, ← Storage.get_eq_ok]
  exact Storage.get_item (below.trans_eq (fills.sized.trans (Layout.elementCount_single size)).symm)

/-- Elements are those of the storage, in the order of their places. -/
theorem get_eq (fills : value.Fills heap name sizes data) {coordinates : List Nat}
    (inside : (Layout.packed sizes).Inside coordinates) :
    value.get coordinates heap = data.get (Layout.rowIndex sizes coordinates) := by
  have lies := (fills.stands.lies_iff fills.shaped).mpr ⟨inside, rfl, rfl⟩
  have counted := inside.length_eq
  rw [Layout.logicalSizes_packed] at counted
  rw [lies.get, Nat.zero_add, Layout.place_packed_eq counted, ← fills.held]
  rfl

end Value.Fills

namespace Host

variable {ρ : Type} {state : HostState ρ} {before heap after : Heap} {target source : Vector}
  {name name' name'' size : Nat} {data data' data'' result : Storage} {goal : Nat → Literal}

theorem Reads.spared {scalar : Scalar} {element : Literal} (reads : Reads heap scalar element)
    (spares : heap.Spares name after) (apart : ∀ index, scalar.value.place ≠ .host name index) :
    Reads after scalar element :=
  reads.beside apart spares.keeps.next spares.others

theorem RowOf.spared (row : RowOf target heap name data) {other : Nat}
    (spares : heap.Spares other after) (different : name ≠ other) : RowOf target after name data :=
  .of_fills (row.fills.spared spares different)

theorem RowOf.onlyIn (row : RowOf target heap name data) {names : List Nat}
    (only : heap.OnlyIn names after) (apart : name ∉ names) : RowOf target after name data :=
  .of_fills (row.fills.onlyIn only apart)

theorem Filled.spares (filled : Filled before heap name goal size) : before.Spares name heap where
  keeps := by
    refine ⟨filled.next, fun other known => ?_, fun other known => ?_⟩
    · by_cases same : other = name
      · exact same ▸ filled.dtype
      · rw [filled.others other known same]
    · by_cases same : other = name
      · exact same ▸ filled.size
      · rw [filled.others other known same]
  others := filled.others

/-- A row that was filled is the storage of what it was filled with. -/
theorem Filled.rowOf (filled : Filled before heap name goal data.size)
    (row : RowOf target before name data) (typed : result.dtype = data.dtype)
    (sized : result.size = data.size)
    (each : ∀ index < data.size, result.get index = .ok (goal index)) :
    RowOf target heap name result := by
  refine .of_fills (row.fills.become filled.spares.keeps typed sized fun index below => ?_)
  rw [each index below, Storage.get_eq_ok]
  exact filled.written index below (below.trans_eq (congrArg Storage.size row.fills.held).symm)

/-! ### Kernels on whole storages -/

/-- Two rows combined, in place. -/
theorem combine_rowOf {op : BinaryOp} (row : RowOf target state.heap name data)
    (row' : RowOf source state.heap name' data') (different : name' ≠ name)
    (typed : data'.dtype = data.dtype) (sized : data'.size = data.size)
    (counts : data.size ≤ Nat.pow 2 63) (made : data.combined op data' = .ok result) :
    Yields (Vector.combine op target source : Host ρ Unit) state fun _ after =>
      state.heap.Spares name after.heap ∧ RowOf target after.heap name result := by
  obtain ⟨kind, whole, each⟩ := Storage.tabulate_ok made
  have fills' := row'.fills
  rw [sized] at fills'
  have found (index : Nat) (below : index < data.size) :
      (data.item index).binary op (data'.item index) = .ok (result.item index) := by
    have here := each index below
    rw [Storage.get_item below, Storage.get_item (below.trans_eq sized.symm),
      Storage.get_item (below.trans_eq whole.symm)] at here
    exact here
  obtain ⟨after, done, filled⟩ := elementwise_rows row.fills.row (typed ▸ fills'.row) different
    row.fills.cells fills'.cells counts found fun index below =>
      (result.dtype_item (below.trans_eq whole.symm)).trans kind
  exact ⟨(), after, done, filled.spares, filled.rowOf row kind whole
    fun index below => Storage.get_item (below.trans_eq whole.symm)⟩

/-- A row of zeros. -/
theorem zero_rowOf {scalar : Scalar} (row : RowOf target state.heap name data)
    (reads : Reads state.heap scalar (.zero data.dtype))
    (apart : ∀ index, scalar.value.place ≠ .host name index) (counts : data.size ≤ Nat.pow 2 63) :
    Yields (target.fill scalar : Host ρ Unit) state fun _ after =>
      state.heap.Spares name after.heap ∧ RowOf target after.heap name data.cleared := by
  obtain ⟨after, done, filled⟩ :=
    fill_rows row.fills.row reads (Literal.dtype_zero _) apart counts
  refine ⟨(), after, done, filled.spares, filled.rowOf row rfl (Storage.size_zeros ..) ?_⟩
  intro index below
  rw [Storage.get_eq_ok]
  exact Array.getElem?_replicate.trans (if_pos below)

theorem dtype_of_matrix {matrix : Matrix} {sizes : List Nat}
    (fills : matrix.value.Fills heap name sizes data) : matrix.dtype = data.dtype := by
  have same := matrix.typed
  rw [fills.value] at same
  exact (Option.some.inj same).symm

/-- A matrix with a vector for each of its sides, all of them whole storages. -/
structure Spans (heap : Heap) (matrix : Matrix) (source target : Vector) (name name' name'' : Nat)
    (data data' data'' : Storage) : Prop where
  matrix : matrix.value.Fills heap name [data''.size, data'.size] data
  source : RowOf source heap name' data'
  target : RowOf target heap name'' data''
  typed : data'.dtype = data.dtype
  typed' : data''.dtype = data.dtype

namespace Spans

variable {matrix : Matrix}

theorem layout (spans : Spans heap matrix source target name name' name'' data data' data'') :
    matrix.layout = Layout.packed [data''.size, data'.size] :=
  Option.some.inj (matrix.placed.symm.trans spans.matrix.shaped)

theorem rows (spans : Spans heap matrix source target name name' name'' data data' data'') :
    matrix.rows = data''.size := by
  unfold Matrix.rows Matrix.side
  rw [spans.layout]
  rfl

theorem columns (spans : Spans heap matrix source target name name' name'' data data' data'') :
    matrix.columns = data'.size := by
  unfold Matrix.columns Matrix.side
  rw [spans.layout]
  rfl

theorem conforms (spans : Spans heap matrix source target name name' name'' data data' data'') :
    matrix.Conforms source target :=
  ⟨spans.source.size.trans spans.columns.symm, spans.target.size.trans spans.rows.symm,
    spans.source.dtype.trans (spans.typed.trans (dtype_of_matrix spans.matrix).symm),
    spans.target.dtype.trans (spans.typed'.trans (dtype_of_matrix spans.matrix).symm)⟩

/-- The factors of the product of a row are found in the storages. -/
theorem factors (spans : Spans heap matrix source target name name' name'' data data' data'')
    {row : Nat} {pairs : List (Literal × Literal)} (below : row < data''.size)
    (factors : RowFactors matrix source heap row pairs) :
    Literal.Factors (fun column => data.get (row * data'.size + column)) data'.get data'.size
      pairs := by
  unfold RowFactors at factors
  rw [spans.columns] at factors
  refine factors.congr (fun column within element read => ?_) fun column within element read => ?_
  · have inside : (Layout.packed [data''.size, data'.size]).Inside [row, column] :=
      spans.layout ▸ inside_matrix.mpr
        ⟨below.trans_eq spans.rows.symm, within.trans_eq spans.columns.symm⟩
    rw [← Layout.rowIndex_matrix row column data''.size, ← spans.matrix.get_eq inside]
    exact read
  · have inside := vector_inside spans.source.fills.shaped
      (within.trans_eq spans.source.size.symm)
    rw [spans.source.fills.get_eq inside, Layout.rowIndex_single] at read
    exact read

end Spans

/-- The products of the rows of a matrix with a vector. -/
theorem multiply_rowOf {matrix : Matrix}
    (spans : Spans state.heap matrix source target name name' name'' data data' data'')
    (numeric : data.dtype ≠ .bool) (counts : data''.size ≤ Nat.pow 2 63)
    (counts' : data'.size ≤ Nat.pow 2 63) (different : name'' ≠ name ∧ name'' ≠ name')
    (made : data.rowProducts data''.size data' = .ok result) :
    Yields (matrix.multiply source target : Host ρ Unit) state fun _ after =>
      state.heap.Spares name'' after.heap ∧ RowOf target after.heap name'' result := by
  obtain ⟨kind, sized, each⟩ := Storage.tabulate_ok made
  have place : matrix.value.place = .host name 0 := by
    rw [spans.matrix.value]
    rfl
  have stands := spans.target.fills.stands
  refine (multiply_yields spans.matrix.stands spans.source.fills.stands stands spans.conforms
    (dtype_of_matrix spans.matrix ▸ numeric) (spans.rows.trans_le counts)
    (spans.columns.trans_le counts') (.of_places spans.target.place place different.1)
    (.of_places spans.target.place spans.source.place different.2) ?_).mono
      fun _ after rewritten => ?_
  · intro row _ none
    have counted : [row, 0].length = [data''.size, data'.size].length := rfl
    rw [spans.layout, Layout.place_packed_eq counted, Layout.rowIndex_matrix, ← spans.columns,
      none]
    exact Nat.zero_le _
  refine ⟨rewritten.sparing stands, .of_fills
    (spans.target.fills.become rewritten.keeps (kind.trans spans.typed'.symm) sized
      fun index below => ?_)⟩
  obtain ⟨sum, ⟨_, pairs, ⟨⟩, factors, summed⟩, read⟩ := rewritten.each [index] (Set.mem_univ _) _ _
    (spans.target.packed.lies (below.trans_eq spans.target.size.symm))
  rw [Nat.zero_add] at read
  have computed := each index below
  rw [Storage.factors_iff.mpr (spans.factors below factors)] at computed
  exact read.trans ((dtype_of_matrix spans.matrix ▸ summed).symm.trans computed)

end Host
end TensorGraph

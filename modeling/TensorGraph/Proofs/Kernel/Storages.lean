/-
Values that are whole storages.

What a node holds, what it is given and what it answers with are whole storages,
each seen in a packed layout.  The elements of such a value are the cells of its
storage, in the same order, in whatever shape it is seen.
-/

import TensorGraph.Graph.Evaluate
import TensorGraph.Proofs.Kernel.Sliding

namespace TensorGraph

/-- The value that shows the whole of a storage in some sizes. -/
def Value.ofWhole (dtype : DType) (sizes : List Nat) (name : Nat) : Value :=
  { dtype? := some dtype
    layout? := some (Layout.packed sizes)
    place := .host name 0 }

/-- The value shows the whole of a storage, which holds these elements. -/
structure Value.Fills (value : Value) (heap : Heap) (name : Nat) (sizes : List Nat)
    (data : Storage) : Prop where
  value : value = .ofWhole data.dtype sizes name
  known : name < heap.next
  held : heap.storage name = data
  sized : data.size = elementCount sizes

namespace Value.Fills

variable {value : Value} {heap after : Heap} {name : Nat} {sizes : List Nat} {data new : Storage}

theorem added (heap : Heap) (sized : data.size = elementCount sizes) :
    (ofWhole data.dtype sizes heap.next).Fills (heap.add data) heap.next sizes data where
  value := rfl
  known := by
    rw [Heap.next_add]
    exact Nat.lt_succ_self _
  held := Heap.storage_add_self heap data
  sized := sized

theorem changed (fills : value.Fills heap name sizes data) (next : heap.next ≤ after.next)
    (held : after.storage name = new) (typed : new.dtype = data.dtype)
    (sized : new.size = data.size) : value.Fills after name sizes new where
  value := typed ▸ fills.value
  known := fills.known.trans_le next
  held := held
  sized := sized.trans fills.sized

theorem grows (fills : value.Fills heap name sizes data) (growing : heap.Grows after) :
    value.Fills after name sizes data :=
  fills.changed growing.next ((growing.kept name fills.known).trans fills.held) rfl rfl

theorem stands (fills : value.Fills heap name sizes data) : value.Stands heap name 0 := by
  obtain rfl := fills.value
  refine ⟨rfl, fills.known, congrArg some (congrArg Storage.dtype fills.held.symm),
    Nat.zero_le _, ?_⟩
  rintro _ ⟨⟩
  rw [fills.held, Layout.span_packed, Nat.zero_add]
  exact ⟨.packed sizes, fills.sized.ge⟩

theorem shaped (fills : value.Fills heap name sizes data) :
    value.layout? = some (Layout.packed sizes) := by
  rw [fills.value]
  rfl

theorem layout (fills : value.Fills heap name sizes data) :
    value.layout = .ok (Layout.packed sizes) := by
  rw [Value.layout, fills.shaped]

theorem typed (fills : value.Fills heap name sizes data) : value.dtype? = some data.dtype := by
  rw [fills.value]
  rfl

theorem dtype (fills : value.Fills heap name sizes data) : value.dtype = .ok data.dtype :=
  Value.dtype_ok.mpr fills.typed

/-- The elements are the cells, in order. -/
theorem shows (fills : value.Fills heap name sizes data) :
    Shows heap name 0 (Layout.packed sizes) data.cells.toList := by
  have counted : data.cells.toList.length = elementCount sizes := by
    rw [Array.length_toList]
    exact fills.sized
  unfold Shows
  rw [Layout.positions_packed]
  refine List.forall₂_iff_get.mpr ⟨by rw [List.length_range, counted],
    fun position below below' => ?_⟩
  rw [List.get_eq_getElem, List.getElem_range, List.get_eq_getElem, Heap.cell_eq_ok, fills.held,
    Nat.zero_add, ← Array.getElem?_toList, List.getElem?_eq_getElem]

theorem literals (fills : value.Fills heap name sizes data) :
    value.literals heap = .ok data.cells.toList :=
  fills.stands.literals fills.shaped fills.shows

theorem toStorage (fills : value.Fills heap name sizes data) : value.toStorage heap = .ok data := by
  obtain ⟨storage, read, typed, cells⟩ := fills.stands.toStorage fills.shaped fills.shows
  have same : storage = data := by
    refine Storage.ext_cells ?_ (Array.toList_inj.mp cells)
    rw [fills.value] at typed
    exact (Option.some.inj typed).symm
  rw [read, same]

/-- The storage holds what its elements are. -/
theorem held_of_literals (fills : value.Fills heap name sizes data) (keeps : heap.Keeps after)
    {elements : List Literal} (read : value.literals after = .ok elements) :
    ∃ new, value.Fills after name sizes new ∧ new.dtype = data.dtype ∧
      new.cells.toList = elements := by
  have typed := keeps.dtype name fills.known
  have sized := keeps.size name fills.known
  rw [fills.held] at typed sized
  have later : value.Fills after name sizes (after.storage name) :=
    fills.changed keeps.next rfl typed sized
  refine ⟨_, later, typed, ?_⟩
  exact Except.ok.inj (later.literals.symm.trans read)

end Value.Fills

namespace Host

variable {ρ : Type} {state : HostState ρ} {value : Value} {name : Nat} {sizes : List Nat}
  {size : Nat} {data : Storage} {dtype : DType}

theorem allocate_fills (dtype : DType) (sizes : List Nat) (state : HostState ρ) :
    Yields (Kernel.allocate dtype (Layout.packed sizes) : Host ρ Value) state fun value after =>
      state.heap.Grows after.heap ∧ value.Fills after.heap state.heap.next sizes
        (Storage.zeros dtype (elementCount sizes)) := by
  have made : (Host.allocate dtype (Layout.packed sizes) : Host ρ Value) state =
      .ok (.ofWhole dtype sizes state.heap.next) (onto state (state.heap.add
        (Storage.zeros dtype (Layout.packed sizes).memorySize))) := rfl
  rw [Layout.memorySize_packed] at made
  exact .of_done made ⟨.add _ _, .added state.heap (Storage.size_zeros _ _)⟩

theorem stored_fills (sized : data.size = elementCount sizes) (heap : Heap) :
    Value.ofStorage data (Layout.packed sizes) heap =
      .ok (.ofWhole data.dtype sizes heap.next) (heap.add data) := by
  have fits : Value.checkFits (Layout.packed sizes) 0 data.size = .ok () := by
    unfold Value.checkFits
    rw [Layout.span_packed, Nat.zero_add, sized, if_neg (Nat.lt_irrefl _)]
  unfold Value.ofStorage
  rw [fits]
  rfl

/-- The vector of all elements of a storage. -/
structure RowOf (vector : Vector) (heap : Heap) (name : Nat) (data : Storage) : Prop where
  fills : vector.value.Fills heap name [data.size] data
  size : vector.size = data.size
  dtype : vector.dtype = data.dtype
  packed : vector.Packed heap name 0

namespace RowOf

variable {vector : Vector} {heap after : Heap}

theorem of_fills (fills : vector.value.Fills heap name [size] data) :
    RowOf vector heap name data := by
  obtain rfl : data.size = size := fills.sized.trans (Layout.elementCount_single size)
  have axes := Vector.axes_of_shaped fills.shaped
  have same : vector.axis =
      { size := data.size, extent := data.size, offset := 0, increment := 1, logical := 0 } :=
    (List.singleton_inj.mp axes).symm
  have typed : some data.dtype = some vector.dtype := by
    rw [← vector.typed, fills.value]
    rfl
  refine ⟨fills, congrArg Axis.size same, (Option.some.inj typed).symm,
    ⟨⟨0, fills.stands, ?_⟩, congrArg Axis.increment same⟩⟩
  rw [same]
  rfl

theorem place (row : RowOf vector heap name data) : vector.value.place = .host name 0 := by
  rw [row.fills.value]
  rfl

theorem grows (row : RowOf vector heap name data) (growing : heap.Grows after) :
    RowOf vector after name data :=
  .of_fills (row.fills.grows growing)

end RowOf

/-- A value of rank one, as it was allocated or stored, as a vector. -/
theorem vector_of_fills (fills : value.Fills state.heap name [size] data) :
    Yields (vectorOf value : Host ρ Vector) state fun vector after =>
      state = after ∧ vector.value = value ∧ RowOf vector state.heap name data := by
  obtain rfl : data.size = size := fills.sized.trans (Layout.elementCount_single size)
  have shown : value.shown name 0 (Layout.packed [data.size]) = value := by
    rw [fills.value]
    rfl
  obtain ⟨vector, made, same⟩ := vector_of_shown fills.typed (Layout.rank_packed [data.size]) name 0
  rw [shown] at made same
  exact .of_done (ofExcept_ok.mpr ⟨made, rfl⟩) ⟨rfl, same, .of_fills (same ▸ fills)⟩

/-- A value of rank two, as it was stored, as a matrix. -/
theorem matrix_of_fills {rows columns : Nat}
    (fills : value.Fills state.heap name [rows, columns] data) :
    Yields (matrixOf value : Host ρ Matrix) state fun matrix after =>
      state = after ∧ matrix.value = value := by
  have shown : value.shown name 0 (Layout.packed [rows, columns]) = value := by
    rw [fills.value]
    rfl
  obtain ⟨matrix, made, same⟩ :=
    matrix_of_shown fills.typed (Layout.rank_packed [rows, columns]) name 0
  rw [shown] at made same
  exact .of_done (ofExcept_ok.mpr ⟨made, rfl⟩) ⟨rfl, same⟩

/-- All elements of a value as one row. -/
theorem row_of_fills (fills : value.Fills state.heap name sizes data) :
    Yields (Kernel.row value : Host ρ Vector) state fun vector after =>
      state = after ∧ RowOf vector state.heap name data := by
  have flat : (Value.ofWhole data.dtype [data.size] name).Fills state.heap name [data.size] data :=
    ⟨rfl, fills.known, fills.held, (Layout.elementCount_single data.size).symm⟩
  have flattened : value.flatten state.heap = .ok (Value.ofWhole data.dtype [data.size] name) := by
    have fits : Value.checkFits (Layout.packed [data.size]) 0 (state.heap.storage name).size =
        .ok () := by
      unfold Value.checkFits
      rw [Layout.span_packed, Layout.elementCount_single, fills.held, Nat.zero_add,
        if_neg (Nat.lt_irrefl _)]
    unfold Value.flatten
    rw [fills.stands.ready_iff.mpr fills.shaped]
    change (if (Layout.packed sizes).isContiguous = true then _ else _) = _
    rw [if_pos (Layout.isContiguous_packed sizes), Layout.elementCount_packed, ← fills.sized,
      fills.value]
    simp only [Value.withLayout, Value.ofWhole, fits, bind, Except.bind]
    rfl
  refine .behind (look_ok.mpr ⟨flattened, rfl⟩) ?_
  exact (vector_of_fills flat).mono fun vector after held => ⟨held.1, held.2.2⟩

end Host
end TensorGraph

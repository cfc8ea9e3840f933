/-
What is written through views.

A chain of rows, columns, blocks, parts and elements shows elements of the value
it began with, and a write through its end changes one of them.  Which views
there are is decided by their ranges, but for lines without elements: the place
of the first one is asked for, though nothing is there.
-/

import TensorGraph.Proofs.Kernel.Views

namespace TensorGraph

variable {ρ α : Type}

/-! ### Chains of views -/

/-- A view of a value, taken at known indices: the sizes it has, and the coordinates in the
value of each of its elements. -/
inductive Look : HostState ρ → HostState ρ → Value → Value → List Nat →
    (List Nat → List Nat) → Prop where
  | row {state after : HostState ρ} {matrix : Matrix} {index : Scalar} {i : Nat} {vector : Vector}
      (named : index.At state.heap i)
      (done : (matrix.row index : Host ρ Vector) state = .ok vector after) :
      Look state after matrix.value vector.value [matrix.columns] (i :: ·)
  | column {state after : HostState ρ} {matrix : Matrix} {index : Scalar} {j : Nat}
      {vector : Vector} (named : index.At state.heap j)
      (done : (matrix.column index : Host ρ Vector) state = .ok vector after) :
      Look state after matrix.value vector.value [matrix.rows] (· ++ [j])
  | block {state after : HostState ρ} {matrix block : Matrix} {row column rows columns : Nat}
      (words : row < Nat.pow 2 64 ∧ column < Nat.pow 2 64)
      (done : (matrix.part row column rows columns : Host ρ Matrix) state = .ok block after) :
      Look state after matrix.value block.value [rows, columns]
        (List.zipWith (· + ·) [row, column])
  | entry {state after : HostState ρ} {matrix : Matrix} {row column scalar : Scalar} {i j : Nat}
      (named : row.At state.heap i) (named' : column.At state.heap j)
      (done : (matrix.element row column : Host ρ Scalar) state = .ok scalar after) :
      Look state after matrix.value scalar.value [] fun _ => [i, j]
  | part {state after : HostState ρ} {vector part : Vector} {start : Scalar} {o size : Nat}
      (named : start.At state.heap o)
      (done : (vector.part start size : Host ρ Vector) state = .ok part after) :
      Look state after vector.value part.value [size] (List.zipWith (· + ·) [o])
  | item {state after : HostState ρ} {vector : Vector} {index scalar : Scalar} {i : Nat}
      (named : index.At state.heap i)
      (done : (vector.element index : Host ρ Scalar) state = .ok scalar after) :
      Look state after vector.value scalar.value [] fun _ => [i]

/-- Views of views of a value, with anything in between that leaves every storage its type and
its size. -/
inductive Chain (value : Value) : HostState ρ → HostState ρ → Value → List Nat →
    (List Nat → List Nat) → Prop where
  | whole {state : HostState ρ} {layout : Layout} (shaped : value.layout? = some layout) :
      Chain value state state value layout.logicalSizes id
  | look {state middle after : HostState ρ} {view next : Value} {sizes sizes' : List Nat}
      {through through' : List Nat → List Nat} (chain : Chain value state middle view sizes through)
      (look : Look middle after view next sizes' through') :
      Chain value state after next sizes' (through ∘ through')
  | between {state middle after : HostState ρ} {view : Value} {sizes : List Nat}
      {through : List Nat → List Nat} (chain : Chain value state middle view sizes through)
      (keeps : middle.heap.Keeps after.heap) : Chain value state after view sizes through

theorem Look.window {state after : HostState ρ} {value view : Value} {sizes : List Nat}
    {through : List Nat → List Nat} (look : Look state after value view sizes through)
    {name base : Nat} (stands : value.Stands state.heap name base) :
    state.heap.Grows after.heap ∧ Value.Window after.heap value view sizes through := by
  cases look with
  | row named done => exact ((Host.row_admits stands named).of_ok done).2
  | column named done => exact ((Host.column_admits stands named).of_ok done).2
  | block words done =>
      exact ((Host.part_admits stands fun _ _ some some' =>
        Host.counts_of_part done words some some').of_ok done).2
  | entry named named' done => exact ((Host.matrix_element_admits stands named named').of_ok done).2
  | part named done => exact ((Host.vector_part_admits stands named).of_ok done).2
  | item named done => exact ((Host.vector_element_admits stands named).of_ok done).2

theorem Chain.window {state after : HostState ρ} {value view : Value} {sizes : List Nat}
    {through : List Nat → List Nat} (chain : Chain value state after view sizes through)
    {name base : Nat} (stands : value.Stands state.heap name base) :
    state.heap.Keeps after.heap ∧ Value.Window after.heap value view sizes through := by
  induction chain with
  | whole shaped => exact ⟨.refl _, .whole stands shaped⟩
  | look _ look inductionHypothesis =>
      obtain ⟨keeps, window⟩ := inductionHypothesis
      obtain ⟨_, _, here⟩ := window.stands
      obtain ⟨growing, inner⟩ := look.window here
      have later : Heap.Keeps _ _ := .of_grows growing
      exact ⟨keeps.trans later, (window.keeps later).trans inner⟩
  | between _ keeps' inductionHypothesis =>
      obtain ⟨keeps, window⟩ := inductionHypothesis
      exact ⟨keeps.trans keeps', window.keeps keeps'⟩

namespace Value

variable {value view : Value} {heap : Heap} {sizes : List Nat} {through : List Nat → List Nat}

/-- What a view is of a value. -/
structure Aliases (state : HostState ρ) (value view : Value) (sizes : List Nat)
    (through : List Nat → List Nat) : Prop where
  sized : view.layout?.map Layout.logicalSizes = some sizes
  /-- The elements of the view are cells of elements of the value. -/
  lies : ∀ coordinates name index, view.Lies coordinates name index ↔
    List.Forall₂ (· < ·) coordinates sizes ∧ value.Lies (through coordinates) name index
  read : ∀ coordinates, List.Forall₂ (· < ·) coordinates sizes →
    ∃ element, view.get coordinates state.heap = .ok element ∧
      value.get (through coordinates) state.heap = .ok element
  /-- An element of the type is written to the view, and to just that element of the value. -/
  written : ∀ coordinates, List.Forall₂ (· < ·) coordinates sizes → ∀ element : Literal,
    value.dtype? = some element.dtype → ∃ heap, view.set coordinates element state.heap =
      .ok () heap ∧ value.Overwritten state.heap heap (through coordinates) element
  stored : sizes = [] → ∀ source after, (Host.store view source : Host ρ Unit) state =
    .ok () after → ∃ element, Host.literal source state.heap = .ok element ∧
      value.Overwritten state.heap after.heap (through []) element

theorem Window.aliases {state : HostState ρ} {name base : Nat}
    (window : Window state.heap value view sizes through)
    (stands : value.Stands state.heap name base) : Aliases state value view sizes through := by
  obtain ⟨name', base', here⟩ := window.stands
  obtain ⟨shape, shaped, rfl⟩ := Option.map_eq_some_iff.mp window.sized
  have shows : ∀ coordinates, List.Forall₂ (· < ·) coordinates shape.logicalSizes →
      ∃ index, view.Lies coordinates name' index ∧ value.Lies (through coordinates) name' index := by
    intro coordinates inside
    have lies := (here.lies_iff shaped).mpr ⟨inside, rfl, rfl⟩
    exact ⟨_, lies, ((window.lies _ _ _).mp lies).2⟩
  have written : ∀ coordinates, List.Forall₂ (· < ·) coordinates shape.logicalSizes →
      ∀ element : Literal, value.dtype? = some element.dtype →
        ∃ heap, view.set coordinates element state.heap = .ok () heap ∧
          value.Overwritten state.heap heap (through coordinates) element := by
    intro coordinates inside element typed
    obtain ⟨index, lies, lies'⟩ := shows coordinates inside
    obtain ⟨same, -⟩ := stands.lies_lt lies'
    subst same
    rw [lies.set, ← lies'.set]
    exact stands.set_overwrites lies' typed
  refine ⟨window.sized, window.lies, fun coordinates inside => ?_, written, ?_⟩
  · obtain ⟨index, lies, lies'⟩ := shows coordinates inside
    obtain ⟨rfl, below⟩ := stands.lies_lt lies'
    obtain ⟨element, read⟩ := Storage.exists_get below
    exact ⟨element, (lies.get _).trans read, (lies'.get _).trans read⟩
  · intro scalar source after done
    obtain ⟨element, read, typed, set⟩ := Host.store_ok done
    have nothing : List.Forall₂ (· < ·) [] shape.logicalSizes := by
      rw [scalar]
      exact .nil
    obtain ⟨heap, set', overwritten⟩ :=
      written [] nothing element (window.typed.symm.trans typed)
    cases set.symm.trans set'
    exact ⟨element, read, overwritten⟩

/-- Every chain of views of a value that was made shows cells of just its elements, and what is
written through it is written to one of them alone. -/
theorem Reached.views_alias {state after : HostState ρ} {values : List Value}
    (reached : Reached state.heap values) (member : value ∈ values)
    (chain : Chain value state after view sizes through) :
    Aliases after value view sizes through := by
  obtain ⟨name, base, stands⟩ := reached.stands value member
  obtain ⟨keeps, window⟩ := chain.window stands
  exact window.aliases (stands.keeps keeps)

/-- An element of a part of a row, in a padded matrix that is stored column by column. -/
theorem Reached.views_alias_nested : ∃ (state after : HostState Unit) (matrix : Matrix)
    (row part : Vector) (one entry : Scalar), Reached state.heap [matrix.value] ∧
      (matrix.row one : Host Unit Vector) state = .ok row after ∧
        (row.part one 2 : Host Unit Vector) after = .ok part after ∧
          (part.element one : Host Unit Scalar) after = .ok entry after ∧
            Aliases after matrix.value entry.value [] fun _ => [1, 2] := by
  have made : ∃ (layout : Layout) (heap : Heap) (value : Value) (matrix : Matrix)
      (row part : Vector) (entry : Scalar) (after : HostState Unit),
      Layout.reordered [3, 2] [5, 4] [1, 2] [1, 0] = .ok layout ∧
        Value.allocate .i32 layout Heap.empty = .ok value heap ∧
          Matrix.ofValue value = .ok matrix ∧ matrix.value = value ∧
            (Host.alone (.i64 1) 1).At (heap.add (Storage.singleton (.i64 1))) 1 ∧
              (matrix.row (Host.alone (.i64 1) 1) : Host Unit Vector)
                ⟨heap.add (Storage.singleton (.i64 1)), 0, ()⟩ = .ok row after ∧
                (Host.alone (.i64 1) 1).At after.heap 1 ∧
                  (row.part (Host.alone (.i64 1) 1) 2 : Host Unit Vector) after =
                    .ok part after ∧
                    (part.element (Host.alone (.i64 1) 1) : Host Unit Scalar) after =
                      .ok entry after :=
    ⟨_, _, _, _, _, _, _, _, rfl, rfl, rfl, rfl, ⟨_, rfl, rfl⟩, rfl, ⟨_, rfl, rfl⟩, rfl, rfl⟩
  obtain ⟨layout, heap, _, matrix, row, part, entry, after, reordered, allocated, -, rfl,
    named, first, named', second, third⟩ := made
  let state : HostState Unit := ⟨heap.add (Storage.singleton (.i64 1)), 0, ()⟩
  have reached : Reached state.heap [matrix.value] :=
    .shared (.allocated .start .i32 (.reordered reordered) allocated) _
  have line : Look state after matrix.value row.value [matrix.columns] (1 :: ·) := .row named first
  have chain := (((Chain.whole matrix.placed).look line).look (.part named' second)).look
    (.item named' third)
  exact ⟨state, after, matrix, row, part, Host.alone (.i64 1) 1, entry, reached, first, second,
    third, Reached.views_alias reached List.mem_cons_self chain⟩

end Value

/-! ### What is refused -/

namespace Host

/-- The run is accepted under the condition, and otherwise an index is out of range. -/
def Ranges (run : Host ρ α) (state : HostState ρ) (condition : Prop) : Prop :=
  ((∃ answer after, run state = .ok answer after) ↔ condition) ∧
    ∀ fault after, run state = .error fault after →
      ∃ position size, fault = .error (.indexOutOfRange position size)

theorem Admits.ranges {run : Host ρ α} {state : HostState ρ} {condition : Prop}
    {holds : α → HostState ρ → Prop} (admits : Admits run state condition holds) :
    Ranges run state condition :=
  ⟨admits.ok_iff, fun _ _ failed => admits.of_error failed⟩

end Host

namespace Value

/-- Which views a matrix and a vector have, where the matrix has its base at `base` and its
storage has `room`. -/
structure Viewable (state : HostState ρ) (matrix : Matrix) (base room : Nat) : Prop where
  row : ∀ (index : Scalar) i, index.At state.heap i →
    Host.Ranges (matrix.row index : Host ρ Vector) state
      (i < matrix.rows ∧ (matrix.columns = 0 → base + matrix.layout.place [i, 0] ≤ room))
  column : ∀ (index : Scalar) j, index.At state.heap j →
    Host.Ranges (matrix.column index : Host ρ Vector) state
      (j < matrix.columns ∧ (matrix.rows = 0 → base + matrix.layout.place [0, j] ≤ room))
  element : ∀ (row column : Scalar) i j, row.At state.heap i → column.At state.heap j →
    Host.Ranges (matrix.element row column : Host ρ Scalar) state
      (i < matrix.rows ∧ j < matrix.columns)
  part : ∀ row column rows columns,
    Host.Ranges (matrix.part row column rows columns : Host ρ Matrix) state
      (row + rows ≤ matrix.rows ∧ column + columns ≤ matrix.columns)

/-- No matrix with an element is larger than its storage. -/
theorem Stands.counts {state : HostState ρ} {matrix : Matrix} {name base bound : Nat}
    (stands : matrix.value.Stands state.heap name base)
    (counts : (state.heap.storage name).size < bound) {row column rows columns : Nat}
    (within : row + rows ≤ matrix.rows) (within' : column + columns ≤ matrix.columns)
    (some : 0 < rows) (some' : 0 < columns) : row < bound ∧ column < bound := by
  obtain ⟨built, fits⟩ := stands.fits matrix.layout matrix.placed
  have inside : matrix.layout.Inside [row, column] :=
    Host.inside_matrix.mpr ⟨by omega, by omega⟩
  have enough := built.spaced.elementCount_le_span
  have count := matrix.layout.elementCount_logicalSizes
  have first : row < _ := inside.lt_elementCount List.mem_cons_self
  have second : column < _ :=
    inside.lt_elementCount (List.mem_cons_of_mem _ List.mem_cons_self)
  omega

/-- A matrix and a vector that were made have just the views within their ranges, but for a row
or a column without elements, of which the first place has to be in the storage as well. -/
theorem Reached.views_in_range {state : HostState ρ} {values : List Value}
    (reached : Reached state.heap values)
    (counts : ∀ name, (state.heap.storage name).size < Nat.pow 2 63) :
    (∀ matrix : Matrix, matrix.value ∈ values → ∃ name base, matrix.value.place = .host name base ∧
      Viewable state matrix base (state.heap.storage name).size) ∧
    ∀ vector : Vector, vector.value ∈ values →
      (∀ (index : Scalar) i, index.At state.heap i →
        Host.Ranges (vector.element index : Host ρ Scalar) state (i < vector.size)) ∧
      ∀ (start : Scalar) o size, start.At state.heap o →
        Host.Ranges (vector.part start size : Host ρ Vector) state (o + size ≤ vector.size) := by
  refine ⟨fun matrix member => ?_, fun vector member => ?_⟩
  · obtain ⟨name, base, stands⟩ := reached.stands matrix.value member
    refine ⟨name, base, stands.place, ?_, ?_, ?_, ?_⟩
    · exact fun _ _ named => (Host.row_admits stands named).ranges
    · exact fun _ _ named => (Host.column_admits stands named).ranges
    · exact fun _ _ _ _ named named' => (Host.matrix_element_admits stands named named').ranges
    · exact fun _ _ _ _ => (Host.part_admits stands (stands.counts (counts name))).ranges
  · obtain ⟨name, base, stands⟩ := reached.stands vector.value member
    exact ⟨fun _ _ named => (Host.vector_element_admits stands named).ranges,
      fun _ _ _ named => (Host.vector_part_admits stands named).ranges⟩

/-- A row, and a part that is too long. -/
theorem Reached.views_in_range_row : ∃ (state : HostState Unit) (matrix : Matrix) (one : Scalar),
    Reached state.heap [matrix.value] ∧ matrix.rows = 2 ∧
      (∃ row after, (matrix.row one : Host Unit Vector) state = .ok row after) ∧
        ¬ ∃ block after, (matrix.part 1 0 2 1 : Host Unit Matrix) state = .ok block after := by
  have made : ∃ (heap : Heap) (value : Value) (matrix : Matrix),
      Value.allocate .i32 (Layout.packed [2, 3]) Heap.empty = .ok value heap ∧
        Matrix.ofValue value = .ok matrix ∧ matrix.value = value ∧ matrix.rows = 2 ∧
          matrix.columns = 3 ∧
            (Host.alone (.i64 1) 1).At (heap.add (Storage.singleton (.i64 1))) 1 ∧
              ∀ name, ((heap.add (Storage.singleton (.i64 1))).storage name).size ≤ 6 := by
    refine ⟨_, _, _, rfl, rfl, rfl, rfl, rfl, ⟨_, rfl, rfl⟩, fun name => ?_⟩
    rcases name with _ | _ | name
    · decide
    · decide
    · exact Nat.zero_le 6
  obtain ⟨heap, _, matrix, allocated, -, rfl, rows, columns, named, sizes⟩ := made
  let state : HostState Unit := ⟨heap.add (Storage.singleton (.i64 1)), 0, ()⟩
  have reached : Reached state.heap [matrix.value] :=
    .shared (.allocated .start .i32 (.packed _) allocated) _
  have counts : ∀ name, (state.heap.storage name).size < Nat.pow 2 63 := fun name =>
    (sizes name).trans_lt (by decide)
  obtain ⟨name, base, -, viewable⟩ :=
    (Reached.views_in_range reached counts).1 matrix List.mem_cons_self
  refine ⟨state, matrix, _, reached, rows, (viewable.row _ 1 named).1.mpr ⟨?_, ?_⟩,
    fun taken => ?_⟩
  · omega
  · omega
  · have := (viewable.part 1 0 2 1).1.mp taken
    omega

/-- A matrix of no rows has three columns, and its second one is refused. -/
theorem empty_column_refused : ∃ (state after : HostState Unit) (matrix : Matrix) (one : Scalar),
    Reached state.heap [matrix.value] ∧ one.At state.heap 1 ∧ 1 < matrix.columns ∧
      (matrix.column one : Host Unit Vector) state =
        .error (.error (.indexOutOfRange 1 0)) after := by
  have made : ∃ (heap : Heap) (value : Value) (matrix : Matrix) (after : HostState Unit),
      Value.allocate .i32 (Layout.packed [0, 3]) Heap.empty = .ok value heap ∧
        Matrix.ofValue value = .ok matrix ∧ matrix.value = value ∧ matrix.columns = 3 ∧
          (Host.alone (.i64 1) 1).At (heap.add (Storage.singleton (.i64 1))) 1 ∧
            (matrix.column (Host.alone (.i64 1) 1) : Host Unit Vector)
              ⟨heap.add (Storage.singleton (.i64 1)), 0, ()⟩ =
                .error (.error (.indexOutOfRange 1 0)) after :=
    ⟨_, _, _, _, rfl, rfl, rfl, rfl, ⟨_, rfl, rfl⟩, rfl⟩
  obtain ⟨heap, _, matrix, after, allocated, -, rfl, columns, named, refused⟩ := made
  refine ⟨⟨heap.add (Storage.singleton (.i64 1)), 0, ()⟩, after, matrix, Host.alone (.i64 1) 1, ?_,
    named, by omega, refused⟩
  exact .shared (.allocated .start .i32 (.packed _) allocated) _

end Value
end TensorGraph

/-
Views of matrices and vectors.

A row, a column, a block or an element of a matrix is a handle at another cell
of the same storage.  Its layout places its elements as far from that cell as
they lie in the whole, so each of them is the very cell of an element of the
whole, through any number of views.
-/

import TensorGraph.Proofs.Kernel.Addressing

namespace TensorGraph

namespace Value

variable {value view next : Value} {heap after : Heap} {name base : Nat}
  {layout shape : Layout} {sizes sizes' : List Nat} {through through' : List Nat → List Nat}

/-! ### Windows -/

/-- The view shows elements of the value, of which each is the very same cell. -/
structure Window (heap : Heap) (value view : Value) (sizes : List Nat)
    (through : List Nat → List Nat) : Prop where
  stands : ∃ name base, view.Stands heap name base
  typed : view.dtype? = value.dtype?
  sized : view.layout?.map Layout.logicalSizes = some sizes
  lies : ∀ coordinates name index, view.Lies coordinates name index ↔
    List.Forall₂ (· < ·) coordinates sizes ∧ value.Lies (through coordinates) name index

namespace Window

theorem whole (stands : value.Stands heap name base) (shaped : value.layout? = some layout) :
    Window heap value value layout.logicalSizes id where
  stands := ⟨name, base, stands⟩
  typed := rfl
  sized := by rw [shaped, Option.map_some]
  lies := by
    intro coordinates storage index
    refine ⟨fun lies => ⟨((stands.lies_iff shaped).mp lies).1, lies⟩, And.right⟩

theorem trans (outer : Window heap value view sizes through)
    (inner : Window heap view next sizes' through') :
    Window heap value next sizes' (through ∘ through') where
  stands := inner.stands
  typed := inner.typed.trans outer.typed
  sized := inner.sized
  lies := by
    intro coordinates storage index
    rw [inner.lies, outer.lies]
    constructor
    · rintro ⟨inside, -, lies⟩
      exact ⟨inside, lies⟩
    · rintro ⟨inside, lies⟩
      refine ⟨inside, ?_, lies⟩
      -- the view has an element there, as the next one shows it
      obtain ⟨_, _, stands⟩ := inner.stands
      obtain ⟨layout, shaped, sized⟩ := Option.map_eq_some_iff.mp inner.sized
      have here := (stands.lies_iff shaped).mpr ⟨sized.symm.subst (motive := fun sizes =>
        List.Forall₂ (· < ·) coordinates sizes) inside, rfl, rfl⟩
      exact ((outer.lies _ _ _).mp ((inner.lies _ _ _).mp here).2).1

theorem keeps (window : Window heap value view sizes through) (keeps : heap.Keeps after) :
    Window after value view sizes through where
  stands := by
    obtain ⟨name, base, stands⟩ := window.stands
    exact ⟨name, base, stands.keeps keeps⟩
  typed := window.typed
  sized := window.sized
  lies := window.lies

theorem congr (window : Window heap value view sizes through)
    (same : ∀ coordinates, List.Forall₂ (· < ·) coordinates sizes →
      through coordinates = through' coordinates) : Window heap value view sizes through' where
  stands := window.stands
  typed := window.typed
  sized := window.sized
  lies := by
    intro coordinates storage index
    rw [window.lies]
    exact and_congr_right fun inside => by rw [same coordinates inside]

end Window

/-- A layout that places its elements as the whole does fits where it starts, and shows them. -/
theorem Stands.window (stands : value.Stands heap name base) (shaped : value.layout? = some layout)
    (built : shape.Built) (offset : Nat) (within : base + offset ≤ (heap.storage name).size)
    (inward : ∀ coordinates, shape.Inside coordinates → layout.Inside (through coordinates) ∧
      layout.place (through coordinates) = offset + shape.place coordinates) :
    base + offset + shape.span ≤ (heap.storage name).size ∧
      Window heap value (value.shown name (base + offset) shape) shape.logicalSizes through := by
  have room : base + offset + shape.span ≤ (heap.storage name).size := by
    refine Layout.span_le_of_inside within fun coordinates inside => ?_
    obtain ⟨inside', same⟩ := inward coordinates inside
    have below := inside'.place_lt
    have fits := (stands.fits layout shaped).2
    omega
  have shown := stands.shown built room
  refine ⟨room, ⟨_, _, shown⟩, rfl, rfl, fun coordinates storage index => ?_⟩
  rw [shown.lies_iff rfl, stands.lies_iff shaped]
  refine and_congr_right fun inside => ?_
  obtain ⟨inside', same⟩ := inward coordinates inside
  rw [same, ← Nat.add_assoc]
  exact (and_iff_right inside').symm

/-- A part that fits is a window: an empty one where the value begins, any other where its first
element lies. -/
theorem Stands.window_of_part (stands : value.Stands heap name base)
    (shaped : value.layout? = some layout) {starts : List Nat}
    (counted : starts.length = layout.rank) (counted' : sizes.length = layout.rank)
    (room : List.Forall₂ (· ≤ ·) (List.zipWith (· + ·) starts sizes) layout.logicalSizes) :
    ∃ view, layout.resized sizes = .ok view ∧ view.rank = layout.rank ∧
      (0 ∈ sizes → base + view.span ≤ (heap.storage name).size ∧
        Window heap value (value.shown name base view) sizes (List.zipWith (· + ·) starts)) ∧
      (0 ∉ sizes → base + layout.place starts + view.span ≤ (heap.storage name).size ∧
        Window heap value (value.shown name (base + layout.place starts) view) sizes
          (List.zipWith (· + ·) starts)) := by
  obtain ⟨view, resized, ranked, rfl, built, inward⟩ :=
    Layout.resized_from counted counted' room
  obtain ⟨whole, fits⟩ := stands.fits layout shaped
  refine ⟨view, resized, ranked, fun none => ?_, fun some => ?_⟩
  · exact stands.window shaped (built whole) 0 stands.within
      fun _ inside => (Layout.not_inside_of_empty none inside).elim
  · have below := (Layout.Inside.first (counted.trans counted'.symm) room some).place_lt
    exact stands.window shaped (built whole) _ (by omega) inward

end Value

namespace Host

variable {ρ α β : Type} {state after : HostState ρ} {value : Value} {name base index : Nat}
  {layout view : Layout}

/-! ### What is accepted -/

/-- Under the condition the run has an answer of which something holds, and otherwise it says
that an index is out of range. -/
structure Admits (run : Host ρ α) (state : HostState ρ) (condition : Prop)
    (holds : α → HostState ρ → Prop) : Prop where
  accepted : condition → ∃ answer after, run state = .ok answer after ∧ holds answer after
  refused : ¬ condition → ∃ position size after,
    run state = .error (.error (.indexOutOfRange position size)) after

namespace Admits

variable {run : Host ρ α} {condition condition' : Prop} {holds holds' : α → HostState ρ → Prop}

theorem mono (admits : Admits run state condition holds)
    (weaker : ∀ answer after, holds answer after → holds' answer after) :
    Admits run state condition holds' where
  accepted := by
    intro allowed
    obtain ⟨answer, after, done, held⟩ := admits.accepted allowed
    exact ⟨answer, after, done, weaker answer after held⟩
  refused := admits.refused

theorem iff (admits : Admits run state condition holds) (same : condition ↔ condition') :
    Admits run state condition' holds where
  accepted := fun allowed => admits.accepted (same.mpr allowed)
  refused := fun forbidden => admits.refused (mt same.mp forbidden)

theorem of_ok (admits : Admits run state condition holds) {answer : α}
    (done : run state = .ok answer after) : condition ∧ holds answer after := by
  by_cases allowed : condition
  · obtain ⟨answer', after', done', held⟩ := admits.accepted allowed
    cases done.symm.trans done'
    exact ⟨allowed, held⟩
  · obtain ⟨_, _, _, failed⟩ := admits.refused allowed
    cases done.symm.trans failed

theorem ok_iff (admits : Admits run state condition holds) :
    (∃ answer after, run state = .ok answer after) ↔ condition := by
  constructor
  · rintro ⟨answer, after, done⟩
    exact (admits.of_ok done).1
  · intro allowed
    obtain ⟨answer, after, done, -⟩ := admits.accepted allowed
    exact ⟨answer, after, done⟩

theorem of_error (admits : Admits run state condition holds) {fault : Fault}
    (failed : run state = .error fault after) :
    ∃ position size, fault = .error (.indexOutOfRange position size) := by
  by_cases allowed : condition
  · obtain ⟨_, _, done, -⟩ := admits.accepted allowed
    cases failed.symm.trans done
  · obtain ⟨position, size, _, failed'⟩ := admits.refused allowed
    cases failed.symm.trans failed'
    exact ⟨position, size, rfl⟩

theorem of_done {first : Host ρ β} {rest : β → Host ρ α} {answer : β} {middle : HostState ρ}
    (done : first state = .ok answer middle) (admits : Admits (rest answer) middle condition holds) :
    Admits (first >>= rest) state condition holds where
  accepted := by
    rw [bind_of_ok done]
    exact admits.accepted
  refused := by
    rw [bind_of_ok done]
    exact admits.refused

/-- A check in front of a run. -/
theorem guarded {check : Host ρ Unit} {rest : Unit → Host ρ α}
    (passed : condition → check state = .ok () state)
    (failed : ¬ condition → ∃ position size after,
      check state = .error (.error (.indexOutOfRange position size)) after)
    (admits : condition → Admits (rest ()) state condition' holds) :
    Admits (check >>= rest) state (condition ∧ condition') holds where
  accepted := by
    rintro ⟨first, second⟩
    exact ((admits first).of_done (passed first)).accepted second
  refused := by
    intro forbidden
    by_cases first : condition
    · exact ((admits first).of_done (passed first)).refused fun second => forbidden ⟨first, second⟩
    · obtain ⟨position, size, after, stopped⟩ := failed first
      exact ⟨position, size, after, Action.bind_of_error stopped⟩

theorem below {scalar : Scalar} {position size : Nat} {rest : Unit → Host ρ α}
    (named : scalar.At state.heap position)
    (admits : position < size → Admits (rest ()) state condition' holds) :
    Admits (scalar.checkBelow size >>= rest) state (position < size ∧ condition') holds :=
  guarded (fun within => checkBelow_done named within)
    (fun outside => ⟨_, _, _, checkBelow_fails named (Nat.not_lt.mp outside)⟩) admits

/-- A range that is checked in front of a run. -/
theorem ranged {wrong : Prop} [Decidable wrong] {position size : Nat}
    {absurd : PUnit → Host ρ α} (admits : ¬ wrong → Admits run state condition holds) :
    Admits (if wrong then Kernel.fail (.indexOutOfRange position size) >>= absurd else run) state
      (¬ wrong ∧ condition) holds := by
  split
  · rename_i outside
    refine ⟨fun allowed => (allowed.1 outside).elim, fun _ => ⟨position, size, state, ?_⟩⟩
    exact Action.bind_of_error rfl
  · rename_i inside
    exact (admits inside).iff (and_iff_right inside).symm

theorem of_answer {answer : α} (done : run state = .ok answer after) (held : holds answer after) :
    Admits run state True holds where
  accepted := fun _ => ⟨answer, after, done, held⟩
  refused := fun absurd => (absurd trivial).elim

end Admits

/-! ### Handles taken as vectors and matrices -/

theorem vector_of_shown {dtype : DType} (typed : value.dtype? = some dtype)
    (rankOne : view.rank = 1) (name index : Nat) :
    ∃ vector, Vector.ofValue (value.shown name index view) = .ok vector ∧
      vector.value = value.shown name index view := by
  obtain ⟨dtype?, layout?, place⟩ := value
  cases typed
  have ready : (Value.shown ⟨some dtype, layout?, place⟩ name index view).ready = .ok view := rfl
  unfold Vector.ofValue
  rw [ready]
  dsimp only
  split
  · rename_i axis single
    split
    · split
      · exact ⟨_, rfl, rfl⟩
      · rename_i missing
        exact (missing (congrArg some single)).elim
    · rename_i untyped
      cases untyped
  · rename_i others
    obtain ⟨axis, single⟩ := List.length_eq_one_iff.mp rankOne
    exact (others axis single).elim

theorem matrix_of_shown {dtype : DType} (typed : value.dtype? = some dtype)
    (rankTwo : view.rank = 2) (name index : Nat) :
    ∃ matrix, Matrix.ofValue (value.shown name index view) = .ok matrix ∧
      matrix.value = value.shown name index view := by
  obtain ⟨dtype?, layout?, place⟩ := value
  cases typed
  have ready : (Value.shown ⟨some dtype, layout?, place⟩ name index view).ready = .ok view := rfl
  unfold Matrix.ofValue
  rw [ready]
  dsimp only
  rw [dif_pos rankTwo]
  split
  · split
    · exact ⟨_, rfl, rfl⟩
    · rename_i missing
      exact (missing rfl).elim
  · rename_i untyped
    cases untyped

theorem vector_done {dtype : DType} (value : Value) (typed : value.dtype? = some dtype)
    (placed : value.place = .host name index) (rankOne : view.rank = 1)
    (fits : index + view.span ≤ (state.heap.storage name).size) :
    ∃ vector, (do Kernel.ofExcept (Vector.ofValue (← Kernel.withLayout value view)) :
        Host ρ Vector) state = .ok vector state ∧
      vector.value = value.shown name index view := by
  obtain ⟨vector, read, same⟩ := vector_of_shown typed rankOne name index
  exact ⟨vector, (bind_of_ok (withLayout_done placed fits)).trans (ofExcept_ok.mpr ⟨read, rfl⟩),
    same⟩

theorem matrix_done {dtype : DType} (value : Value) (typed : value.dtype? = some dtype)
    (placed : value.place = .host name index) (rankTwo : view.rank = 2)
    (fits : index + view.span ≤ (state.heap.storage name).size) :
    ∃ matrix, (do Kernel.ofExcept (Matrix.ofValue (← Kernel.withLayout value view)) :
        Host ρ Matrix) state = .ok matrix state ∧
      matrix.value = value.shown name index view := by
  obtain ⟨matrix, read, same⟩ := matrix_of_shown typed rankTwo name index
  exact ⟨matrix, (bind_of_ok (withLayout_done placed fits)).trans (ofExcept_ok.mpr ⟨read, rfl⟩),
    same⟩

theorem item_value {dtype : DType} (typed : value.dtype? = some dtype) :
    (item dtype name index).value = value.shown name index Layout.scalar := by
  obtain ⟨dtype?, layout?, place⟩ := value
  cases typed
  rfl

/-- The one element that is addressed. -/
theorem element_admits {indices : List Scalar} {coordinates : List Nat}
    (stands : value.Stands state.heap name base) (shaped : value.layout? = some layout)
    (named : List.Forall₂ (Scalar.At state.heap) indices coordinates)
    (inside : layout.Inside coordinates) :
    Admits (Kernel.element value indices : Host ρ Scalar) state True fun scalar after =>
      state.heap.Grows after.heap ∧
        Value.Window after.heap value scalar.value [] fun _ => coordinates := by
  refine .of_answer (element_done stands shaped named inside) ⟨.refl _, ?_⟩
  rw [item_value stands.typed]
  have room := (stands.fits layout shaped).2
  have below := inside.place_lt
  have built : Layout.scalar.Built := .scalar
  refine (stands.window shaped built _ (by omega) fun rest inside' => ?_).2
  rw [List.forall₂_nil_right_iff.mp inside']
  exact ⟨inside, rfl⟩

/-! ### Matrices -/

theorem logicalSizes_matrix (matrix : Matrix) :
    matrix.layout.logicalSizes = [matrix.rows, matrix.columns] := by
  unfold Layout.logicalSizes
  rw [matrix.rankTwo]
  rfl

theorem inside_matrix {matrix : Matrix} {row column : Nat} :
    matrix.layout.Inside [row, column] ↔ row < matrix.rows ∧ column < matrix.columns := by
  unfold Layout.Inside
  rw [logicalSizes_matrix, List.forall₂_cons, List.forall₂_cons]
  simp

section Matrices

variable {matrix : Matrix} {logical size position : Nat} {scalar : Scalar}

theorem matrix_element_admits {row column : Scalar} {i j : Nat}
    (stands : matrix.value.Stands state.heap name base) (named : row.At state.heap i)
    (named' : column.At state.heap j) :
    Admits (matrix.element row column : Host ρ Scalar) state
      (i < matrix.rows ∧ j < matrix.columns) fun scalar after =>
        state.heap.Grows after.heap ∧
          Value.Window after.heap matrix.value scalar.value [] fun _ => [i, j] := by
  refine .iff (?_ : Admits _ state (i < matrix.rows ∧ j < matrix.columns ∧ True) _)
    (by simp only [and_true])
  exact .below named fun first => .below named' fun second =>
    element_admits stands matrix.placed (.cons named (.cons named' .nil))
      (inside_matrix.mpr ⟨first, second⟩)

/-- The indices of the first element of a line. -/
theorem line_named {zero : Scalar} (within : logical < 2) (named : scalar.At state.heap position)
    (named' : zero.At state.heap 0) :
    List.Forall₂ (Scalar.At state.heap)
      (if logical = 0 then [scalar, zero] else [zero, scalar])
      ([0].insertIdx logical position) := by
  have either : logical = 0 ∨ logical = 1 := by omega
  rcases either with rfl | rfl
  · exact .cons named (.cons named' .nil)
  · exact .cons named' (.cons named .nil)

/-- A line is accepted when it is one of the matrix and the place of its first element is in
the storage, whether or not there is an element. -/
theorem line_admits (stands : matrix.value.Stands state.heap name base)
    (sized : matrix.layout.logicalSizes[logical]? = some size)
    (named : scalar.At state.heap position) :
    Admits (matrix.line logical size scalar : Host ρ Vector) state
      (position < size ∧ base + matrix.layout.place ([0].insertIdx logical position) ≤
        (state.heap.storage name).size) fun vector after =>
          state.heap.Grows after.heap ∧ Value.Window after.heap matrix.value vector.value
            (matrix.layout.logicalSizes.eraseIdx logical)
            fun coordinates => coordinates.insertIdx logical position := by
  obtain ⟨view, sliced, counted, sizes, inward⟩ := Layout.slice_dimension sized
  have rankTwo := matrix.rankTwo
  have within : logical < 2 := by
    rw [← rankTwo, ← matrix.layout.length_logicalSizes]
    exact (List.getElem?_eq_some_iff.mp sized).1
  refine .below named fun below => ?_
  refine .of_done (ofExcept_ok.mpr ⟨sliced, rfl⟩) ?_
  obtain ⟨zero, middle, made, growing, named'⟩ := index_done 0 (by decide) state
  refine .of_done made ?_
  have stands' := stands.keeps (.of_grows growing)
  have addressed := line_named within (named.grows growing) named'
  have long : ([0].insertIdx logical position).length = matrix.layout.rank := by
    rw [rankTwo, List.length_insertIdx, List.length_singleton, if_pos (Nat.le_of_lt_succ within)]
  rw [← growing.kept name stands.known]
  constructor
  · intro room
    obtain ⟨built, inside⟩ := inward position below
    obtain ⟨fits, window⟩ := stands'.window matrix.placed
      (built (stands.fits _ matrix.placed).1) _ room fun coordinates within => by
        obtain ⟨within', same⟩ := inside coordinates within
        have single : coordinates.length = 1 := by
          rw [within.length_eq, view.length_logicalSizes]
          omega
        rw [single] at same
        exact ⟨within', same⟩
    rw [sizes] at window
    obtain ⟨vector, done, same⟩ :=
      vector_done (matrix.value.moved name _) stands'.typed rfl (by omega) fits
    refine ⟨vector, middle, ?_, growing, ?_⟩
    · exact (bind_of_ok (offset_done stands' matrix.placed addressed long room)).trans done
    · rw [same]
      exact window
  · intro outside
    exact ⟨_, _, _, Action.bind_of_error
      (offset_refused stands' matrix.placed addressed long (Nat.not_le.mp outside))⟩

/-- There is room for the first element where there is one. -/
theorem first_le_iff {coordinates : List Nat} {empty : Prop}
    (stands : value.Stands state.heap name base) (shaped : value.layout? = some layout)
    (inside : ¬ empty → layout.Inside coordinates) :
    base + layout.place coordinates ≤ (state.heap.storage name).size ↔
      (empty → base + layout.place coordinates ≤ (state.heap.storage name).size) := by
  refine ⟨fun room _ => room, fun room => ?_⟩
  by_cases none : empty
  · exact room none
  · have below := (inside none).place_lt
    have fits := (stands.fits layout shaped).2
    omega

theorem row_admits (stands : matrix.value.Stands state.heap name base)
    (named : scalar.At state.heap position) :
    Admits (matrix.row scalar : Host ρ Vector) state
      (position < matrix.rows ∧ (matrix.columns = 0 →
        base + matrix.layout.place [position, 0] ≤ (state.heap.storage name).size))
      fun vector after => state.heap.Grows after.heap ∧
        Value.Window after.heap matrix.value vector.value [matrix.columns] (position :: ·) := by
  have sizes := logicalSizes_matrix matrix
  have sized : matrix.layout.logicalSizes[0]? = some matrix.rows := by
    rw [sizes]
    rfl
  have line := line_admits (ρ := ρ) stands sized named
  rw [sizes] at line
  refine line.iff (and_congr_right fun below => ?_)
  exact first_le_iff stands matrix.placed fun some =>
    inside_matrix.mpr ⟨below, Nat.pos_of_ne_zero some⟩

theorem column_admits (stands : matrix.value.Stands state.heap name base)
    (named : scalar.At state.heap position) :
    Admits (matrix.column scalar : Host ρ Vector) state
      (position < matrix.columns ∧ (matrix.rows = 0 →
        base + matrix.layout.place [0, position] ≤ (state.heap.storage name).size))
      fun vector after => state.heap.Grows after.heap ∧
        Value.Window after.heap matrix.value vector.value [matrix.rows] (· ++ [position]) := by
  have sizes := logicalSizes_matrix matrix
  have sized : matrix.layout.logicalSizes[1]? = some matrix.columns := by
    rw [sizes]
    rfl
  have line := line_admits (ρ := ρ) stands sized named
  rw [sizes] at line
  refine (line.iff (and_congr_right fun below => ?_)).mono fun vector after held => ?_
  · exact first_le_iff stands matrix.placed fun some =>
      inside_matrix.mpr ⟨Nat.pos_of_ne_zero some, below⟩
  · obtain ⟨growing, window⟩ := held
    refine ⟨growing, window.congr fun coordinates inside => ?_⟩
    cases inside with
    | cons _ rest =>
        cases rest
        rfl

theorem part_admits {row column rows columns : Nat}
    (stands : matrix.value.Stands state.heap name base)
    (counts : row + rows ≤ matrix.rows → column + columns ≤ matrix.columns → 0 < rows →
      0 < columns → row < Nat.pow 2 63 ∧ column < Nat.pow 2 63) :
    Admits (matrix.part row column rows columns : Host ρ Matrix) state
      (row + rows ≤ matrix.rows ∧ column + columns ≤ matrix.columns) fun block after =>
        state.heap.Grows after.heap ∧ Value.Window after.heap matrix.value block.value
          [rows, columns] (List.zipWith (· + ·) [row, column]) := by
  refine .iff (?_ : Admits _ state
    (¬ row + rows > matrix.rows ∧ ¬ column + columns > matrix.columns ∧ True) _)
    (by simp only [Nat.not_lt, gt_iff_lt, and_true])
  unfold Matrix.part
  dsimp only
  refine .ranged fun within => .ranged fun within' => ?_
  have room : List.Forall₂ (· ≤ ·) (List.zipWith (· + ·) [row, column] [rows, columns])
      matrix.layout.logicalSizes := by
    rw [logicalSizes_matrix]
    exact .cons (Nat.not_lt.mp within) (.cons (Nat.not_lt.mp within') .nil)
  have long (first second : Nat) : [first, second].length = matrix.layout.rank :=
    matrix.rankTwo.symm
  obtain ⟨view, resized, ranked, empty, nonempty⟩ :=
    stands.window_of_part matrix.placed (long row column) (long rows columns) room
  have rankTwo := ranked.trans matrix.rankTwo
  refine .of_done (ofExcept_ok.mpr ⟨resized, rfl⟩) ?_
  split
  · rename_i none
    obtain ⟨fits, window⟩ := empty (by grind)
    obtain ⟨block, done, same⟩ := matrix_done matrix.value stands.typed stands.place rankTwo fits
    refine .of_answer ((bind_of_ok rfl).trans done) ⟨.refl _, ?_⟩
    rw [same]
    exact window
  · rename_i some
    obtain ⟨counts, counts'⟩ := counts (Nat.not_lt.mp within) (Nat.not_lt.mp within')
      (Nat.pos_of_ne_zero (by grind)) (Nat.pos_of_ne_zero (by grind))
    obtain ⟨fits, window⟩ := nonempty (by grind)
    obtain ⟨index, middle, made, growing, named⟩ := index_done row counts state
    obtain ⟨index', last, made', growing', named'⟩ := index_done column counts' middle
    refine .of_done made (.of_done made' ?_)
    have growing := growing.trans growing'
    have stands' := stands.keeps (.of_grows growing)
    rw [← growing.kept name stands.known] at fits
    obtain ⟨block, done, same⟩ :=
      matrix_done (matrix.value.moved name _) stands'.typed rfl rankTwo fits
    refine .of_answer ((bind_of_ok (offset_done stands' matrix.placed
      (.cons (named.grows growing') (.cons named' .nil)) (long row column) (by omega))).trans done)
      ⟨growing, ?_⟩
    rw [same]
    exact window.keeps (.of_grows growing)

/-- A block is found from numbers that a machine counts to. -/
theorem counts_of_part {row column rows columns : Nat} {block : Matrix}
    (done : (matrix.part row column rows columns : Host ρ Matrix) state = .ok block after)
    (words : row < Nat.pow 2 64 ∧ column < Nat.pow 2 64) (some : 0 < rows) (some' : 0 < columns) :
    row < Nat.pow 2 63 ∧ column < Nat.pow 2 63 := by
  have stops : ∀ {α : Type} {cause : Error} {rest : PUnit → Host ρ α} {state after : HostState ρ}
      {result : α}, ¬ (Kernel.fail cause >>= rest) state = .ok result after := by
    intro α cause rest state after result done
    obtain ⟨_, _, absurd, -⟩ := bind_ok.mp done
    exact fail_ok absurd
  unfold Matrix.part at done
  dsimp only at done
  split at done
  · exact (stops done).elim
  split at done
  · exact (stops done).elim
  obtain ⟨_, _, _, done⟩ := bind_ok.mp done
  split at done
  · rename_i empty
    simp only [Bool.or_eq_true, decide_eq_true_eq] at empty
    omega
  obtain ⟨index, middle, made, done⟩ := bind_ok.mp done
  obtain ⟨index', last, made', done⟩ := bind_ok.mp done
  obtain ⟨_, _, addressed, -⟩ := bind_ok.mp done
  obtain ⟨growing, reads⟩ := reads_of_index made
  obtain ⟨growing', reads'⟩ := reads_of_index made'
  obtain ⟨-, _, positions, named, -⟩ := offset_ok addressed
  cases named with
  | cons named rest =>
      cases rest with
      | cons named' _ =>
          exact ⟨counts_of_at (reads.mono growing') named words.1,
            counts_of_at reads' named' words.2⟩

end Matrices

/-! ### Vectors -/

section Vectors

variable {vector : Vector} {position size : Nat} {scalar : Scalar}

theorem layout_vector (vector : Vector) : ∃ layout, vector.value.layout? = some layout ∧
    layout.rank = 1 ∧ layout.logicalSizes = [vector.size] := by
  obtain ⟨layout, shaped, axes⟩ := Option.map_eq_some_iff.mp vector.rankOne
  have rankOne : layout.rank = 1 := by
    rw [Layout.rank, axes, List.length_singleton]
  have member : vector.axis ∈ layout.axes := by
    rw [axes]
    exact List.mem_singleton_self _
  have sized := Layout.logicalSizes_axis member
  have only : vector.axis.logical = 0 := by
    have := Layout.logical_lt member
    omega
  obtain ⟨size, sizes⟩ := List.length_eq_one_iff.mp (layout.length_logicalSizes.trans rankOne)
  rw [only, sizes] at sized
  cases sized
  exact ⟨layout, shaped, rankOne, sizes⟩

theorem vector_inside (shaped : vector.value.layout? = some layout)
    (below : index < vector.size) : layout.Inside [index] := by
  obtain ⟨layout', shaped', -, sizes⟩ := layout_vector vector
  cases shaped.symm.trans shaped'
  unfold Layout.Inside
  rw [sizes]
  exact .cons below .nil

theorem vector_coordinates {coordinates : List Nat}
    (lies : vector.value.Lies coordinates name index) :
    ∃ position < vector.size, coordinates = [position] := by
  obtain ⟨layout, _, shaped, -, inside, -⟩ := lies
  obtain ⟨layout', shaped', -, sizes⟩ := layout_vector vector
  cases shaped.symm.trans shaped'
  unfold Layout.Inside at inside
  rw [sizes] at inside
  obtain ⟨position, rest, below, none, rfl⟩ := List.forall₂_cons_right_iff.mp inside
  cases none
  exact ⟨position, below, rfl⟩

theorem vector_element_admits (stands : vector.value.Stands state.heap name base)
    (named : scalar.At state.heap position) :
    Admits (vector.element scalar : Host ρ Scalar) state (position < vector.size)
      fun answer after => state.heap.Grows after.heap ∧
        Value.Window after.heap vector.value answer.value [] fun _ => [position] := by
  obtain ⟨layout, shaped, -, sizes⟩ := layout_vector vector
  refine .iff (?_ : Admits _ state (position < vector.size ∧ True) _) (and_iff_left trivial)
  exact .below named fun below =>
    element_admits stands shaped (.cons named .nil) (vector_inside shaped below)

theorem checkPart_done (named : scalar.At state.heap position)
    (within : position + size ≤ vector.size) :
    (vector.checkPart scalar size : Host ρ Unit) state = .ok () state := by
  refine (bind_of_ok (knownPosition_done named)).trans ?_
  dsimp only [Option.getD_some]
  rw [if_neg (Nat.not_lt.mpr within)]
  rfl

theorem checkPart_fails (named : scalar.At state.heap position)
    (outside : vector.size < position + size) :
    (vector.checkPart scalar size : Host ρ Unit) state =
      .error (.error (.indexOutOfRange (position + size) vector.size)) state := by
  refine (bind_of_ok (knownPosition_done named)).trans ?_
  dsimp only [Option.getD_some]
  rw [if_pos outside]
  rfl

theorem vector_part_admits (stands : vector.value.Stands state.heap name base)
    (named : scalar.At state.heap position) :
    Admits (vector.part scalar size : Host ρ Vector) state (position + size ≤ vector.size)
      fun answer after => state.heap.Grows after.heap ∧ Value.Window after.heap vector.value
        answer.value [size] (List.zipWith (· + ·) [position]) := by
  obtain ⟨layout, shaped, rankOne, sizes⟩ := layout_vector vector
  refine .iff (?_ : Admits _ state (position + size ≤ vector.size ∧ True) _)
    (and_iff_left trivial)
  refine .guarded (checkPart_done named)
    (fun outside => ⟨_, _, _, checkPart_fails named (Nat.not_le.mp outside)⟩) fun within => ?_
  have room : List.Forall₂ (· ≤ ·) (List.zipWith (· + ·) [position] [size])
      layout.logicalSizes := by
    rw [sizes]
    exact .cons within .nil
  have long (only : Nat) : [only].length = layout.rank := rankOne.symm
  obtain ⟨view, resized, ranked, empty, nonempty⟩ :=
    stands.window_of_part shaped (long position) (long size) room
  have rankOne := ranked.trans rankOne
  have shape : (do (← vector.value.layout).resized [size]) = Except.ok view := by
    rw [Value.layout, shaped]
    exact resized
  refine .of_done (ofExcept_ok.mpr ⟨shape, rfl⟩) ?_
  dsimp only
  split
  · rename_i none
    obtain ⟨fits, window⟩ := empty (by grind)
    obtain ⟨part, done, same⟩ := vector_done vector.value stands.typed stands.place rankOne fits
    refine .of_answer ((bind_of_ok rfl).trans done) ⟨.refl _, ?_⟩
    rw [same]
    exact window
  · rename_i some
    obtain ⟨fits, window⟩ := nonempty (by grind)
    obtain ⟨part, done, same⟩ :=
      vector_done (vector.value.moved name _) stands.typed rfl rankOne fits
    refine .of_answer ((bind_of_ok (offset_done stands shaped (.cons named .nil)
      (long position) (by omega))).trans done) ⟨.refl _, ?_⟩
    rw [same]
    exact window

end Vectors

end Host
end TensorGraph

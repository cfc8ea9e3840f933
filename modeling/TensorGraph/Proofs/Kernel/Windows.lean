/-
Loops over coordinates that come to their end.

A storage that is seen in some sizes has an element at each of their coordinates,
and is known by these elements.  Where the elements of a target are replaced in
several steps, or through a view, all that no step reaches stays as it was.

A loop over the coordinates of a layout keeps what each of its turns takes one
step further, and writes to one storage alone.  So a loop over the places of a
window takes what it finds there into a scalar, one after the other, and a loop
over the coordinates of a target replaces all its elements.
-/

import TensorGraph.Proofs.Kernel.Tabulated

namespace TensorGraph

namespace Layout

variable {sizes coordinates : List Nat}

theorem inside_packed :
    (packed sizes).Inside coordinates ↔ List.Forall₂ (· < ·) coordinates sizes := by
  rw [Inside, logicalSizes_packed]

theorem rowIndex_lt (inside : (packed sizes).Inside coordinates) :
    rowIndex sizes coordinates < TensorGraph.elementCount sizes := by
  have below := inside.place_lt
  rwa [place_packed_eq (inside_packed.mp inside).length_eq, span_packed] at below

/-- Coordinates in planes are a row, a column and a channel. -/
theorem planes_of_inside {layout : Layout} {rows columns channels : Nat}
    (sizes : layout.logicalSizes = [rows, columns, channels]) (inside : layout.Inside coordinates) :
    ∃ row column channel, coordinates = [row, column, channel] ∧ row < rows ∧ column < columns ∧
      channel < channels := by
  unfold Inside at inside
  rw [sizes] at inside
  obtain _ | ⟨top, _ | ⟨side, _ | ⟨depth, _ | _⟩⟩⟩ := inside
  exact ⟨_, _, _, rfl, top, side, depth⟩

end Layout

/-- The element at some coordinates of a storage that is seen in some sizes. -/
def Storage.entry (data : Storage) (sizes coordinates : List Nat) : Literal :=
  data.item (Layout.rowIndex sizes coordinates)

theorem Storage.dtype_entry {data : Storage} {sizes coordinates : List Nat}
    (sized : data.size = elementCount sizes) (inside : (Layout.packed sizes).Inside coordinates) :
    (data.entry sizes coordinates).dtype = data.dtype :=
  data.dtype_item ((Layout.rowIndex_lt inside).trans_eq sized.symm)

/-- The elements of a storage, in some sizes, are those of a function of coordinates. -/
structure Storage.Holds (data : Storage) (dtype : DType) (sizes : List Nat)
    (element : List Nat → Except Error Literal) : Prop where
  typed : data.dtype = dtype
  sized : data.size = elementCount sizes
  each : ∀ coordinates, (Layout.packed sizes).Inside coordinates →
    element coordinates = .ok (data.entry sizes coordinates)

theorem Value.Fills.get_entry {value : Value} {heap : Heap} {name : Nat}
    {sizes coordinates : List Nat} {data : Storage} (fills : value.Fills heap name sizes data)
    (inside : (Layout.packed sizes).Inside coordinates) :
    value.get coordinates heap = .ok (data.entry sizes coordinates) := by
  rw [fills.get_eq inside]
  exact Storage.get_item ((Layout.rowIndex_lt inside).trans_eq fills.sized.symm)

/-- Storages that are seen in the same sizes are the same if all their elements are. -/
theorem Storage.ext_entry {data other : Storage} {sizes : List Nat}
    (typed : data.dtype = other.dtype) (sized : data.size = elementCount sizes)
    (sized' : other.size = elementCount sizes)
    (same : ∀ coordinates, (Layout.packed sizes).Inside coordinates →
      data.entry sizes coordinates = other.entry sizes coordinates) : data = other := by
  refine ext_get typed (sized.trans sized'.symm) fun index below => ?_
  have listed : index ∈ (Layout.packed sizes).positions := by
    rw [Layout.positions_packed]
    exact List.mem_range.mpr (below.trans_eq sized)
  rw [Layout.positions_eq] at listed
  obtain ⟨coordinates, member, rfl⟩ := List.mem_map.mp listed
  have inside := Layout.mem_rowMajor_layout.mp member
  have counted := (Layout.inside_packed.mp inside).length_eq
  rw [Layout.place_packed_eq counted] at below ⊢
  rw [Storage.get_item below, Storage.get_item (below.trans_eq (sized.trans sized'.symm))]
  exact congrArg Except.ok (same coordinates inside)

/-- What a storage holds once all elements of a value that shows the whole of it were replaced. -/
theorem Value.Fills.of_rewritten {value : Value} {heap after : Heap} {name : Nat}
    {sizes : List Nat} {old : Storage} {makes : List Nat → Literal → Prop}
    (fills : value.Fills heap name sizes old)
    (rewritten : value.Rewritten makes Set.univ heap after) :
    ∃ new, value.Fills after name sizes new ∧ new.dtype = old.dtype ∧
      ∀ coordinates, (Layout.packed sizes).Inside coordinates →
        makes coordinates (new.entry sizes coordinates) := by
  have typed := rewritten.keeps.dtype name fills.known
  have sized := rewritten.keeps.size name fills.known
  rw [fills.held] at typed sized
  have later := fills.changed rewritten.keeps.next rfl typed sized
  refine ⟨_, later, typed, fun coordinates inside => ?_⟩
  have lies := (later.stands.lies_iff later.shaped).mpr ⟨inside, rfl, rfl⟩
  obtain ⟨element, made, read⟩ := rewritten.each coordinates (Set.mem_univ _) _ _ lies
  rw [← lies.get, later.get_entry inside] at read
  cases read
  exact made

/-! ### Targets that are replaced -/

namespace Value.Rewritten

variable {target view : Value} {heap middle after : Heap} {name base other : Nat}
  {makes makes' : List Nat → Literal → Prop} {visited visited' : Set (List Nat)}

/-- What was there before the storages that were added is not otherwise written either. -/
theorem of_grown (growing : heap.Grows middle)
    (rewritten : target.Rewritten makes visited middle after) :
    target.Rewritten makes visited heap after where
  keeps := (Heap.Keeps.of_grows growing).trans rewritten.keeps
  each := rewritten.each
  beside := by
    intro name known index apart
    rw [rewritten.beside name (known.trans_le growing.next) index apart, growing.kept name known]

/-- A storage that is new may be written in between. -/
theorem spares (rewritten : target.Rewritten makes visited heap middle)
    (stands : target.Stands heap name base) (spares : middle.Spares other after)
    (new : heap.next ≤ other) : target.Rewritten makes visited heap after where
  keeps := rewritten.keeps.trans spares.keeps
  each := by
    intro coordinates member storage index lies
    obtain ⟨element, made, read⟩ := rewritten.each coordinates member storage index lies
    obtain ⟨rfl, -⟩ := stands.lies_lt lies
    refine ⟨element, made, ?_⟩
    rwa [Heap.cell, spares.others storage (stands.known.trans_le rewritten.keeps.next)
      (stands.known.trans_le new).ne]
  beside := by
    intro storage known index apart
    rw [spares.others storage (known.trans_le rewritten.keeps.next) (known.trans_le new).ne]
    exact rewritten.beside storage known index apart

/-- What is replaced twice is what it was replaced by last. -/
theorem again (first : target.Rewritten makes visited heap middle)
    (second : target.Rewritten makes' visited middle after) :
    target.Rewritten makes' visited heap after where
  keeps := first.keeps.trans second.keeps
  each := second.each
  beside := by
    intro storage known index apart
    rw [second.beside storage (known.trans_le first.keeps.next) index apart]
    exact first.beside storage known index apart

/-- Elements that are replaced through a view are replaced in what it is a view of. -/
theorem through {sizes : List Nat} {through : List Nat → List Nat}
    (rewritten : target.Rewritten makes visited heap middle)
    (inner : view.Rewritten makes' Set.univ middle after) (stands : target.Stands heap name base)
    (window : Window middle target view sizes through)
    (made : ∀ coordinates element, makes' coordinates element →
      List.Forall₂ (· < ·) coordinates sizes → makes (through coordinates) element)
    (all : ∀ coordinates, coordinates ∈ visited' ↔ coordinates ∈ visited ∨
      ∃ inside, List.Forall₂ (· < ·) inside sizes ∧ coordinates = through inside) :
    target.Rewritten makes visited' heap after where
  keeps := rewritten.keeps.trans inner.keeps
  each := by
    intro coordinates member storage index lies
    by_cases seen : ∃ inside, List.Forall₂ (· < ·) inside sizes ∧ coordinates = through inside
    · obtain ⟨inside, within, rfl⟩ := seen
      obtain ⟨element, made', read⟩ := inner.each inside (Set.mem_univ _) storage index
        ((window.lies _ _ _).mpr ⟨within, lies⟩)
      exact ⟨element, made _ _ made' within, read⟩
    · obtain ⟨element, made', read⟩ := rewritten.each coordinates
        (((all coordinates).mp member).resolve_right seen) storage index lies
      obtain ⟨rfl, -⟩ := stands.lies_lt lies
      refine ⟨element, made', Heap.cell_eq_ok.mpr ?_⟩
      rw [inner.beside storage (stands.known.trans_le rewritten.keeps.next) index
        fun inside _ shown => ?_]
      · exact Heap.cell_eq_ok.mp read
      · obtain ⟨within, lies'⟩ := (window.lies _ _ _).mp shown
        exact seen ⟨inside, within, stands.lies_inj lies lies'⟩
  beside := by
    intro storage known index apart
    rw [inner.beside storage (known.trans_le rewritten.keeps.next) index fun inside _ shown => ?_]
    · exact rewritten.beside storage known index fun coordinates member =>
        apart coordinates ((all coordinates).mpr (.inl member))
    · obtain ⟨within, lies⟩ := (window.lies _ _ _).mp shown
      exact apart _ ((all _).mpr (.inr ⟨inside, within, rfl⟩)) lies

end Value.Rewritten

namespace Host

variable {ρ : Type} {state : HostState ρ} {heap : Heap} {name : Nat}
  {body : List Scalar → Host ρ Unit} {left right : Scalar} {first second : Nat}

/-! ### Indices that are computed -/

private theorem counts_binary {op : BinaryOp} {total : Nat}
    (reads : Reads state.heap left (.i64 (Int64.ofNat first)))
    (reads' : Reads state.heap right (.i64 (Int64.ofNat second)))
    (evaluated : (Literal.i64 (Int64.ofNat first)).binary op (.i64 (Int64.ofNat second)) =
      .ok (.i64 (Int64.ofNat total))) (known : name < state.heap.next) :
    Yields (left.binary op right : Host ρ Scalar) state fun scalar after =>
      state.heap.Grows after.heap ∧ Counts after.heap name scalar total := by
  refine .of_done (binary_done reads reads' rfl evaluated)
    ⟨.add _ _, state.heap.next, known.ne', ?_, rfl, ?_⟩
  · change _ < (state.heap.add _).next
    rw [Heap.next_add]
    exact Nat.lt_succ_self _
  · change ((state.heap.add _).storage state.heap.next).cells[0]? = _
    rw [Heap.storage_add_self]
    rfl

theorem counts_sum (reads : Reads state.heap left (.i64 (Int64.ofNat first)))
    (reads' : Reads state.heap right (.i64 (Int64.ofNat second)))
    (known : name < state.heap.next) :
    Yields (left.binary .add right : Host ρ Scalar) state fun scalar after =>
      state.heap.Grows after.heap ∧ Counts after.heap name scalar (first + second) :=
  counts_binary reads reads'
    (congrArg (fun total => Except.ok (Literal.i64 total)) (Int64.ofNat_add ..).symm) known

theorem counts_product (reads : Reads state.heap left (.i64 (Int64.ofNat first)))
    (reads' : Reads state.heap right (.i64 (Int64.ofNat second)))
    (known : name < state.heap.next) :
    Yields (left.binary .mul right : Host ρ Scalar) state fun scalar after =>
      state.heap.Grows after.heap ∧ Counts after.heap name scalar (first * second) :=
  counts_binary reads reads'
    (congrArg (fun total => Except.ok (Literal.i64 total)) (Int64.ofNat_mul ..).symm) known

/-- Indices that stand for coordinates of elements are positions. -/
theorem named_of_inside {layout : Layout} {scalars : List Scalar} {coordinates : List Nat}
    (counted : List.Forall₂ (Counts heap name) scalars coordinates)
    (inside : layout.Inside coordinates) (counts : layout.elementCount ≤ Nat.pow 2 63) :
    List.Forall₂ (Scalar.At heap) scalars coordinates := by
  refine named_of_counts counted fun coordinate member => ?_
  have below := inside.lt_elementCount member
  rw [Layout.elementCount_logicalSizes] at below
  exact below.trans_le counts

theorem index_yields (index : Nat) (known : name < state.heap.next) :
    Yields (Scalar.index index : Host ρ Scalar) state fun scalar after =>
      state.heap.Grows after.heap ∧ Counts after.heap name scalar index :=
  .of_done rfl (counts_of_index known rfl)

/-- An element at indices that count to its coordinates. -/
theorem entry_reads {value : Value} {sizes coordinates : List Nat} {data : Storage}
    {indices : List Scalar} (fills : value.Fills state.heap name sizes data)
    (reads : List.Forall₂ (fun index coordinate =>
      Reads state.heap index (.i64 (Int64.ofNat coordinate))) indices coordinates)
    (inside : (Layout.packed sizes).Inside coordinates) (counts : data.size ≤ Nat.pow 2 63) :
    ∃ scalar, (Kernel.element value indices : Host ρ Scalar) state = .ok scalar state ∧
      Reads state.heap scalar (data.entry sizes coordinates) := by
  refine element_reads fills.stands fills.shaped ?_ inside (fills.get_entry inside)
  refine (List.forall₂_iff_zip.mpr ⟨reads.length_eq, fun {index coordinate} member => ?_⟩)
  have below := inside.lt_elementCount (List.of_mem_zip member).2
  rw [Layout.logicalSizes_packed, ← fills.sized] at below
  exact Scalar.at_of_reads ((List.forall₂_iff_zip.mp reads).2 member) (below.trans_le counts)

/-- An element that is found from the origin of a window and the place in it. -/
theorem placed_yields {α : Type} {value : Value} {sizes : List Nat} {data : Storage}
    {row column a b channel : Scalar} {top side down across plane : Nat} {run : Scalar → Host ρ α}
    {holds : α → HostState ρ → Prop} (fills : value.Fills state.heap name sizes data)
    (row_at : Reads state.heap row (.i64 (Int64.ofNat top)))
    (column_at : Reads state.heap column (.i64 (Int64.ofNat side)))
    (a_at : Reads state.heap a (.i64 (Int64.ofNat down)))
    (b_at : Reads state.heap b (.i64 (Int64.ofNat across)))
    (channel_at : Reads state.heap channel (.i64 (Int64.ofNat plane)))
    (inside : (Layout.packed sizes).Inside [top + down, side + across, plane])
    (counts : data.size ≤ Nat.pow 2 63)
    (rest : ∀ scalar (after : HostState ρ), state.heap.Grows after.heap →
      Reads after.heap scalar (data.entry sizes [top + down, side + across, plane]) →
        Yields (run scalar) after holds) :
    Yields (do
      let r ← row.binary .add a
      let c ← column.binary .add b
      run (← Kernel.element value [r, c, channel]) : Host ρ α) state holds := by
  refine (counts_sum row_at a_at fills.known).bind fun r one ⟨growing₁, r_at⟩ => ?_
  refine (counts_sum (column_at.mono growing₁) (b_at.mono growing₁)
    (fills.known.trans_le growing₁.next)).bind fun c two ⟨growing₂, c_at⟩ => ?_
  have growing := growing₁.trans growing₂
  obtain ⟨scalar, found, reads⟩ := entry_reads (fills.grows growing)
    (.cons (r_at.reads.mono growing₂) (.cons c_at.reads (.cons (channel_at.mono growing) .nil)))
    inside counts
  exact .behind found (rest scalar two growing reads)

/-- An element at indices that count to its coordinates is overwritten. -/
theorem entry_written {target : Value} {base : Nat} {layout : Layout} {coordinates : List Nat}
    {indices : List Scalar} {scalar : Scalar} {element : Literal}
    (stands : target.Stands state.heap name base) (shaped : target.layout? = some layout)
    (counted : List.Forall₂ (Counts state.heap name) indices coordinates)
    (inside : layout.Inside coordinates) (counts : layout.elementCount ≤ Nat.pow 2 63)
    (reads : Reads state.heap scalar element) (typed : target.dtype? = some element.dtype) :
    Yields (do (← Kernel.element target indices).assign scalar : Host ρ Unit) state fun _ after =>
      state.heap.Written after.heap name (base + layout.place coordinates) [(0, element)] := by
  have named := named_of_inside counted inside counts
  refine .behind (element_done stands shaped named inside) ?_
  have lies := (stands.lies_iff shaped).mpr ⟨inside, rfl, rfl⟩
  exact assign_written stands.known (stands.lies_lt lies).2 reads
    (Option.some.inj (typed.symm.trans stands.typed))

/-! ### Loops over coordinates -/

/-- What the turns of a loop over all coordinates of some sizes take further. -/
structure Turns (name : Nat) (sizes : List Nat) (body : List Scalar → Host ρ Unit) (start : Heap)
    (holds : List (List Nat) → Heap → Prop) : Prop where
  grows : ∀ visited (heap later : Heap), holds visited heap → heap.Grows later →
    holds visited later
  turn : ∀ visited coordinates rest, Layout.rowMajor sizes = visited ++ coordinates :: rest →
    ∀ scalars (middle : HostState ρ), start.Spares name middle.heap → holds visited middle.heap →
      List.Forall₂ (Counts middle.heap name) scalars coordinates →
        Yields (body scalars) middle fun _ after =>
          middle.heap.Spares name after.heap ∧ holds (visited ++ [coordinates]) after.heap

/-- The coordinates that begin in the same way come behind each other. -/
private theorem rowMajor_block (size : Nat) (inner start : List Nat) :
    (Layout.rowMajor (size :: inner)).map (start ++ ·) =
      (List.range size).flatMap fun index =>
        (Layout.rowMajor inner).map ((start ++ [index]) ++ ·) := by
  rw [Layout.rowMajor, List.map_flatMap]
  refine congrArg (List.flatMap · _) (funext fun index => ?_)
  rw [List.map_map]
  refine List.map_congr_left fun rest _ => ?_
  rw [Function.comp_apply, List.append_assoc, List.singleton_append]

private theorem flatMap_split {α : Type} (block : Nat → List α) {index size : Nat}
    (below : index < size) : ∃ later, (List.range size).flatMap block =
      (List.range index).flatMap block ++ (block index ++ later) := by
  refine ⟨((List.range (size - (index + 1))).map (index + 1 + ·)).flatMap block, ?_⟩
  have counts : size = index + 1 + (size - (index + 1)) := by omega
  rw [counts, List.range_add, List.flatMap_append, List.range_succ, List.flatMap_append,
    List.flatMap_singleton, List.append_assoc, Nat.add_sub_cancel_left]

/-- The loops over the inner dimensions, behind what was visited before. -/
private theorem yields_visit {all : List Nat} {holds : List (List Nat) → Heap → Prop}
    (turns : Turns name all body heap holds) (sizes : List Nat) :
    ∀ (outer : List Scalar) (start : List Nat) (visited rest : List (List Nat))
      (middle : HostState ρ), name < middle.heap.next → heap.Spares name middle.heap →
      List.Forall₂ (Counts middle.heap name) outer start →
      Layout.rowMajor all = visited ++ ((Layout.rowMajor sizes).map (start ++ ·) ++ rest) →
      holds visited middle.heap →
        Yields (Kernel.visit sizes outer body : Host ρ Unit) middle fun _ after =>
          middle.heap.Spares name after.heap ∧
            holds (visited ++ (Layout.rowMajor sizes).map (start ++ ·)) after.heap := by
  induction sizes with
  | nil =>
      intro outer start visited rest middle _ spares counts whole held
      rw [Layout.rowMajor, List.map_singleton, List.append_nil] at whole ⊢
      exact turns.turn visited start rest whole outer middle spares held counts
  | cons size inner inductionHypothesis =>
      intro outer start visited rest middle known spares counts whole held
      rw [rowMajor_block] at whole ⊢
      let block (index : Nat) := (Layout.rowMajor inner).map ((start ++ [index]) ++ ·)
      let reached (count : Nat) (later : Heap) : Prop :=
        middle.heap.Spares name later ∧
          holds (visited ++ (List.range count).flatMap block) later
      refine @yields_turns ρ middle size _ reached ?_ ⟨.refl _ _, by simpa using held⟩
      rintro index below entered ⟨spares', held'⟩
      let named := Storage.singleton (.i64 (Int64.ofNat index))
      have growing : entered.heap.Grows (onto entered (entered.heap.add named)).heap := .add _ _
      have spares'' := spares'.trans (.of_grows growing)
      have counted : Counts (entered.heap.add named) name
          (alone (.i64 (Int64.ofNat index)) entered.heap.next) index :=
        (counts_of_index (known.trans_le spares'.keeps.next) (rfl :
          (onHeap (Scalar.ofIndex index) : Host ρ Scalar) entered = _)).2
      obtain ⟨later, split⟩ := flatMap_split block below
      refine (inductionHypothesis (outer ++ [_]) (start ++ [index]) _ (later ++ rest) _
        (known.trans_le spares''.keeps.next) (spares.trans spares'')
        (List.rel_append (counts.imp fun _ _ old => old.spared spares'') (.cons counted .nil)) ?_
        (turns.grows _ _ _ held' growing)).mono fun _ after both => ?_
      · rw [whole]
        change visited ++ ((List.range size).flatMap block ++ rest) =
          (visited ++ (List.range index).flatMap block) ++ (block index ++ (later ++ rest))
        rw [split]
        simp only [List.append_assoc]
      · refine ⟨spares''.trans both.1, ?_⟩
        rw [List.range_succ, List.flatMap_append, List.flatMap_singleton, ← List.append_assoc]
        exact both.2

/-- A loop over the coordinates of a layout takes what holds at its start through all its turns. -/
theorem yields_forEach {layout : Layout} {holds : List (List Nat) → Heap → Prop}
    (turns : Turns name layout.logicalSizes body state.heap holds) (known : name < state.heap.next)
    (start : holds [] state.heap) :
    Yields (Kernel.forEach layout body : Host ρ Unit) state fun _ after =>
      state.heap.Spares name after.heap ∧
        holds (Layout.rowMajor layout.logicalSizes) after.heap := by
  have same : (Layout.rowMajor layout.logicalSizes).map ([] ++ ·) =
      Layout.rowMajor layout.logicalSizes := List.map_id _
  have run := yields_visit turns layout.logicalSizes [] [] [] [] state known (.refl _ _) .nil
    (by rw [same, List.append_nil, List.nil_append]) start
  rwa [same] at run

theorem inside_of_split {layout : Layout} {coordinates : List Nat} {visited rest : List (List Nat)}
    (whole : Layout.rowMajor layout.logicalSizes = visited ++ coordinates :: rest) :
    layout.Inside coordinates := by
  refine Layout.mem_rowMajor_layout.mp ?_
  rw [whole]
  exact List.mem_append_right _ List.mem_cons_self

/-! ### Windows -/

section Window

/-- The number that is summed up stands in the first new storage. -/
theorem Sums.known {later : Heap} {dtype : DType} {old : Literal}
    (sums : Sums heap later (item dtype heap.next 0) old) : heap.next < later.next := by
  obtain ⟨_, _, place, known, -⟩ := sums.reads.place
  cases place
  exact known

variable {layout : Layout} {total : Scalar} {dtype : DType}
  {take : Literal → List Nat → Except Error Literal} {start sum : Literal}

/-- A number in a new storage, to begin with. -/
theorem begun_yields {α : Type} {dtype : DType} {start : Literal} {make : Scalar → Host ρ Scalar}
    {run : Scalar → Host ρ α} {holds : α → HostState ρ → Prop} (typed : start.dtype = dtype)
    (gives : ∀ total (middle : HostState ρ), Reads middle.heap total (.zero dtype) →
      Gives (make total) middle start)
    (rest : ∀ middle : HostState ρ, Sums state.heap middle.heap (item dtype state.heap.next 0) start →
      Yields (run (item dtype state.heap.next 0)) middle holds) :
    Yields (do
      let total ← Kernel.cell dtype
      total.assign (← make total)
      run total : Host ρ α) state holds := by
  refine .behind (cell_done dtype state) ?_
  have zero : Sums state.heap (state.heap.add (Storage.zeros dtype 1))
      (item dtype state.heap.next 0) (.zero dtype) := ⟨.add _ _, reads_zero dtype state.heap⟩
  obtain ⟨scalar, middle, made, growing, reads⟩ :=
    gives _ (onto state (state.heap.add (Storage.zeros dtype 1))) zero.reads
  have kind := Literal.dtype_zero dtype
  refine .behind made (((zero.grows growing).take (by rw [kind]) reads (typed.trans kind.symm)).bind
    fun _ next both => rest next both.1)

/-- The origin of the window that belongs to an element, at a distance for each of its
coordinates. -/
theorem origin_yields {α : Type} {row column stride : Scalar} {step : Nat}
    {run : Scalar → Scalar → Host ρ α} {holds : α → HostState ρ → Prop}
    (row_at : Reads state.heap row (.i64 (Int64.ofNat first)))
    (column_at : Reads state.heap column (.i64 (Int64.ofNat second)))
    (stride_at : Reads state.heap stride (.i64 (Int64.ofNat step))) (known : name < state.heap.next)
    (rest : ∀ top side (after : HostState ρ), state.heap.Grows after.heap →
      Counts after.heap name top (first * step) → Counts after.heap name side (second * step) →
        Yields (run top side) after holds) :
    Yields (do
      let top ← row.binary .mul stride
      let side ← column.binary .mul stride
      run top side : Host ρ α) state holds := by
  refine (counts_product row_at stride_at known).bind fun top one ⟨growing₁, top_at⟩ => ?_
  refine (counts_product (column_at.mono growing₁) (stride_at.mono growing₁)
    (known.trans_le growing₁.next)).bind fun side two ⟨growing₂, side_at⟩ => ?_
  exact rest top side two (growing₁.trans growing₂) (top_at.spared (.of_grows growing₂)) side_at

/-- A loop over the places of a window makes of a number in a new storage what `take` makes of it
from place to place. -/
theorem yields_window (placed : total = item dtype heap.next 0)
    (begun : Sums heap state.heap total start)
    (folded : (Layout.rowMajor layout.logicalSizes).foldlM take start = .ok sum)
    (turn : ∀ coordinates, layout.Inside coordinates → ∀ old new scalars (middle : HostState ρ),
      state.heap.Spares heap.next middle.heap → Sums heap middle.heap total old →
        take old coordinates = .ok new →
          List.Forall₂ (Counts middle.heap heap.next) scalars coordinates →
            Yields (body scalars) middle fun _ after =>
              middle.heap.Spares heap.next after.heap ∧ Sums heap after.heap total new) :
    Yields (Kernel.forEach layout body : Host ρ Unit) state fun _ after =>
      state.heap.Spares heap.next after.heap ∧ Sums heap after.heap total sum := by
  let taken (visited : List (List Nat)) (later : Heap) : Prop :=
    ∃ old, visited.foldlM take start = .ok old ∧ Sums heap later total old
  have known := (placed ▸ begun).known
  have turns : Turns heap.next layout.logicalSizes body state.heap taken := by
    refine ⟨?_, ?_⟩
    · rintro visited later last ⟨old, made, sums⟩ growing
      exact ⟨old, made, sums.grows growing⟩
    · rintro visited coordinates rest whole scalars middle spares ⟨old, made, sums⟩ counts
      have inside := inside_of_split whole
      -- the whole fold comes to its end, and so does its next step
      rw [whole, List.foldlM_append, made] at folded
      have left : (coordinates :: rest).foldlM take old = .ok sum := folded
      rw [List.foldlM_cons] at left
      obtain ⟨new, next, -⟩ := bind_eq_ok.mp left
      refine (turn coordinates inside old new scalars middle spares sums next counts).mono
        fun _ after both => ⟨both.1, new, ?_, both.2⟩
      rw [List.foldlM_append, made]
      change [coordinates].foldlM take old = .ok new
      rw [List.foldlM_cons, next]
      rfl
  refine (yields_forEach turns known ⟨start, rfl, begun⟩).mono fun _ after both => ?_
  obtain ⟨spares, old, made, sums⟩ := both
  cases folded.symm.trans made
  exact ⟨spares, sums⟩

end Window

/-! ### Targets -/

section Elements

variable {source target : Value} {before : Heap} {base name' base' : Nat} {layout : Layout}
  {makes : List Nat → Literal → Prop} {visited : Set (List Nat)} {coordinates : List Nat}
  {indices : List Scalar} {dtype : DType} {element : Literal} {new : Scalar}

theorem element_found (stands : source.Stands state.heap name base)
    (shaped : source.layout? = some layout) (typed : source.dtype? = some dtype)
    (named : List.Forall₂ (Scalar.At state.heap) indices coordinates)
    (inside : layout.Inside coordinates) :
    (Kernel.element source indices : Host ρ Scalar) state =
      .ok (item dtype name (base + layout.place coordinates)) state := by
  rw [Option.some.inj (typed.symm.trans stands.typed)]
  exact element_done stands shaped named inside

/-- An element of a source, while other elements of a target are replaced. -/
theorem element_before (rewritten : target.Rewritten makes visited before heap)
    (stands : source.Stands before name base) (stands' : target.Stands before name' base')
    (separate : target.Separate source) (shaped : source.layout? = some layout)
    (typed : source.dtype? = some dtype) (inside : layout.Inside coordinates)
    (fresh : coordinates ∉ visited) (read : source.get coordinates before = .ok element) :
    Reads heap (item dtype name (base + layout.place coordinates)) element := by
  have here := stands.keeps rewritten.keeps
  have lies := (stands.lies_iff shaped).mpr ⟨inside, rfl, rfl⟩
  have still := rewritten.get_beside stands lies (separate.unvisited stands' lies fresh) read
  rw [lies.get] at still
  rw [Option.some.inj (typed.symm.trans here.typed)]
  exact reads_cell here.known (Heap.cell_eq_ok.mp still)

/-- One more element of a target is replaced. -/
theorem element_rewritten (rewritten : target.Rewritten makes visited before state.heap)
    (stands : target.Stands before name base) (shaped : target.layout? = some layout)
    (typed : target.dtype? = some dtype) (inside : layout.Inside coordinates)
    (made : makes coordinates element) (reads : Reads state.heap new element)
    (kind : element.dtype = dtype) :
    Yields ((item dtype name (base + layout.place coordinates)).assign new : Host ρ Unit) state
      fun _ after => target.Rewritten makes (insert coordinates visited) before after.heap ∧
        state.heap.Spares name after.heap := by
  have here := stands.keeps rewritten.keeps
  have same := Option.some.inj (typed.symm.trans here.typed)
  have lies := (here.lies_iff shaped).mpr ⟨inside, rfl, rfl⟩
  rw [same]
  exact (assign_written here.known (here.lies_lt lies).2 reads (kind.trans same)).mono
    fun _ after written => ⟨rewritten.extend stands lies made written, .of_written written⟩

end Elements

/-- A loop over the coordinates of a target replaces all its elements, when each of its turns adds
storages and then writes one element. -/
theorem yields_rewrites {target : Value} {base : Nat} {layout : Layout}
    {makes : List Nat → Literal → Prop} (stands : target.Stands state.heap name base)
    (shaped : target.layout? = some layout)
    (turn : ∀ coordinates, layout.Inside coordinates → ∀ scalars (middle : HostState ρ),
      state.heap.Spares name middle.heap →
        List.Forall₂ (Counts middle.heap name) scalars coordinates →
          Yields (body scalars) middle fun _ after => ∃ grown element, middle.heap.Grows grown ∧
            makes coordinates element ∧
              grown.Written after.heap name (base + layout.place coordinates) [(0, element)]) :
    Yields (Kernel.forEach layout body : Host ρ Unit) state fun _ after =>
      target.Rewritten makes Set.univ state.heap after.heap := by
  have turns : Turns name layout.logicalSizes body state.heap fun visited later =>
      target.Rewritten makes {coordinates | coordinates ∈ visited} state.heap later := by
    refine ⟨fun visited later last rewritten growing => rewritten.grows stands growing, ?_⟩
    intro visited coordinates rest whole scalars middle spares rewritten counts
    have inside := inside_of_split whole
    refine (turn coordinates inside scalars middle spares counts).mono fun _ after one => ?_
    obtain ⟨grown, element, growing, made, written⟩ := one
    refine ⟨(Heap.Spares.of_grows growing).trans (.of_written written), ?_⟩
    have lies := (stands.lies_iff shaped).mpr ⟨inside, rfl, rfl⟩
    have more := (rewritten.grows stands growing).extend stands lies made written
    have all : insert coordinates {other | other ∈ visited} =
        {other | other ∈ visited ++ [coordinates]} := by
      ext other
      simp only [Set.mem_insert_iff, Set.mem_ofPred_eq, List.mem_append, List.mem_singleton]
      exact or_comm
    rwa [all] at more
  have none : {coordinates : List Nat | coordinates ∈ []} = ∅ := by simp
  refine (yields_forEach turns stands.known (none ▸ .start state.heap)).mono
    fun _ after both => both.2.whole fun coordinates storage index lies => ?_
  exact Layout.mem_rowMajor_layout.mpr ((stands.lies_iff shaped).mp lies).1

/-- A source in another storage is copied element by element. -/
theorem assign_yields {target source : Value} {base name' base' : Nat} {layout shape : Layout}
    (stands : target.Stands state.heap name base) (shaped : target.layout? = some layout)
    (stands' : source.Stands state.heap name' base') (shaped' : source.layout? = some shape)
    (same : layout.logicalSizes = shape.logicalSizes) (typed : source.dtype? = target.dtype?)
    (different : name' ≠ name) (counts : layout.elementCount ≤ Nat.pow 2 63) :
    Yields (Kernel.assign target source : Host ρ Unit) state fun _ after =>
      target.Rewritten (fun coordinates element => source.get coordinates state.heap = .ok element)
        Set.univ state.heap after.heap := by
  have typed' := Value.dtype_ok.mpr stands.typed
  have compatible := checkCompatible_done (stands.ready_iff.mpr shaped) (stands'.ready_iff.mpr shaped')
    same typed' (Value.dtype_ok.mpr (typed.trans stands.typed))
  have here : target.layout = .ok layout := by rw [Value.layout, shaped]
  refine .behind (ofExcept_ok.mpr ⟨compatible, rfl⟩) (.behind (ofExcept_ok.mpr ⟨here, rfl⟩) ?_)
  refine yields_rewrites stands shaped fun coordinates inside scalars middle spares counted => ?_
  have inside' : shape.Inside coordinates := by
    unfold Layout.Inside at inside ⊢
    rwa [← same]
  obtain ⟨element, read, kind⟩ := stands'.get_inside shaped' inside'
  have read' : source.get coordinates middle.heap = .ok element := by
    have lies := (stands'.lies_iff shaped').mpr ⟨inside', rfl, rfl⟩
    rw [lies.get] at read ⊢
    rwa [Heap.cell, spares.others name' stands'.known different]
  have named := named_of_inside counted inside counts
  obtain ⟨scalar, found, reads⟩ :=
    element_reads (stands'.keeps spares.keeps) shaped' named inside' read'
  have there := stands.keeps spares.keeps
  have lies := (there.lies_iff shaped).mpr ⟨inside, rfl, rfl⟩
  refine .behind (element_done there shaped named inside) (.behind found ?_)
  refine (assign_written there.known (there.lies_lt lies).2 reads ?_).mono fun _ after written =>
    ⟨_, element, .refl _, read, written⟩
  exact Option.some.inj (kind.symm.trans (typed.trans there.typed))

end Host
end TensorGraph

/-
Elements in order and without collision.

`rowMajor` lists the coordinates below some sizes in lexicographic order.  A walk
that counts the last dimension up and carries visits exactly them, in this order,
so the positions of a layout are the places of its coordinates.

The layouts that constructors and views give keep their axes apart: neighbours
along an axis lie further from each other than all inner axes reach.  So a
position determines the coordinates of its element, as digits of mixed radix,
whatever the order of the dimensions, the padding and the axes sliced away.
-/

import TensorGraph.Proofs.Action
import TensorGraph.Proofs.Layout.Bounds

namespace TensorGraph.Layout

/-! ### All coordinates -/

/-- All coordinates below the sizes, the last dimension moving fastest. -/
def rowMajor : List Nat → List (List Nat)
  | [] => [[]]
  | size :: inner => (List.range size).flatMap fun first => (rowMajor inner).map (first :: ·)

theorem mem_rowMajor {sizes coordinates : List Nat} :
    coordinates ∈ rowMajor sizes ↔ List.Forall₂ (· < ·) coordinates sizes := by
  induction sizes generalizing coordinates with
  | nil => rw [rowMajor, List.mem_singleton, List.forall₂_nil_right_iff]
  | cons size inner inductionHypothesis =>
      simp only [rowMajor, List.mem_flatMap, List.mem_range, List.mem_map, inductionHypothesis,
        List.forall₂_cons_right_iff]
      constructor
      · rintro ⟨first, below, rest, inside, rfl⟩
        exact ⟨first, rest, below, inside, rfl⟩
      · rintro ⟨first, rest, below, inside, rfl⟩
        exact ⟨first, below, rest, inside, rfl⟩

theorem rowMajor_single (size : Nat) :
    rowMajor [size] = (List.range size).map fun index => [index] := by
  simp only [rowMajor, List.map_singleton]
  exact List.map_eq_flatMap.symm

/-- The coordinates stand in lexicographic order, and none stands there twice. -/
theorem rowMajor_sorted (sizes : List Nat) :
    (rowMajor sizes).Pairwise (List.Lex (· < ·)) := by
  induction sizes with
  | nil => exact List.pairwise_singleton _ _
  | cons size inner inductionHypothesis =>
      rw [rowMajor, List.pairwise_flatMap]
      refine ⟨fun first _ => ?_, List.pairwise_lt_range.imp fun earlier => ?_⟩
      · exact List.pairwise_map.mpr (inductionHypothesis.imp .cons)
      · intro left leftMember right rightMember
        obtain ⟨_, _, rfl⟩ := List.mem_map.mp leftMember
        obtain ⟨_, _, rfl⟩ := List.mem_map.mp rightMember
        exact .rel earlier

theorem rowMajor_nodup (sizes : List Nat) : (rowMajor sizes).Nodup := by
  refine (rowMajor_sorted sizes).imp ?_
  rintro left right earlier rfl
  exact List.lex_irrefl (fun _ => Nat.lt_irrefl _) left earlier

theorem length_rowMajor (sizes : List Nat) :
    (rowMajor sizes).length = TensorGraph.elementCount sizes := by
  induction sizes with
  | nil => rfl
  | cons size inner inductionHypothesis =>
      rw [rowMajor, List.length_flatMap, elementCount_cons]
      simp [inductionHypothesis]

/-! ### The walk -/

/-- A walk over `listed` begins at the origin, goes from each coordinates to their successor,
and would begin anew after the last ones. -/
structure Walked (sizes : List Nat) (listed : List (List Nat)) (start final : List Nat) : Prop where
  head : listed.head? = some start
  chain : listed.IsChain fun earlier later => successor sizes earlier = (later, false)
  last : ∀ coordinates ∈ listed.getLast?, successor sizes coordinates = (final, true)

theorem successor_cons_of_stays {size coordinate : Nat} {sizes coordinates inner : List Nat}
    (stays : successor sizes coordinates = (inner, false)) :
    successor (size :: sizes) (coordinate :: coordinates) = (coordinate :: inner, false) := by
  simp [successor, stays]

theorem successor_cons_of_carries {size coordinate : Nat} {sizes coordinates inner : List Nat}
    (carries : successor sizes coordinates = (inner, true)) :
    successor (size :: sizes) (coordinate :: coordinates) =
      if coordinate + 1 < size then ((coordinate + 1) :: inner, false) else (0 :: inner, true) := by
  simp [successor, carries]

/-- The walk over the coordinates whose first one is `first` or one of the `more` after it. -/
private theorem walked_blocks {size : Nat} {inner zeros : List Nat}
    {listed : List (List Nat)} (walked : Walked inner listed zeros zeros) (first more : Nat)
    (ends : first + more + 1 = size) :
    Walked (size :: inner)
      ((List.range' first (more + 1)).flatMap fun first => listed.map (first :: ·))
      (first :: zeros) (0 :: zeros) := by
  have block : ∀ first : Nat,
      (listed.map (first :: ·)).IsChain fun earlier later =>
        successor (size :: inner) earlier = (later, false) := fun first =>
    List.isChain_map_of_isChain _ (fun _ _ => successor_cons_of_stays) walked.chain
  have final : ∀ first : Nat, ∀ coordinates ∈ (listed.map (first :: ·)).getLast?,
      successor (size :: inner) coordinates =
        if first + 1 < size then ((first + 1) :: zeros, false) else (0 :: zeros, true) := by
    intro first coordinates member
    rw [List.getLast?_map] at member
    obtain ⟨last, found, rfl⟩ := Option.mem_map.mp member
    exact successor_cons_of_carries (walked.last last found)
  induction more generalizing first with
  | zero =>
      rw [List.range'_one, List.flatMap_singleton]
      refine ⟨by rw [List.head?_map, walked.head]; rfl, block first, fun coordinates member => ?_⟩
      rw [final first coordinates member, if_neg (by omega)]
  | succ more inductionHypothesis =>
      have rest := inductionHypothesis (first + 1) (by omega)
      rw [List.range'_succ, List.flatMap_cons]
      refine ⟨?_, List.isChain_append.mpr ⟨block first, rest.chain, ?_⟩, ?_⟩
      · rw [List.head?_append, List.head?_map, walked.head]
        rfl
      · intro earlier earlierMember later laterMember
        rw [rest.head] at laterMember
        cases laterMember
        rw [final first earlier earlierMember, if_pos (by omega)]
      · intro coordinates member
        refine rest.last coordinates ?_
        rw [List.getLast?_append] at member
        cases found : ((List.range' (first + 1) (more + 1)).flatMap fun first =>
          listed.map (first :: ·)).getLast? with
        | none =>
            rw [List.getLast?_eq_none_iff] at found
            have head := rest.head
            rw [found] at head
            cases head
        | some last =>
            rw [found] at member
            exact member

theorem walked_rowMajor {sizes : List Nat} (positive : ∀ size ∈ sizes, 0 < size) :
    Walked sizes (rowMajor sizes) (List.replicate sizes.length 0)
      (List.replicate sizes.length 0) := by
  induction sizes with
  | nil =>
      refine ⟨rfl, List.isChain_singleton _, fun coordinates member => ?_⟩
      cases member
      rfl
  | cons size inner inductionHypothesis =>
      have some := positive size List.mem_cons_self
      have walked := inductionHypothesis fun other member =>
        positive other (List.mem_cons_of_mem _ member)
      have blocks := walked_blocks walked 0 (size - 1)
        (show 0 + (size - 1) + 1 = size by omega)
      rw [Nat.sub_add_cancel some, ← List.range_eq_range'] at blocks
      exact blocks

theorem visits_of_chain {sizes current : List Nat} {rest visited : List (List Nat)}
    (chain : (current :: rest).IsChain fun earlier later =>
      successor sizes earlier = (later, false)) :
    visits sizes (rest.length + 1) current visited = visited.reverse ++ current :: rest := by
  induction rest generalizing current visited with
  | nil => simp [visits]
  | cons next rest inductionHypothesis =>
      rw [List.isChain_cons_cons] at chain
      rw [List.length_cons, visits, chain.1, inductionHypothesis chain.2, List.reverse_cons,
        List.append_assoc]
      rfl

/-- A walk of as many steps as there are coordinates visits all of them. -/
theorem visits_rowMajor (sizes : List Nat) :
    visits sizes (TensorGraph.elementCount sizes) (List.replicate sizes.length 0) [] =
      rowMajor sizes := by
  by_cases positive : ∀ size ∈ sizes, 0 < size
  · have walked := walked_rowMajor positive
    rw [← length_rowMajor]
    cases listed : rowMajor sizes with
    | nil =>
        have head := walked.head
        rw [listed] at head
        cases head
    | cons current rest =>
        have head := walked.head
        have chain := walked.chain
        rw [listed] at head chain
        cases head
        exact visits_of_chain chain
  · push Not at positive
    obtain ⟨size, member, empty⟩ := positive
    obtain rfl := Nat.le_zero.mp empty
    have none : TensorGraph.elementCount sizes = 0 := by
      rw [TensorGraph.elementCount, ← List.prod_eq_foldl]
      exact List.prod_eq_zero member
    rw [none, eq_comm, visits, List.reverse_nil, ← List.length_eq_zero_iff, length_rowMajor, none]

variable {layout view : Layout}

/-! ### Places as distances -/

private theorem foldl_add {α : Type} (items : List α) (part : α → Nat) (start : Nat) :
    items.foldl (fun total item => total + part item) start = start + (items.map part).sum := by
  induction items generalizing start with
  | nil => rfl
  | cons item rest inductionHypothesis =>
      rw [List.foldl_cons, inductionHypothesis, List.map_cons, List.sum_cons, Nat.add_assoc]

theorem place_eq_sum (layout : Layout) (coordinates : List Nat) :
    layout.place coordinates = (layout.axes.map fun axis =>
      (coordinates.getD axis.logical 0 + axis.offset) * axis.increment).sum := by
  rw [place, foldl_add, Nat.zero_add]

private theorem sum_zip {left right : List Nat} (same : left.length = right.length) :
    ((left.zip right).map fun pair => pair.1 * pair.2).sum =
      ((List.range right.length).map fun index => left.getD index 0 * right.getD index 0).sum := by
  congr 1
  refine List.ext_getElem (by simp [same]) fun index here there => ?_
  have below : index < right.length := by simpa using there
  have below' : index < left.length := same.symm ▸ below
  simp [below, below']

theorem distance_eq {coordinates strides : List Nat}
    (same : coordinates.length = strides.length) :
    distance coordinates strides = ((List.range strides.length).map fun dimension =>
      coordinates.getD dimension 0 * strides.getD dimension 0).sum := by
  rw [← sum_zip same, distance, foldl_add, Nat.zero_add]

theorem length_logicalStrides (layout : Layout) : layout.logicalStrides.length = layout.rank := by
  simp [logicalStrides]

theorem logicalStrides_axis {axis : Axis} (member : axis ∈ layout.axes) :
    layout.logicalStrides.getD axis.logical 0 = axis.increment := by
  have within := logical_lt member
  rw [List.getD_eq_getElem?_getD, logicalStrides, List.getElem?_map, List.getElem?_range within,
    Option.map_some, axisOf?_logical member]
  rfl

/-- A sum over the axes in physical order is the sum over their dimensions in logical order. -/
theorem sum_axes (layout : Layout) (part : Nat → Nat) :
    (layout.axes.map fun axis => part axis.logical).sum =
      ((List.range layout.rank).map part).sum := by
  have same := (layout.ordered.map part).sum_eq
  rwa [List.map_map] at same

/-- Positions are counted from the origin along the logical dimensions. -/
theorem place_eq {coordinates : List Nat} (same : coordinates.length = layout.rank) :
    layout.place coordinates =
      layout.origin + distance coordinates layout.logicalStrides := by
  rw [place, origin, foldl_add, foldl_add,
    distance_eq (same.trans layout.length_logicalStrides.symm), length_logicalStrides, ← sum_axes,
    Nat.zero_add, Nat.zero_add, ← List.sum_map_add]
  congr 1
  refine List.map_congr_left fun axis member => ?_
  rw [logicalStrides_axis member]
  ring

theorem logicalSizes_perm (layout : Layout) : layout.logicalSizes.Perm layout.sizes := by
  have stored : (layout.axes.map Axis.logical).map
      (fun logical => ((layout.axisOf? logical).map Axis.size).getD 0) = layout.sizes := by
    rw [List.map_map, Layout.sizes]
    refine List.map_congr_left fun axis member => ?_
    simp [axisOf?_logical member]
  rw [← stored]
  exact (layout.ordered.map _).symm

theorem elementCount_logicalSizes (layout : Layout) :
    TensorGraph.elementCount layout.logicalSizes = layout.elementCount := by
  rw [TensorGraph.elementCount, Layout.elementCount, ← List.prod_eq_foldl, ← List.prod_eq_foldl]
  exact layout.logicalSizes_perm.prod_eq

/-- The walk visits all coordinates of the layout. -/
theorem visits_layout (layout : Layout) :
    visits layout.logicalSizes layout.elementCount (List.replicate layout.rank 0) [] =
      rowMajor layout.logicalSizes := by
  rw [← elementCount_logicalSizes, ← length_logicalSizes]
  exact visits_rowMajor layout.logicalSizes

theorem mem_rowMajor_layout {coordinates : List Nat} :
    coordinates ∈ rowMajor layout.logicalSizes ↔ layout.Inside coordinates :=
  mem_rowMajor

/-- The positions of a layout are the places of its coordinates, in row-major order. -/
theorem positions_eq (layout : Layout) :
    layout.positions = (rowMajor layout.logicalSizes).map layout.place := by
  unfold positions
  rw [visits_layout]
  refine List.map_congr_left fun coordinates member => ?_
  rw [place_eq ((mem_rowMajor.mp member).length_eq.trans layout.length_logicalSizes)]

theorem length_positions (layout : Layout) : layout.positions.length = layout.elementCount := by
  rw [positions_eq, List.length_map, length_rowMajor, elementCount_logicalSizes]

theorem lt_span_of_mem_positions {position : Nat} (member : position ∈ layout.positions) :
    position < layout.span := by
  rw [positions_eq] at member
  obtain ⟨coordinates, inside, rfl⟩ := List.mem_map.mp member
  exact Inside.place_lt (mem_rowMajor_layout.mp inside)

/-! ### Axes that are nested -/

/-- How far the axes reach from their first element on. -/
def reach (axes : List Axis) : Nat :=
  (axes.map fun axis => (axis.extent - 1) * axis.increment).sum

/-- Neighbours along an axis lie further apart than all axes behind it reach. -/
def Nested : List Axis → Prop
  | [] => True
  | axis :: inner => reach inner < axis.increment ∧ Nested inner

theorem reach_sublist {some all : List Axis} (sublist : some.Sublist all) :
    reach some ≤ reach all :=
  (sublist.map _).sum_le_sum fun _ _ => Nat.zero_le _

theorem Nested.sublist {some all : List Axis} (sublist : some.Sublist all)
    (nested : Nested all) : Nested some := by
  induction sublist with
  | slnil => trivial
  | cons axis rest inductionHypothesis => exact inductionHypothesis nested.2
  | cons_cons axis rest inductionHypothesis =>
      exact ⟨(reach_sublist rest).trans_lt nested.1, inductionHypothesis nested.2⟩

/-- Neither the sizes nor the padding nor the order of the dimensions matters. -/
theorem Nested.map {axes : List Axis} {change : Axis → Axis}
    (extent : ∀ axis, (change axis).extent = axis.extent)
    (increment : ∀ axis, (change axis).increment = axis.increment) (nested : Nested axes) :
    Nested (axes.map change) := by
  have same : ∀ axes : List Axis, reach (axes.map change) = reach axes := by
    intro axes
    rw [reach, reach, List.map_map]
    congr 1
    exact List.map_congr_left fun axis _ => by simp [extent, increment]
  induction axes with
  | nil => trivial
  | cons axis inner inductionHypothesis =>
      refine ⟨?_, inductionHypothesis nested.2⟩
      rw [same, increment]
      exact nested.1

/-- Extents packed row by row are nested, and reach as far as they have elements. -/
theorem nested_of_packed {axes : List Axis} (positive : ∀ axis ∈ axes, 0 < axis.extent)
    (packed : axes.map Axis.increment = packedIncrements (axes.map Axis.extent)) :
    Nested axes ∧ reach axes + 1 = TensorGraph.elementCount (axes.map Axis.extent) := by
  induction axes with
  | nil => exact ⟨trivial, rfl⟩
  | cons axis inner inductionHypothesis =>
      rw [List.map_cons, List.map_cons, packedIncrements, List.cons.injEq] at packed
      obtain ⟨distances, rest⟩ := packed
      have some := positive axis List.mem_cons_self
      obtain ⟨nested, count⟩ := inductionHypothesis
        (fun other member => positive other (List.mem_cons_of_mem _ member)) rest
      have increment : axis.increment = reach inner + 1 := distances.trans count.symm
      refine ⟨⟨by omega, nested⟩, ?_⟩
      rw [List.map_cons, elementCount_cons, ← count, reach, List.map_cons, List.sum_cons, increment]
      change (axis.extent - 1) * (reach inner + 1) + reach inner + 1 = _
      obtain ⟨less, more⟩ := Nat.exists_eq_add_of_le some
      rw [more, Nat.add_sub_cancel_left]
      ring

/-- Digits of mixed radix are determined by their sum. -/
theorem Nested.digits {axes : List Axis} (nested : Nested axes) {left right : Axis → Nat}
    (leftFits : ∀ axis ∈ axes, left axis < axis.extent)
    (rightFits : ∀ axis ∈ axes, right axis < axis.extent)
    (same : (axes.map fun axis => left axis * axis.increment).sum =
      (axes.map fun axis => right axis * axis.increment).sum) :
    ∀ axis ∈ axes, left axis = right axis := by
  have within : ∀ {digit : Axis → Nat} {axes : List Axis},
      (∀ axis ∈ axes, digit axis < axis.extent) →
        (axes.map fun axis => digit axis * axis.increment).sum ≤ reach axes := by
    intro digit axes fits
    refine List.sum_le_sum fun axis member => Nat.mul_le_mul_right _ ?_
    have := fits axis member
    omega
  induction axes with
  | nil => simp
  | cons axis inner inductionHypothesis =>
      rw [List.forall_mem_cons] at leftFits rightFits ⊢
      have leftRest := (within leftFits.2).trans_lt nested.1
      have rightRest := (within rightFits.2).trans_lt nested.1
      rw [List.map_cons, List.map_cons, List.sum_cons, List.sum_cons] at same
      have positive : 0 < axis.increment := (Nat.zero_le _).trans_lt nested.1
      have first : left axis = right axis := by
        have := congrArg (· / axis.increment) same
        rwa [Nat.mul_comm, Nat.mul_comm (right axis), Nat.mul_add_div positive,
          Nat.mul_add_div positive, Nat.div_eq_of_lt leftRest, Nat.div_eq_of_lt rightRest] at this
      rw [first] at same
      exact ⟨first, inductionHypothesis nested.2 leftFits.2 rightFits.2 (Nat.add_left_cancel same)⟩

/-! ### Layouts that are spaced -/

/-- The axes are nested, unless one of them has no room at all. -/
def Spaced (layout : Layout) : Prop :=
  (∀ axis ∈ layout.axes, 0 < axis.extent) → Nested layout.axes

theorem axes_of_ofAxes {axes : List Axis} (made : ofAxes axes = .ok layout) :
    layout.axes = axes := by
  unfold ofAxes at made
  split at made
  · split at made
    · cases made
      rfl
    · cases made
  · split at made <;> cases made

private theorem map_increment_packed (sizes : List Nat) (start : Nat) :
    (((sizes.zip (packedIncrements sizes)).zipIdx start).map fun entry => entry.1.2) =
      packedIncrements sizes := by
  induction sizes generalizing start with
  | nil => rfl
  | cons size inner inductionHypothesis =>
      rw [packedIncrements, List.zip_cons_cons, List.zipIdx_cons, List.map_cons,
        inductionHypothesis]

theorem spaced_packed (sizes : List Nat) : (packed sizes).Spaced := by
  intro positive
  refine (nested_of_packed positive ?_).1
  have extents : (packed sizes).axes.map Axis.extent = sizes :=
    (List.map_congr_left fun axis member => (extent_packed member).1).trans (sizes_packed sizes)
  rw [extents, axes_packed, List.map_map]
  exact map_increment_packed sizes 0

theorem spaced_reordered {sizes extents offsets order : List Nat}
    (made : reordered sizes extents offsets order = .ok layout) : layout.Spaced := by
  unfold reordered at made
  split at made
  case isFalse => cases made
  case isTrue same =>
    intro positive
    have axes := axes_of_ofAxes made
    refine (nested_of_packed positive ?_).1
    rw [axes, List.map_map, List.map_map]
    have listed : ∀ values : List Nat, values.length = sizes.length →
        (List.range sizes.length).map (fun position => values.getD position 0) = values := by
      intro values length
      refine List.ext_getElem (by simp [length]) fun index here there => ?_
      simp [there]
    have distances := listed (packedIncrements extents)
      ((length_packedIncrements extents).trans same.1)
    have rooms := listed extents same.1
    exact distances.trans (congrArg packedIncrements rooms.symm)

theorem spaced_columnMajor (rows columns : Nat) : (columnMajor rows columns).Spaced := by
  intro positive
  refine (nested_of_packed positive ?_).1
  simp [columnMajor, packedIncrements]

/-- An axis with room can be sliced away. -/
theorem Spaced.slice {position : Nat} {axis : Axis} (spaced : layout.Spaced)
    (found : layout.axes[position]? = some axis) (room : 0 < axis.extent)
    (made : layout.slice position = .ok view) : view.Spaced := by
  simp only [Layout.slice, axisAt, found, bind, Except.bind] at made
  intro positive
  rw [axes_of_ofAxes made] at positive ⊢
  refine .map (fun _ => rfl) (fun _ => rfl) (.sublist (List.eraseIdx_sublist _ _) (spaced ?_))
  intro other member
  obtain ⟨place, within, rfl⟩ := List.getElem_of_mem member
  by_cases same : place = position
  · subst same
    rw [List.getElem?_eq_getElem within, Option.some.injEq] at found
    rwa [found]
  · have kept : layout.axes[place] ∈ layout.axes.eraseIdx position :=
      List.mem_eraseIdx_iff_getElem.mpr ⟨place, within, same, rfl⟩
    exact List.forall_mem_map.mp positive _ kept

theorem Spaced.resized {sizes : List Nat} (spaced : layout.Spaced)
    (made : layout.resized sizes = .ok view) : view.Spaced := by
  unfold Layout.resized at made
  split at made
  · intro positive
    rw [axes_of_ofAxes made] at positive ⊢
    exact .map (fun _ => rfl) (fun _ => rfl)
      (spaced fun axis member => List.forall_mem_map.mp positive axis member)
  · cases made

/-- Every dimension is stored by an axis. -/
theorem exists_axis {dimension : Nat} (within : dimension < layout.rank) :
    ∃ axis ∈ layout.axes, axis.logical = dimension :=
  List.mem_map.mp (layout.ordered.mem_iff.mpr (List.mem_range.mpr within))

/-- No two elements of a spaced layout have the same place. -/
theorem Spaced.place_inj {left right : List Nat} (spaced : layout.Spaced)
    (leftInside : layout.Inside left) (rightInside : layout.Inside right)
    (same : layout.place left = layout.place right) : left = right := by
  have digit : ∀ {coordinates : List Nat}, layout.Inside coordinates → ∀ axis ∈ layout.axes,
      coordinates.getD axis.logical 0 + axis.offset < axis.extent := by
    intro coordinates inside axis member
    have below := inside.axis member
    have fits : axis.offset + axis.size ≤ axis.extent := layout.fits axis member
    omega
  have nested := spaced fun axis member =>
    (Nat.zero_le _).trans_lt (digit leftInside axis member)
  rw [place, place, foldl_add, foldl_add, Nat.zero_add, Nat.zero_add] at same
  have equal := nested.digits (digit leftInside) (digit rightInside) same
  have length : left.length = layout.rank :=
    leftInside.length_eq.trans layout.length_logicalSizes
  have length' : right.length = layout.rank :=
    rightInside.length_eq.trans layout.length_logicalSizes
  refine List.ext_getElem (length.trans length'.symm) fun dimension here there => ?_
  obtain ⟨axis, member, rfl⟩ := exists_axis (length ▸ here)
  have := equal axis member
  rw [List.getD_eq_getElem _ _ here, List.getD_eq_getElem _ _ there] at this
  omega

theorem Spaced.nodup_positions (spaced : layout.Spaced) : layout.positions.Nodup := by
  rw [positions_eq]
  refine (rowMajor_nodup _).map_on fun left leftMember right rightMember same => ?_
  exact spaced.place_inj (mem_rowMajor_layout.mp leftMember) (mem_rowMajor_layout.mp rightMember)
    same

/-! ### Layouts that were built -/

/-- The layouts that the constructors give, and their views. -/
inductive Built : Layout → Prop where
  | packed (sizes : List Nat) : Built (packed sizes)
  | scalar : Built scalar
  | padded {sizes extents offsets : List Nat} {layout : Layout}
      (made : Layout.padded sizes extents offsets = .ok layout) : Built layout
  | reordered {sizes extents offsets order : List Nat} {layout : Layout}
      (made : Layout.reordered sizes extents offsets order = .ok layout) : Built layout
  | columnMajor (rows columns : Nat) : Built (columnMajor rows columns)
  | slice {layout view : Layout} {position : Nat} {axis : Axis} (built : Built layout)
      (found : layout.axes[position]? = some axis) (room : 0 < axis.extent)
      (made : layout.slice position = .ok view) : Built view
  | resized {layout view : Layout} {sizes : List Nat} (built : Built layout)
      (made : layout.resized sizes = .ok view) : Built view
  | compact {layout : Layout} (built : Built layout) : Built layout.compact

theorem Built.spaced (built : Built layout) : layout.Spaced := by
  induction built with
  | packed sizes => exact spaced_packed sizes
  | scalar => exact spaced_packed []
  | padded made => exact spaced_reordered made
  | reordered made => exact spaced_reordered made
  | columnMajor rows columns => exact spaced_columnMajor rows columns
  | slice _ found room made inductionHypothesis => exact inductionHypothesis.slice found room made
  | resized _ made inductionHypothesis => exact inductionHypothesis.resized made
  | compact _ _ => exact spaced_packed _

/-- The physical position of a dimension is where the order names it. -/
theorem physicalDimension_eq_ok {position logical : Nat} :
    layout.physicalDimension logical = .ok position ↔ layout.order[position]? = some logical := by
  have found : layout.physicalDimension logical = .ok position ↔
      layout.axes.findIdx? (fun axis => axis.logical == logical) = some position := by
    unfold physicalDimension
    cases layout.axes.findIdx? fun axis => axis.logical == logical <;> simp
  rw [found, List.findIdx?_eq_some_iff_getElem, order, List.getElem?_map,
    Option.map_eq_some_iff]
  constructor
  · rintro ⟨within, here, _⟩
    exact ⟨_, List.getElem?_eq_getElem within, by simpa using here⟩
  · rintro ⟨axis, here, stored⟩
    obtain ⟨within, rfl⟩ := List.getElem?_eq_some_iff.mp here
    refine ⟨within, by simpa using stored, fun earlier before other => ?_⟩
    have distinct := List.pairwise_iff_getElem.mp layout.logical_nodup earlier position
      (by simpa using before.trans within) (by simpa using within) before
    rw [List.getElem_map, List.getElem_map, stored] at distinct
    exact distinct (by simpa using other)

/-- Where the elements of a layout lie. -/
structure Placed (layout : Layout) : Prop where
  lengths : layout.sizes.length = layout.rank ∧ layout.extents.length = layout.rank ∧
    layout.offsets.length = layout.rank ∧ layout.increments.length = layout.rank ∧
      layout.order.length = layout.rank
  fits : ∀ (dimension size extent offset : Nat), layout.sizes[dimension]? = some size →
    layout.extents[dimension]? = some extent → layout.offsets[dimension]? = some offset →
      offset + size ≤ extent
  permutation : layout.order.Perm (List.range layout.rank)
  inverse : ∀ position logical,
    layout.physicalDimension logical = .ok position ↔ layout.order[position]? = some logical
  /-- The listed coordinates are those in the active region, in row-major order. -/
  complete : ∀ coordinates, coordinates ∈ rowMajor layout.logicalSizes ↔
    List.Forall₂ (· < ·) coordinates layout.logicalSizes
  sorted : (rowMajor layout.logicalSizes).Pairwise (List.Lex (· < ·))
  listed : (rowMajor layout.logicalSizes).mapM layout.flatOffset = .ok layout.positions
  count : layout.positions.length = layout.elementCount
  distinct : layout.positions.Nodup
  below : ∀ position ∈ layout.positions, position < layout.span
  span_le : layout.span ≤ layout.memorySize

/-- The place of an element in row-major order. -/
def rowIndex : List Nat → List Nat → Nat
  | _ :: inner, first :: rest => first * TensorGraph.elementCount inner + rowIndex inner rest
  | _, _ => 0

theorem foldl_packed (sizes front coordinates : List Nat) (total : Nat)
    (counted : coordinates.length = sizes.length) :
    ((sizes.zip (packedIncrements sizes)).zipIdx front.length).foldl
      (fun total entry =>
        total + ((front ++ coordinates).getD entry.2 0 + 0) * entry.1.2) total =
      total + rowIndex sizes coordinates := by
  induction sizes generalizing front coordinates total with
  | nil => rfl
  | cons size inner inductionHypothesis =>
      obtain ⟨first, rest, rfl⟩ := List.exists_cons_of_length_eq_add_one counted
      have more := inductionHypothesis (front ++ [first]) rest
        (total + first * TensorGraph.elementCount inner) (Nat.succ.inj counted)
      rw [List.append_assoc, List.singleton_append, List.length_append, List.length_singleton]
        at more
      rw [packedIncrements, List.zip_cons_cons, List.zipIdx_cons, List.foldl_cons]
      have here : (front ++ first :: rest).getD front.length 0 = first := by
        rw [List.getD_eq_getElem?_getD, List.getElem?_append_right le_rfl, Nat.sub_self]
        rfl
      dsimp only
      rw [here, Nat.add_zero, rowIndex, ← Nat.add_assoc]
      exact more

theorem place_packed_eq {sizes coordinates : List Nat}
    (counted : coordinates.length = sizes.length) :
    (packed sizes).place coordinates = rowIndex sizes coordinates := by
  unfold place
  rw [axes_packed, List.foldl_map]
  exact (foldl_packed sizes [] coordinates 0 counted).trans (Nat.zero_add _)

theorem flatMap_range (size inner : Nat) :
    ((List.range size).flatMap fun first =>
      (List.range inner).map fun rest => first * inner + rest) = List.range (size * inner) := by
  induction size with
  | zero => simp
  | succ size inductionHypothesis =>
      rw [List.range_succ, List.flatMap_append, inductionHypothesis, List.flatMap_singleton,
        Nat.succ_mul, List.range_add]

theorem rowMajor_indexed (sizes : List Nat) :
    (rowMajor sizes).map (rowIndex sizes) = List.range (TensorGraph.elementCount sizes) := by
  induction sizes with
  | nil => rfl
  | cons size inner inductionHypothesis =>
      rw [rowMajor, elementCount_cons, ← flatMap_range, List.map_flatMap]
      refine List.flatMap_congr fun first _ => ?_
      rw [← inductionHypothesis, List.map_map, List.map_map]
      rfl

/-- The elements of a packed layout lie one after the other. -/
theorem positions_packed (sizes : List Nat) :
    (packed sizes).positions = List.range (TensorGraph.elementCount sizes) := by
  rw [positions_eq, logicalSizes_packed, ← rowMajor_indexed]
  exact List.map_congr_left fun coordinates member =>
    place_packed_eq (mem_rowMajor.mp member).length_eq

end TensorGraph.Layout

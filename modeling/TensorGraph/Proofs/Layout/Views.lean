/-
Layouts of views.

A view counts from its first element.  Neither a dimension that is removed nor
other sizes change the distances between neighbours, so an element of a view
lies as far from the first one as it does in the whole.
-/

import TensorGraph.Proofs.Layout.Placement

namespace TensorGraph.Layout

variable {layout view : Layout}

theorem ofAxes_ok {axes : List Axis} (fits : ∀ axis ∈ axes, axis.Fits)
    (ordered : (axes.map Axis.logical).Perm (List.range axes.length)) :
    ∃ layout, ofAxes axes = .ok layout ∧ layout.axes = axes := by
  unfold ofAxes
  rw [dif_pos fits, dif_pos ordered]
  exact ⟨_, rfl, rfl⟩

/-! ### Slices -/

/-- The number that a dimension has once another one is removed. -/
def renumbered (removed logical : Nat) : Nat :=
  if logical > removed then logical - 1 else logical

theorem map_renumbered_range {removed rank : Nat} (within : removed < rank) :
    ((List.range rank).erase removed).map (renumbered removed) = List.range (rank - 1) := by
  have front : (List.range removed).map (renumbered removed) = List.range removed := by
    refine (List.map_congr_left fun logical member => ?_).trans (List.map_id _)
    have below := List.mem_range.mp member
    exact if_neg (by omega)
  have back : (List.range' (removed + 1) (rank - (removed + 1))).map (renumbered removed) =
      List.range' removed (rank - (removed + 1)) := by
    rw [List.range'_eq_map_range, List.range'_eq_map_range, List.map_map]
    refine List.map_congr_left fun index _ => ?_
    have above : removed + 1 + index > removed := by omega
    rw [Function.comp_apply, renumbered, if_pos above]
    omega
  have joined := List.range'_append_1 (s := 0) (m := removed) (n := rank - (removed + 1))
  rw [Nat.zero_add] at joined
  rw [List.erase_range, Nat.min_eq_right within.le, List.map_append, front, back,
    List.range_eq_range', List.range_eq_range', joined]
  congr 1
  omega

/-- An axis of a slice. -/
def sliced (removed : Nat) (axis : Axis) : Axis :=
  { axis with
    offset := 0
    logical := renumbered removed axis.logical }

/-- The removed axis and the others are all of them. -/
theorem removed_perm {position : Nat} {removed : Axis}
    (found : layout.axes[position]? = some removed) :
    (removed :: layout.axes.eraseIdx position).Perm layout.axes := by
  obtain ⟨within, rfl⟩ := List.getElem?_eq_some_iff.mp found
  exact List.getElem_cons_eraseIdx_perm within

theorem removed_fresh {position : Nat} {removed axis : Axis}
    (found : layout.axes[position]? = some removed)
    (member : axis ∈ layout.axes.eraseIdx position) : axis.logical ≠ removed.logical := by
  have distinct := ((removed_perm found).map Axis.logical).nodup_iff.mpr layout.logical_nodup
  rw [List.map_cons, List.nodup_cons] at distinct
  intro same
  exact distinct.1 (same ▸ List.mem_map_of_mem member)

/-- Every axis can be sliced away. -/
theorem slice_ok {position : Nat} {removed : Axis}
    (found : layout.axes[position]? = some removed) :
    ∃ view, layout.slice position = .ok view ∧
      view.axes = (layout.axes.eraseIdx position).map (sliced removed.logical) := by
  have within := (List.getElem?_eq_some_iff.mp found).1
  have fits : ∀ axis ∈ (layout.axes.eraseIdx position).map (sliced removed.logical),
      axis.Fits := by
    refine List.forall_mem_map.mpr fun axis member => ?_
    have old : axis.offset + axis.size ≤ axis.extent :=
      layout.fits axis (List.mem_of_mem_eraseIdx member)
    change 0 + axis.size ≤ axis.extent
    omega
  have ordered : (((layout.axes.eraseIdx position).map (sliced removed.logical)).map
      Axis.logical).Perm (List.range
        ((layout.axes.eraseIdx position).map (sliced removed.logical)).length) := by
    have all := ((removed_perm found).map Axis.logical).trans layout.ordered
    rw [List.map_cons, List.cons_perm_iff_perm_erase] at all
    obtain ⟨member, rest⟩ := all
    have renamed := rest.map (renumbered removed.logical)
    rw [map_renumbered_range (List.mem_range.mp member), List.map_map] at renamed
    rw [List.map_map, List.length_map, List.length_eraseIdx, if_pos within]
    exact renamed
  obtain ⟨view, made, axes⟩ := ofAxes_ok fits ordered
  refine ⟨view, ?_, axes⟩
  simp only [slice, axisAt, found, bind, Except.bind]
  exact made

theorem axes_of_slice {position : Nat} {removed : Axis}
    (found : layout.axes[position]? = some removed) (made : layout.slice position = .ok view) :
    view.axes = (layout.axes.eraseIdx position).map (sliced removed.logical) := by
  obtain ⟨view', made', axes⟩ := slice_ok found
  cases made.symm.trans made'
  exact axes

theorem rank_of_slice {position : Nat} {removed : Axis}
    (found : layout.axes[position]? = some removed) (made : layout.slice position = .ok view) :
    view.rank + 1 = layout.rank := by
  have within := (List.getElem?_eq_some_iff.mp found).1
  rw [rank, rank, axes_of_slice found made, List.length_map, List.length_eraseIdx, if_pos within]
  omega

theorem logicalSizes_of_slice {position : Nat} {removed : Axis}
    (found : layout.axes[position]? = some removed) (made : layout.slice position = .ok view) :
    view.logicalSizes = layout.logicalSizes.eraseIdx removed.logical := by
  have counted := rank_of_slice found made
  have taken := logical_lt (List.mem_of_getElem? found)
  refine List.ext_getElem? fun dimension => ?_
  by_cases within : dimension < view.rank
  · -- the dimension had this number in the whole
    obtain ⟨old, below, different, number⟩ : ∃ old < layout.rank, old ≠ removed.logical ∧
        renumbered removed.logical old = dimension := by
      by_cases before : dimension < removed.logical
      · exact ⟨dimension, by omega, by omega, if_neg (by omega)⟩
      · exact ⟨dimension + 1, by omega, by omega, if_pos (by omega)⟩
    obtain ⟨axis, member, rfl⟩ := exists_axis below
    have kept : axis ∈ layout.axes.eraseIdx position := by
      refine (List.mem_cons.mp ((removed_perm found).mem_iff.mpr member)).resolve_left ?_
      rintro rfl
      exact different rfl
    have image : sliced removed.logical axis ∈ view.axes := by
      rw [axes_of_slice found made]
      exact List.mem_map_of_mem kept
    have sized := logicalSizes_axis image
    have sized' := logicalSizes_axis member
    rw [show (sliced removed.logical axis).logical = dimension from number] at sized
    rw [sized, List.getElem?_eraseIdx]
    unfold renumbered at number
    by_cases before : dimension < removed.logical
    · rw [if_pos before, ← show axis.logical = dimension by split at number <;> omega, sized']
      rfl
    · rw [if_neg before, ← show axis.logical = dimension + 1 by split at number <;> omega, sized']
      rfl
  · have outside : view.logicalSizes.length ≤ dimension := by
      rw [length_logicalSizes]
      omega
    have outside' : (layout.logicalSizes.eraseIdx removed.logical).length ≤ dimension := by
      rw [List.length_eraseIdx, length_logicalSizes, if_pos taken]
      omega
    rw [List.getElem?_eq_none outside, List.getElem?_eq_none outside']

theorem getD_insertIdx {coordinates : List Nat} {removed index : Nat}
    (within : removed ≤ coordinates.length) (logical : Nat) :
    (coordinates.insertIdx removed index).getD logical 0 =
      if logical = removed then index
      else coordinates.getD (renumbered removed logical) 0 := by
  rw [List.getD_eq_getElem?_getD, List.getElem?_insertIdx, List.getD_eq_getElem?_getD, renumbered]
  rcases Nat.lt_trichotomy logical removed with before | rfl | behind
  · rw [if_pos before, if_neg before.ne, if_neg (by omega)]
  · rw [if_neg (Nat.lt_irrefl _), if_pos rfl, if_pos rfl, if_pos within]
    rfl
  · rw [if_neg (by omega), if_neg behind.ne', if_neg behind.ne', if_pos behind]

/-- The place of an element in the whole is that of the first element of its slice and its
place in the slice. -/
theorem place_of_slice {position : Nat} {removed : Axis}
    (found : layout.axes[position]? = some removed) (made : layout.slice position = .ok view)
    {coordinates : List Nat} (counted : coordinates.length + 1 = layout.rank) (index : Nat) :
    layout.place (coordinates.insertIdx removed.logical index) =
      layout.place ((List.replicate coordinates.length 0).insertIdx removed.logical index) +
        view.place coordinates := by
  have taken := logical_lt (List.mem_of_getElem? found)
  have within : removed.logical ≤ coordinates.length := by omega
  have whole : ∀ rest : List Nat, removed.logical ≤ rest.length →
      layout.place (rest.insertIdx removed.logical index) =
        (index + removed.offset) * removed.increment +
          ((layout.axes.eraseIdx position).map fun axis =>
            (rest.getD (renumbered removed.logical axis.logical) 0 + axis.offset) *
              axis.increment).sum := by
    intro rest room
    rw [place_eq_sum, ← ((removed_perm found).map _).sum_eq, List.map_cons, List.sum_cons,
      getD_insertIdx room, if_pos rfl]
    congr 2
    refine List.map_congr_left fun axis member => ?_
    rw [getD_insertIdx room, if_neg (removed_fresh found member)]
  rw [whole coordinates within, whole _ (within.trans_eq List.length_replicate.symm), Nat.add_assoc,
    place_eq_sum view, axes_of_slice found made, List.map_map, ← List.sum_map_add]
  congr 2
  refine List.map_congr_left fun axis _ => ?_
  have zero : (List.replicate coordinates.length 0).getD (renumbered removed.logical axis.logical)
      0 = 0 := by
    rw [List.getD_eq_getElem?_getD, List.getElem?_replicate]
    split <;> rfl
  rw [zero]
  change _ = _ + (coordinates.getD (renumbered removed.logical axis.logical) 0 + 0) *
    axis.increment
  ring

theorem flatOffset_of_slice {position : Nat} {removed : Axis}
    (found : layout.axes[position]? = some removed) (made : layout.slice position = .ok view)
    {coordinates : List Nat} (counted : coordinates.length + 1 = layout.rank) (index : Nat) :
    ∃ first rest,
      layout.flatOffset ((List.replicate coordinates.length 0).insertIdx removed.logical index) =
        .ok first ∧
      view.flatOffset coordinates = .ok rest ∧
      layout.flatOffset (coordinates.insertIdx removed.logical index) = .ok (first + rest) := by
  have taken := logical_lt (List.mem_of_getElem? found)
  have ranked := rank_of_slice found made
  have lengthened : ∀ rest : List Nat, rest.length = coordinates.length →
      (rest.insertIdx removed.logical index).length = layout.rank := by
    intro rest long
    rw [List.length_insertIdx, if_pos (by omega), long, counted]
  refine ⟨_, _, flatOffset_ok (lengthened _ List.length_replicate), flatOffset_ok (by omega), ?_⟩
  rw [← place_of_slice found made counted]
  exact flatOffset_ok (lengthened _ rfl)

/-- Coordinates of a slice and a coordinate of the removed dimension are coordinates of the
whole. -/
theorem forall₂_insertIdx {dimension index size : Nat} {coordinates sizes : List Nat}
    (sized : sizes[dimension]? = some size) (below : index < size)
    (inside : List.Forall₂ (· < ·) coordinates (sizes.eraseIdx dimension)) :
    List.Forall₂ (· < ·) (coordinates.insertIdx dimension index) sizes := by
  induction dimension generalizing sizes coordinates with
  | zero =>
      obtain ⟨_, rest, rfl⟩ := List.exists_cons_of_length_pos (List.getElem?_eq_some_iff.mp sized).1
      cases sized
      exact .cons below inside
  | succ dimension inductionHypothesis =>
      obtain ⟨first, rest, rfl⟩ := List.exists_cons_of_length_pos
        ((Nat.zero_le _).trans_lt (List.getElem?_eq_some_iff.mp sized).1)
      rw [List.eraseIdx_cons_succ] at inside
      cases inside with
      | cons least others => exact .cons least (inductionHypothesis sized others)

/-- The slice across a dimension, from one of the indices in that dimension on. -/
theorem slice_dimension {logical size : Nat} (sized : layout.logicalSizes[logical]? = some size) :
    ∃ view, (do layout.slice (← layout.physicalDimension logical)) = .ok view ∧
      view.rank + 1 = layout.rank ∧ view.logicalSizes = layout.logicalSizes.eraseIdx logical ∧
        ∀ index < size, (layout.Built → view.Built) ∧ ∀ coordinates, view.Inside coordinates →
          layout.Inside (coordinates.insertIdx logical index) ∧
            layout.place (coordinates.insertIdx logical index) =
              layout.place ((List.replicate coordinates.length 0).insertIdx logical index) +
                view.place coordinates := by
  have within : logical < layout.rank := by
    rw [← layout.length_logicalSizes]
    exact (List.getElem?_eq_some_iff.mp sized).1
  obtain ⟨axis, member, rfl⟩ := exists_axis within
  obtain ⟨position, found⟩ := List.mem_iff_getElem?.mp member
  obtain rfl : axis.size = size := Option.some.inj ((logicalSizes_axis member).symm.trans sized)
  obtain ⟨view, made, -⟩ := slice_ok found
  have physical : layout.physicalDimension axis.logical = .ok position := by
    refine physicalDimension_eq_ok.mpr ?_
    rw [order, List.getElem?_map, found, Option.map_some]
  have counted := rank_of_slice found made
  have sizes := logicalSizes_of_slice found made
  refine ⟨view, ?_, counted, sizes, fun index below => ⟨fun built => ?_, fun rest inside => ?_⟩⟩
  · rw [physical]
    exact made
  · have fits : axis.offset + axis.size ≤ axis.extent := layout.fits axis member
    exact .slice built found (by omega) made
  · have long : rest.length + 1 = layout.rank := by
      rw [inside.length_eq, view.length_logicalSizes, counted]
    unfold Inside at inside
    rw [sizes] at inside
    exact ⟨forall₂_insertIdx sized below inside, place_of_slice found made long index⟩

/-! ### Other sizes -/

/-- An axis of a view with other sizes. -/
def fitted (sizes : List Nat) (axis : Axis) : Axis :=
  { axis with
    size := sizes.getD axis.logical 0
    offset := 0 }

theorem resized_ok {sizes : List Nat} (counted : sizes.length = layout.rank)
    (room : ∀ axis ∈ layout.axes, sizes.getD axis.logical 0 ≤ axis.extent) :
    ∃ view, layout.resized sizes = .ok view ∧ view.axes = layout.axes.map (fitted sizes) := by
  have fits : ∀ axis ∈ layout.axes.map (fitted sizes), axis.Fits := by
    refine List.forall_mem_map.mpr fun axis member => ?_
    change 0 + sizes.getD axis.logical 0 ≤ axis.extent
    rw [Nat.zero_add]
    exact room axis member
  have ordered : ((layout.axes.map (fitted sizes)).map Axis.logical).Perm
      (List.range (layout.axes.map (fitted sizes)).length) := by
    rw [List.map_map, List.length_map]
    exact layout.ordered
  obtain ⟨view, made, axes⟩ := ofAxes_ok fits ordered
  refine ⟨view, ?_, axes⟩
  unfold resized
  rw [if_pos counted]
  exact made

theorem of_resized {sizes : List Nat} (made : layout.resized sizes = .ok view) :
    sizes.length = layout.rank ∧ view.axes = layout.axes.map (fitted sizes) ∧
      ∀ axis ∈ layout.axes, sizes.getD axis.logical 0 ≤ axis.extent := by
  unfold resized at made
  split at made
  · rename_i counted
    have axes : view.axes = layout.axes.map (fitted sizes) := axes_of_ofAxes made
    refine ⟨counted, axes, fun axis member => ?_⟩
    have image : fitted sizes axis ∈ view.axes := by
      rw [axes]
      exact List.mem_map_of_mem member
    have fits : 0 + sizes.getD axis.logical 0 ≤ axis.extent := view.fits _ image
    rwa [Nat.zero_add] at fits
  · cases made

theorem resized_ok_iff {sizes : List Nat} :
    (∃ view, layout.resized sizes = .ok view) ↔ sizes.length = layout.rank ∧
      ∀ axis ∈ layout.axes, sizes.getD axis.logical 0 ≤ axis.extent := by
  constructor
  · rintro ⟨view, made⟩
    obtain ⟨counted, -, room⟩ := of_resized made
    exact ⟨counted, room⟩
  · rintro ⟨counted, room⟩
    obtain ⟨view, made, -⟩ := resized_ok counted room
    exact ⟨view, made⟩

theorem oversized_iff {sizes : List Nat} (counted : sizes.length = layout.rank) :
    (∃ axis ∈ layout.axes, axis.extent < sizes.getD axis.logical 0) ↔
      ∃ position logical size extent : Nat, layout.order[position]? = some logical ∧
        sizes[logical]? = some size ∧ layout.extents[position]? = some extent ∧ extent < size := by
  simp only [order, extents, List.getElem?_map, Option.map_eq_some_iff]
  constructor
  · rintro ⟨axis, member, less⟩
    obtain ⟨position, found⟩ := List.mem_iff_getElem?.mp member
    have below : axis.logical < sizes.length := (logical_lt member).trans_eq counted.symm
    rw [List.getD_eq_getElem _ _ below] at less
    exact ⟨position, _, _, _, ⟨axis, found, rfl⟩, List.getElem?_eq_getElem below,
      ⟨axis, found, rfl⟩, less⟩
  · rintro ⟨position, _, size, _, ⟨axis, found, rfl⟩, sized, ⟨axis', found', rfl⟩, less⟩
    cases found.symm.trans found'
    refine ⟨axis, List.mem_of_getElem? found, ?_⟩
    rwa [List.getD_eq_getElem?_getD, sized, Option.getD_some]

/-- Sizes are refused for their number, or for one that is above its extent. -/
theorem resized_error_iff {sizes : List Nat} :
    (∃ cause, layout.resized sizes = .error cause) ↔ sizes.length ≠ layout.rank ∨
      ∃ position logical size extent : Nat, layout.order[position]? = some logical ∧
        sizes[logical]? = some size ∧ layout.extents[position]? = some extent ∧
          extent < size := by
  have refused : (∃ cause, layout.resized sizes = .error cause) ↔
      ¬ ∃ view, layout.resized sizes = .ok view := by
    cases layout.resized sizes <;> simp
  rw [refused, resized_ok_iff]
  by_cases counted : sizes.length = layout.rank
  · rw [← oversized_iff counted]
    simp [counted]
  · simp [counted]

theorem rank_of_resized {sizes : List Nat} (made : layout.resized sizes = .ok view) :
    view.rank = layout.rank := by
  rw [rank, rank, (of_resized made).2.1, List.length_map]

theorem logicalSizes_of_resized {sizes : List Nat} (made : layout.resized sizes = .ok view) :
    view.logicalSizes = sizes := by
  obtain ⟨counted, axes, -⟩ := of_resized made
  refine List.ext_getElem? fun dimension => ?_
  by_cases within : dimension < layout.rank
  · obtain ⟨axis, member, rfl⟩ := exists_axis within
    have image : fitted sizes axis ∈ view.axes := by
      rw [axes]
      exact List.mem_map_of_mem member
    have below : axis.logical < sizes.length := counted.symm ▸ within
    rw [show axis.logical = (fitted sizes axis).logical from rfl, logicalSizes_axis image]
    change some (sizes.getD axis.logical 0) = sizes[axis.logical]?
    rw [List.getD_eq_getElem _ _ below, List.getElem?_eq_getElem below]
  · have outside : view.logicalSizes.length ≤ dimension := by
      rw [length_logicalSizes, rank_of_resized made]
      omega
    rw [List.getElem?_eq_none outside, List.getElem?_eq_none (by omega)]

/-- The place of an element in the whole is that of the first element of the view and its
place in the view. -/
theorem place_of_resized {sizes : List Nat} (made : layout.resized sizes = .ok view)
    {outer inner : List Nat} (counted : outer.length = layout.rank)
    (counted' : inner.length = layout.rank) :
    layout.place (List.zipWith (· + ·) outer inner) = layout.place outer + view.place inner := by
  rw [place_eq_sum, place_eq_sum, place_eq_sum, (of_resized made).2.1, List.map_map,
    ← List.sum_map_add]
  congr 1
  refine List.map_congr_left fun axis member => ?_
  have within := logical_lt member
  have here : axis.logical < outer.length := by omega
  have there : axis.logical < inner.length := by omega
  have both : (List.zipWith (· + ·) outer inner).getD axis.logical 0 =
      outer.getD axis.logical 0 + inner.getD axis.logical 0 := by
    rw [List.getD_eq_getElem _ _ (by rw [List.length_zipWith]; omega),
      List.getD_eq_getElem _ _ here, List.getD_eq_getElem _ _ there, List.getElem_zipWith]
  rw [both]
  change _ = _ + (inner.getD axis.logical 0 + 0) * axis.increment
  ring

theorem flatOffset_of_resized {sizes : List Nat} (made : layout.resized sizes = .ok view)
    {outer inner : List Nat} (counted : outer.length = layout.rank)
    (counted' : inner.length = layout.rank) :
    ∃ first rest, layout.flatOffset outer = .ok first ∧ view.flatOffset inner = .ok rest ∧
      layout.flatOffset (List.zipWith (· + ·) outer inner) = .ok (first + rest) := by
  refine ⟨_, _, flatOffset_ok counted,
    flatOffset_ok (counted'.trans (rank_of_resized made).symm), ?_⟩
  rw [← place_of_resized made counted counted']
  refine flatOffset_ok ?_
  rw [List.length_zipWith, counted, counted', Nat.min_self]

theorem not_inside_of_empty {coordinates : List Nat} (empty : 0 ∈ layout.logicalSizes) :
    ¬ layout.Inside coordinates := by
  intro inside
  obtain ⟨dimension, within, none⟩ := List.getElem_of_mem empty
  have below := inside.get (inside.length_eq.symm ▸ within) within
  rw [List.get_eq_getElem, List.get_eq_getElem, none] at below
  exact Nat.not_lt_zero _ below

theorem Inside.shift {starts sizes coordinates : List Nat} (counted : starts.length = sizes.length)
    (room : List.Forall₂ (· ≤ ·) (List.zipWith (· + ·) starts sizes) layout.logicalSizes)
    (inside : List.Forall₂ (· < ·) coordinates sizes) :
    layout.Inside (List.zipWith (· + ·) starts coordinates) := by
  unfold Inside
  generalize layout.logicalSizes = limits at room
  induction inside generalizing starts limits with
  | nil =>
      rw [List.zipWith_nil_right] at room ⊢
      cases room
      exact .nil
  | cons least _ inductionHypothesis =>
      obtain ⟨start, starts, rfl⟩ := List.exists_cons_of_length_eq_add_one counted
      cases room with
      | cons enough rest =>
          exact .cons ((Nat.add_lt_add_left least start).trans_le enough)
            (inductionHypothesis (Nat.succ.inj counted) _ rest)

/-- Where there is room for elements there is a first one. -/
theorem Inside.first {starts sizes : List Nat} (counted : starts.length = sizes.length)
    (room : List.Forall₂ (· ≤ ·) (List.zipWith (· + ·) starts sizes) layout.logicalSizes)
    (some : 0 ∉ sizes) : layout.Inside starts := by
  have zeros : List.Forall₂ (· < ·) (sizes.map fun _ => 0) sizes :=
    List.forall₂_map_left_iff.mpr (List.forall₂_same.mpr fun size member =>
      Nat.pos_of_ne_zero fun none => some (none ▸ member))
  have unmoved : List.zipWith (· + ·) starts (sizes.map fun _ => 0) = starts :=
    List.ext_getElem (by simp [counted]) (by simp)
  have shifted := Inside.shift counted room zeros
  rwa [unmoved] at shifted

/-- The part of some sizes that begins at some coordinates. -/
theorem resized_from {starts sizes : List Nat} (counted : starts.length = layout.rank)
    (counted' : sizes.length = layout.rank)
    (room : List.Forall₂ (· ≤ ·) (List.zipWith (· + ·) starts sizes) layout.logicalSizes) :
    ∃ view, layout.resized sizes = .ok view ∧ view.rank = layout.rank ∧
      view.logicalSizes = sizes ∧ (layout.Built → view.Built) ∧
        ∀ coordinates, view.Inside coordinates →
          layout.Inside (List.zipWith (· + ·) starts coordinates) ∧
            layout.place (List.zipWith (· + ·) starts coordinates) =
              layout.place starts + view.place coordinates := by
  have enough : ∀ axis ∈ layout.axes, sizes.getD axis.logical 0 ≤ axis.extent := by
    intro axis member
    have below := logical_lt member
    have fits : axis.offset + axis.size ≤ axis.extent := layout.fits axis member
    have here : axis.logical < (List.zipWith (· + ·) starts sizes).length := by
      rw [List.length_zipWith, counted, counted', Nat.min_self]
      exact below
    have there : axis.logical < layout.logicalSizes.length := by
      rwa [layout.length_logicalSizes]
    have least := room.get here there
    rw [List.get_eq_getElem, List.get_eq_getElem, List.getElem_zipWith,
      (List.getElem?_eq_some_iff.mp (logicalSizes_axis member)).2] at least
    dsimp only at least
    rw [List.getD_eq_getElem _ _ (below.trans_eq counted'.symm)]
    omega
  obtain ⟨view, made, -⟩ := resized_ok counted' enough
  have sizes' := logicalSizes_of_resized made
  refine ⟨view, made, rank_of_resized made, sizes', (.resized · made), fun rest inside => ?_⟩
  have long : rest.length = layout.rank := by
    rw [inside.length_eq, view.length_logicalSizes, rank_of_resized made]
  unfold Inside at inside
  rw [sizes'] at inside
  exact ⟨.shift (counted.trans counted'.symm) room inside, place_of_resized made counted long⟩

/-! ### Spans of views -/

/-- The span ends behind the last element. -/
theorem span_eq_place (positive : ∀ size ∈ layout.logicalSizes, 0 < size) :
    layout.span = layout.place (layout.logicalSizes.map (· - 1)) + 1 := by
  have sized : ∀ axis ∈ layout.axes, layout.logicalSizes[axis.logical]? = some axis.size :=
    fun axis member => logicalSizes_axis member
  rw [span_pos fun axis member => positive _ (List.mem_of_getElem? (sized axis member)), place]
  congr 1
  refine List.foldl_ext _ _ _ fun total axis member => ?_
  have some := positive _ (List.mem_of_getElem? (sized axis member))
  rw [List.getD_eq_getElem?_getD, List.getElem?_map, sized axis member]
  change _ = total + (axis.size - 1 + axis.offset) * axis.increment
  rw [show axis.offset + axis.size - 1 = axis.size - 1 + axis.offset by omega]

/-- A view fits where its base and all its elements do. -/
theorem span_le_of_inside {base room : Nat} (within : base ≤ room)
    (inside : ∀ coordinates, layout.Inside coordinates → base + layout.place coordinates < room) :
    base + layout.span ≤ room := by
  by_cases positive : ∀ size ∈ layout.logicalSizes, 0 < size
  · have last : layout.Inside (layout.logicalSizes.map (· - 1)) := by
      refine List.forall₂_map_left_iff.mpr (List.forall₂_same.mpr fun size member => ?_)
      have := positive size member
      omega
    have below := inside _ last
    rw [span_eq_place positive]
    omega
  · push Not at positive
    obtain ⟨size, member, empty⟩ := positive
    obtain ⟨axis, member', none⟩ := List.mem_map.mp (layout.logicalSizes_perm.mem_iff.mp member)
    rw [span_zero member' (none.trans (Nat.le_zero.mp empty))]
    exact within

/-- Elements without collision need room for each of them. -/
theorem Spaced.elementCount_le_span (spaced : layout.Spaced) :
    layout.elementCount ≤ layout.span := by
  have inside : layout.positions ⊆ List.range layout.span := fun position member =>
    List.mem_range.mpr (lt_span_of_mem_positions member)
  have counted := (List.subperm_of_subset spaced.nodup_positions inside).length_le
  rwa [length_positions, List.length_range] at counted

/-! ### Both kinds of views -/

/-- A slice lacks one of the sizes, a resized layout has those that were asked for, if they are
within the extents, and either places its elements as the whole does, counted from the first. -/
theorem views_add_up (layout : Layout) :
    (∀ position logical, layout.order[position]? = some logical →
      ∃ view, layout.slice position = .ok view ∧
        view.logicalSizes = layout.logicalSizes.eraseIdx logical ∧
        ∀ (index : Nat) (coordinates : List Nat), coordinates.length + 1 = layout.rank →
          ∃ first rest,
            layout.flatOffset ((List.replicate coordinates.length 0).insertIdx logical index) =
              .ok first ∧
            view.flatOffset coordinates = .ok rest ∧
            layout.flatOffset (coordinates.insertIdx logical index) = .ok (first + rest)) ∧
    ∀ sizes,
      ((∃ cause, layout.resized sizes = .error cause) ↔ sizes.length ≠ layout.rank ∨
        ∃ position logical size extent : Nat, layout.order[position]? = some logical ∧
          sizes[logical]? = some size ∧ layout.extents[position]? = some extent ∧
            extent < size) ∧
      ∀ view, layout.resized sizes = .ok view → view.logicalSizes = sizes ∧
        ∀ outer inner : List Nat, outer.length = layout.rank → inner.length = layout.rank →
          ∃ first rest, layout.flatOffset outer = .ok first ∧ view.flatOffset inner = .ok rest ∧
            layout.flatOffset (List.zipWith (· + ·) outer inner) = .ok (first + rest) := by
  refine ⟨fun position logical ordered => ?_, fun sizes => ⟨resized_error_iff, fun view made => ?_⟩⟩
  · rw [order, List.getElem?_map, Option.map_eq_some_iff] at ordered
    obtain ⟨removed, found, rfl⟩ := ordered
    obtain ⟨view, made, -⟩ := slice_ok found
    exact ⟨view, made, logicalSizes_of_slice found made,
      fun index _ counted => flatOffset_of_slice found made counted index⟩
  · exact ⟨logicalSizes_of_resized made, fun _ _ => flatOffset_of_resized made⟩

/-- A column and a block of a padded matrix that is stored column by column. -/
theorem views_add_up_padded : ∃ matrix column block,
    Layout.reordered [2, 3] [4, 6] [1, 2] [1, 0] = .ok matrix ∧
      matrix.slice 0 = .ok column ∧ column.logicalSizes = [3] ∧
        matrix.flatOffset [1, 1] = .ok (14 + 1) ∧ matrix.resized [2, 2] = .ok block ∧
          block.logicalSizes = [2, 2] ∧ (∃ cause, matrix.resized [2, 5] = .error cause) := by
  have made : ∃ matrix, Layout.reordered [2, 3] [4, 6] [1, 2] [1, 0] = .ok matrix ∧
      matrix.order[0]? = some 1 ∧ matrix.rank = 2 ∧ matrix.logicalSizes.eraseIdx 1 = [3] ∧
        matrix.flatOffset [0, 1] = .ok 14 ∧ matrix.extents[0]? = some 4 ∧
          (∃ block, matrix.resized [2, 2] = .ok block) ∧
            ∀ column, matrix.slice 0 = .ok column → column.flatOffset [1] = .ok 1 :=
    ⟨_, rfl, rfl, rfl, rfl, rfl, rfl, ⟨_, rfl⟩, by rintro _ ⟨⟩; rfl⟩
  obtain ⟨matrix, reordered, order, rank, sizes, first, extent, ⟨block, resized⟩, second⟩ := made
  obtain ⟨slices, others⟩ := views_add_up matrix
  obtain ⟨column, sliced, left, sums⟩ := slices 0 1 order
  obtain ⟨_, _, first', second', sum⟩ := sums 1 [1] rank.symm
  cases first.symm.trans first'
  cases (second column sliced).symm.trans second'
  exact ⟨matrix, column, block, reordered, sliced, left.trans sizes, sum, resized,
    ((others [2, 2]).2 block resized).1,
    (others [2, 5]).1.mpr (.inr ⟨0, 1, 5, 4, order, rfl, extent, by decide⟩)⟩

end TensorGraph.Layout

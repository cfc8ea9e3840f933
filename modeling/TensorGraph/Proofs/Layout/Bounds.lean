/-
Bounds of layouts.

Coordinates below the logical sizes name a place inside the span, whatever the
order, the padding and the distances of the axes.  A packed layout spans as many
elements as it has, and every layout spans no more than its memory.
-/

import Mathlib
import TensorGraph.Graph.Port
import TensorGraph.Layout.View

namespace TensorGraph.Layout

variable {layout : Layout} {coordinates : List Nat}

/-! ### Sums over axes -/

private theorem foldl_add_le {first second : Axis → Nat} {axes : List Axis}
    (least : ∀ axis ∈ axes, first axis ≤ second axis) {start start' : Nat}
    (ordered : start ≤ start') :
    axes.foldl (fun total axis => total + first axis) start ≤
      axes.foldl (fun total axis => total + second axis) start' := by
  induction axes generalizing start start' with
  | nil => exact ordered
  | cons axis rest ih =>
      have head := least axis List.mem_cons_self
      exact ih (fun other member => least other (List.mem_cons_of_mem _ member))
        (Nat.add_le_add ordered head)

theorem span_pos (positive : ∀ axis ∈ layout.axes, 0 < axis.size) :
    layout.span = layout.axes.foldl
      (fun total axis => total + (axis.offset + axis.size - 1) * axis.increment) 0 + 1 := by
  unfold span
  refine if_neg ?_
  rw [List.any_eq_true]
  rintro ⟨axis, member, empty⟩
  exact (positive axis member).ne' (beq_iff_eq.mp empty)

theorem span_zero {axis : Axis} (member : axis ∈ layout.axes) (empty : axis.size = 0) :
    layout.span = 0 := by
  unfold span
  exact if_pos (List.any_eq_true.mpr ⟨axis, member, by rw [empty, beq_self_eq_true]⟩)

/-- The active region lies in the memory of the layout. -/
theorem span_le_memorySize (layout : Layout) : layout.span ≤ layout.memorySize := by
  by_cases positive : ∀ axis ∈ layout.axes, 0 < axis.size
  · have inside : ∀ axis ∈ layout.axes, axis.offset + axis.size ≤ axis.extent :=
      layout.fits
    have roomy : ¬ (layout.axes.any fun axis => axis.extent == 0) = true := by
      rw [List.any_eq_true]
      rintro ⟨axis, member, empty⟩
      have := positive axis member
      have := inside axis member
      have := beq_iff_eq.mp empty
      omega
    rw [span_pos positive]
    unfold memorySize
    rw [if_neg roomy]
    refine Nat.succ_le_succ (foldl_add_le (fun axis member => ?_) le_rfl)
    have := inside axis member
    exact Nat.mul_le_mul_right _ (by omega)
  · push Not at positive
    obtain ⟨axis, member, empty⟩ := positive
    rw [span_zero member (Nat.le_zero.mp empty)]
    exact Nat.zero_le _

/-! ### Places -/

theorem logical_nodup (layout : Layout) : (layout.axes.map Axis.logical).Nodup :=
  layout.ordered.nodup_iff.mpr List.nodup_range

/-- An axis is the one that stores its logical dimension. -/
theorem axisOf?_logical {axis : Axis} (member : axis ∈ layout.axes) :
    layout.axisOf? axis.logical = some axis := by
  have distinct := layout.logical_nodup
  unfold axisOf?
  revert distinct member
  generalize layout.axes = axes
  intro member distinct
  induction axes with
  | nil => cases member
  | cons head rest ih =>
      rw [List.map_cons, List.nodup_cons] at distinct
      rcases List.mem_cons.mp member with rfl | inside
      · exact List.find?_cons_of_pos (beq_self_eq_true _)
      · have different : head.logical ≠ axis.logical := fun same =>
          distinct.1 (same ▸ List.mem_map_of_mem inside)
        rw [List.find?_cons_of_neg (by simpa using different)]
        exact ih inside distinct.2

theorem logical_lt {axis : Axis} (member : axis ∈ layout.axes) : axis.logical < layout.rank :=
  List.mem_range.mp (layout.ordered.mem_iff.mp (List.mem_map_of_mem member))

theorem length_logicalSizes (layout : Layout) : layout.logicalSizes.length = layout.rank := by
  simp [logicalSizes]

theorem logicalSizes_axis {axis : Axis} (member : axis ∈ layout.axes) :
    layout.logicalSizes[axis.logical]? = some axis.size := by
  unfold logicalSizes
  rw [List.getElem?_map, List.getElem?_range (logical_lt member), Option.map_some,
    axisOf?_logical member]
  rfl

/-- Each coordinate is below the size of its dimension. -/
def Inside (layout : Layout) (coordinates : List Nat) : Prop :=
  List.Forall₂ (· < ·) coordinates layout.logicalSizes

theorem Inside.axis (inside : layout.Inside coordinates) {axis : Axis}
    (member : axis ∈ layout.axes) : coordinates.getD axis.logical 0 < axis.size := by
  have sized := logicalSizes_axis member
  obtain ⟨below, same⟩ := List.getElem?_eq_some_iff.mp sized
  have below' : axis.logical < coordinates.length := inside.length_eq ▸ below
  have least := inside.get below' below
  rw [List.getD_eq_getElem _ _ below']
  simpa [same] using least

theorem flatOffset_eq_ok {position : Nat} : layout.flatOffset coordinates = .ok position ↔
    coordinates.length = layout.rank ∧ layout.place coordinates = position := by
  unfold flatOffset
  split <;> simp [*]

theorem flatOffset_ok (counted : coordinates.length = layout.rank) :
    layout.flatOffset coordinates = .ok (layout.place coordinates) :=
  if_pos counted

theorem Inside.flatOffset (inside : layout.Inside coordinates) :
    layout.flatOffset coordinates = .ok (layout.place coordinates) :=
  flatOffset_ok (inside.length_eq.trans layout.length_logicalSizes)

theorem Inside.place_lt (inside : layout.Inside coordinates) :
    layout.place coordinates < layout.span := by
  rw [span_pos fun axis member => (Nat.zero_le _).trans_lt (inside.axis member)]
  refine Nat.lt_succ_of_le (foldl_add_le (fun axis member => ?_) le_rfl)
  have := inside.axis member
  exact Nat.mul_le_mul_right _ (by omega)

theorem place_mono {limits : List Nat}
    (least : ∀ place, coordinates.getD place 0 ≤ limits.getD place 0) :
    layout.place coordinates ≤ layout.place limits :=
  foldl_add_le (fun axis _ => Nat.mul_le_mul_right _ (Nat.add_le_add_right (least axis.logical) _))
    le_rfl

/-- A coordinate is below the number of elements, as every dimension has some. -/
theorem Inside.lt_elementCount (inside : layout.Inside coordinates) {coordinate : Nat}
    (member : coordinate ∈ coordinates) :
    coordinate < TensorGraph.elementCount layout.logicalSizes := by
  obtain ⟨place, within, rfl⟩ := List.getElem_of_mem member
  have sized := inside.length_eq ▸ within
  have positive : ∀ size ∈ layout.logicalSizes, 0 < size := by
    intro size member
    obtain ⟨place, within, rfl⟩ := List.getElem_of_mem member
    exact (Nat.zero_le _).trans_lt (inside.get (inside.length_eq.symm ▸ within) within)
  have least := inside.get within sized
  rw [TensorGraph.elementCount, ← List.prod_eq_foldl]
  exact least.trans_le (Nat.le_of_dvd (List.prod_pos positive)
    (List.dvd_prod (List.getElem_mem sized)))

/-! ### Packed layouts -/

theorem axes_packed (sizes : List Nat) : (packed sizes).axes =
    ((sizes.zip (packedIncrements sizes)).zipIdx).map fun entry =>
      { size := entry.1.1
        extent := entry.1.1
        offset := 0
        increment := entry.1.2
        logical := entry.2 } :=
  rfl

private theorem map_size_packed (sizes : List Nat) (start : Nat) :
    (((sizes.zip (packedIncrements sizes)).zipIdx start).map fun entry => entry.1.1) = sizes := by
  induction sizes generalizing start with
  | nil => rfl
  | cons size inner ih =>
      rw [packedIncrements, List.zip_cons_cons, List.zipIdx_cons, List.map_cons, ih]

theorem sizes_packed (sizes : List Nat) : (packed sizes).sizes = sizes := by
  unfold Layout.sizes
  rw [axes_packed, List.map_map]
  exact map_size_packed sizes 0

theorem rank_packed (sizes : List Nat) : (packed sizes).rank = sizes.length := by
  rw [← congrArg List.length (sizes_packed sizes), Layout.sizes, List.length_map]
  rfl

theorem logicalSizes_packed (sizes : List Nat) : (packed sizes).logicalSizes = sizes := by
  refine List.ext_getElem? fun place => ?_
  by_cases within : place < (packed sizes).axes.length
  · have member := List.getElem_mem within
    have stored : (packed sizes).axes[place].logical = place := by
      simp [axes_packed]
    have sized := logicalSizes_axis member
    rw [stored] at sized
    have here : (packed sizes).sizes[place]? = some (packed sizes).axes[place].size := by
      unfold Layout.sizes
      rw [List.getElem?_map, List.getElem?_eq_getElem within]
      rfl
    rw [sized, ← here, sizes_packed]
  · have outside : (packed sizes).logicalSizes.length ≤ place := by
      rw [length_logicalSizes]
      exact not_lt.mp within
    have outside' : sizes.length ≤ place := by
      rw [← rank_packed]
      exact not_lt.mp within
    rw [List.getElem?_eq_none outside, List.getElem?_eq_none outside']

theorem elementCount_packed (sizes : List Nat) :
    (packed sizes).elementCount = TensorGraph.elementCount sizes := by
  unfold Layout.elementCount TensorGraph.elementCount
  rw [sizes_packed]

theorem isContiguous_packed (sizes : List Nat) : (packed sizes).isContiguous = true := by
  unfold isContiguous compact
  rw [logicalSizes_packed]
  exact decide_eq_true rfl

theorem elementCount_cons (size : Nat) (inner : List Nat) :
    TensorGraph.elementCount (size :: inner) = size * TensorGraph.elementCount inner := by
  unfold TensorGraph.elementCount
  rw [← List.prod_eq_foldl, ← List.prod_eq_foldl, List.prod_cons]

theorem elementCount_single (size : Nat) : TensorGraph.elementCount [size] = size :=
  Nat.one_mul size

theorem elementCount_pair (rows columns : Nat) :
    TensorGraph.elementCount [rows, columns] = rows * columns := by
  rw [elementCount_cons, elementCount_single]

private theorem reach_packed {sizes : List Nat} (positive : ∀ size ∈ sizes, 0 < size)
    (start total : Nat) :
    ((sizes.zip (packedIncrements sizes)).zipIdx start).foldl
      (fun total entry => total + (entry.1.1 - 1) * entry.1.2) total + 1 =
        total + TensorGraph.elementCount sizes := by
  induction sizes generalizing start total with
  | nil => rfl
  | cons size inner ih =>
      have first := positive size List.mem_cons_self
      rw [packedIncrements, List.zip_cons_cons, List.zipIdx_cons, List.foldl_cons,
        ih fun other member => positive other (List.mem_cons_of_mem _ member), elementCount_cons]
      obtain ⟨less, rfl⟩ := Nat.exists_eq_add_of_le first
      dsimp only
      rw [Nat.add_sub_cancel_left, Nat.add_mul, Nat.one_mul, Nat.add_assoc,
        Nat.add_comm (TensorGraph.elementCount inner)]
      rfl

/-- A packed layout spans what it has. -/
theorem span_packed (sizes : List Nat) :
    (packed sizes).span = TensorGraph.elementCount sizes := by
  by_cases positive : ∀ size ∈ sizes, 0 < size
  · have positive' : ∀ axis ∈ (packed sizes).axes, 0 < axis.size := fun axis member =>
      positive axis.size (sizes_packed sizes ▸ List.mem_map_of_mem member)
    rw [span_pos positive', axes_packed, List.foldl_map]
    simp only [Nat.zero_add]
    exact (reach_packed positive 0 0).trans (Nat.zero_add _)
  · push Not at positive
    obtain ⟨size, member, empty⟩ := positive
    obtain rfl := Nat.le_zero.mp empty
    rw [← sizes_packed sizes] at member
    obtain ⟨axis, member', none⟩ := List.mem_map.mp member
    rw [span_zero member' none, eq_comm, TensorGraph.elementCount, ← List.prod_eq_foldl]
    exact List.prod_eq_zero (sizes_packed sizes ▸ member)

theorem extent_packed {sizes : List Nat} {axis : Axis} (member : axis ∈ (packed sizes).axes) :
    axis.extent = axis.size ∧ axis.offset = 0 := by
  rw [axes_packed] at member
  obtain ⟨entry, -, rfl⟩ := List.mem_map.mp member
  exact ⟨rfl, rfl⟩

/-- So does its memory. -/
theorem memorySize_packed (sizes : List Nat) :
    (packed sizes).memorySize = TensorGraph.elementCount sizes := by
  rw [← span_packed]
  unfold memorySize span
  have none : ((packed sizes).axes.any fun axis => axis.extent == 0) =
      (packed sizes).axes.any fun axis => axis.size == 0 := by
    rw [Bool.eq_iff_iff, List.any_eq_true, List.any_eq_true]
    refine exists_congr fun axis => and_congr_right fun member => ?_
    rw [(extent_packed member).1]
  have reach : (packed sizes).axes.foldl
        (fun total axis => total + (axis.extent - 1) * axis.increment) 0 =
      (packed sizes).axes.foldl
        (fun total axis => total + (axis.offset + axis.size - 1) * axis.increment) 0 :=
    List.foldl_ext _ _ _ fun total axis member => by
      rw [(extent_packed member).1, (extent_packed member).2, Nat.zero_add]
  rw [none, reach]

/-! ### Lines of a packed matrix -/

/-- What is left of a packed matrix when its row is fixed. -/
theorem slice_packed (rows columns : Nat) :
    (packed [rows, columns]).slice 0 = .ok (packed [columns]) := by
  have fits : ∀ axis ∈ (packed [columns]).axes, axis.Fits := (packed [columns]).fits
  have ordered := (packed [columns]).ordered
  change ofAxes (packed [columns]).axes = _
  unfold ofAxes
  rw [dif_pos fits, dif_pos ordered]

theorem place_packed (rows columns row column : Nat) :
    (packed [rows, columns]).place [row, column] = row * columns + column := by
  simp [place, axes_packed, packedIncrements]

/-! ### Planes -/

theorem place_planes (rows columns channels row column channel : Nat) :
    (packed [rows, columns, channels]).place [row, column, channel] =
      row * (columns * channels) + column * channels + channel := by
  simp [place, axes_packed, packedIncrements]

/-- Rows, columns and channels inside a border of rows and columns. -/
theorem padded_planes (rows columns channels padding : Nat) : ∃ interior,
    padded [rows, columns, channels] [rows + 2 * padding, columns + 2 * padding, channels]
        [padding, padding, 0] = .ok interior ∧
      interior.logicalSizes = [rows, columns, channels] ∧
        interior.memorySize =
          (packed [rows + 2 * padding, columns + 2 * padding, channels]).memorySize := by
  let axes : List Axis :=
    [{ size := rows
       extent := rows + 2 * padding
       offset := padding
       increment := (columns + 2 * padding) * channels
       logical := 0 },
     { size := columns
       extent := columns + 2 * padding
       offset := padding
       increment := channels
       logical := 1 },
     { size := channels
       extent := channels
       offset := 0
       increment := 1
       logical := 2 }]
  have fits : ∀ axis ∈ axes, axis.Fits := by
    simp only [axes, Axis.Fits, List.forall_mem_cons, List.not_mem_nil, false_implies,
      implies_true, and_true]
    omega
  have ordered : (axes.map Axis.logical).Perm (List.range axes.length) := .refl _
  refine ⟨{ axes := axes, fits := fits, ordered := ordered }, ?_, rfl, ?_⟩
  · have made : padded [rows, columns, channels]
        [rows + 2 * padding, columns + 2 * padding, channels] [padding, padding, 0] =
          ofAxes axes := by
      simp [padded, reordered, packedIncrements, axes, List.range_succ]
    rw [made]
    unfold ofAxes
    rw [dif_pos fits, dif_pos ordered]
  · simp [memorySize, axes, axes_packed, packedIncrements]

end TensorGraph.Layout

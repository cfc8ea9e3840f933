/-
Layouts.

A layout says where each active element of a tensor lives in a flat buffer.
It is a list of axes in physical order, outermost first.  Each axis has a
number of active elements, a number of allocated ones, the padding before the
active region, the distance between neighbours, and the logical dimension that
it stores.  Coordinates are logical; the position of an element is the sum of
`(coordinate + offset) * increment` over the axes.
-/

import TensorGraph.Error

namespace TensorGraph

/-- One physical dimension of a layout. -/
structure Axis where
  size : Nat
  extent : Nat
  offset : Nat
  increment : Nat
  logical : Nat
  deriving DecidableEq, Repr

/-- The active region of the axis lies inside the allocated one. -/
def Axis.Fits (axis : Axis) : Prop :=
  axis.offset + axis.size ≤ axis.extent

instance (axis : Axis) : Decidable axis.Fits :=
  inferInstanceAs (Decidable (axis.offset + axis.size ≤ axis.extent))

structure Layout where
  axes : List Axis
  fits : ∀ axis ∈ axes, axis.Fits
  ordered : (axes.map Axis.logical).Perm (List.range axes.length)

namespace Layout

theorem ext_axes {left right : Layout} (sameAxes : left.axes = right.axes) : left = right := by
  cases left
  cases right
  cases sameAxes
  rfl

instance : DecidableEq Layout := fun left right =>
  if sameAxes : left.axes = right.axes then
    .isTrue (ext_axes sameAxes)
  else
    .isFalse fun same => sameAxes (same ▸ rfl)

/-! ### Components -/

/-- Number of dimensions. -/
def rank (layout : Layout) : Nat :=
  layout.axes.length

/-- Active sizes in physical order. -/
def sizes (layout : Layout) : List Nat :=
  layout.axes.map Axis.size

def extents (layout : Layout) : List Nat :=
  layout.axes.map Axis.extent

def offsets (layout : Layout) : List Nat :=
  layout.axes.map Axis.offset

def increments (layout : Layout) : List Nat :=
  layout.axes.map Axis.increment

/-- The logical dimension stored at each physical position. -/
def order (layout : Layout) : List Nat :=
  layout.axes.map Axis.logical

/-- The axis that stores a logical dimension. -/
def axisOf? (layout : Layout) (logical : Nat) : Option Axis :=
  layout.axes.find? fun axis => axis.logical == logical

/-- Active sizes in logical order. -/
def logicalSizes (layout : Layout) : List Nat :=
  (List.range layout.rank).map fun logical => ((layout.axisOf? logical).map Axis.size).getD 0

/-- Number of active elements; one for rank zero. -/
def elementCount (layout : Layout) : Nat :=
  layout.sizes.foldl (· * ·) 1

/-! ### Construction -/

/-- The distances between neighbours when the extents are packed row by row. -/
def packedIncrements : List Nat → List Nat
  | [] => []
  | _ :: inner => inner.foldl (· * ·) 1 :: packedIncrements inner

/-- Checks that every active region fits and that the logical dimensions are a
reordering of the physical ones, in this order. -/
def ofAxes (axes : List Axis) : Except Error Layout :=
  if fits : ∀ axis ∈ axes, axis.Fits then
    if ordered : (axes.map Axis.logical).Perm (List.range axes.length) then
      .ok
        { axes := axes
          fits := fits
          ordered := ordered }
    else
      .error (.invalidArgument ("dimension order " ++ sizesText (axes.map Axis.logical) ++
        " is not a permutation of 0.." ++ toString axes.length))
  else
    match axes.zipIdx.find? fun (axis, _) => !decide axis.Fits with
    | some (axis, position) =>
        .error (.invalidArgument ("dimension " ++ toString position ++ ": offset " ++
          toString axis.offset ++ " + size " ++ toString axis.size ++ " exceeds extent " ++
          toString axis.extent))
    | none => .error (.invalidArgument "dimension exceeds its extent")

private def packedAxes (sizes : List Nat) : List Axis :=
  ((sizes.zip (packedIncrements sizes)).zipIdx).map fun ((size, increment), position) =>
    { size := size
      extent := size
      offset := 0
      increment := increment
      logical := position }

theorem length_packedIncrements (sizes : List Nat) :
    (packedIncrements sizes).length = sizes.length := by
  induction sizes with
  | nil => rfl
  | cons size inner ih => simp [packedIncrements, ih]

private theorem logical_packedAxes (sizes : List Nat) :
    (packedAxes sizes).map Axis.logical = List.range (packedAxes sizes).length := by
  simp only [packedAxes, List.map_map, List.length_map, List.length_zipIdx]
  apply List.ext_getElem
  · simp
  · intro index _ _
    simp

/-- The compact row-major layout of the given sizes. -/
def packed (sizes : List Nat) : Layout :=
  { axes := packedAxes sizes
    fits := by
      intro axis member
      simp only [packedAxes, List.mem_map] at member
      obtain ⟨⟨⟨size, increment⟩, position⟩, _, rfl⟩ := member
      simp [Axis.Fits]
    ordered := by
      rw [logical_packedAxes] }

/-- The layout of a single element. -/
def scalar : Layout :=
  packed []

/-- The layout with the given active sizes, allocated extents and paddings, packed
row by row over the extents; `order` names the logical dimension at each place. -/
def reordered (sizes extents offsets order : List Nat) : Except Error Layout :=
  if extents.length = sizes.length ∧ offsets.length = sizes.length ∧
      order.length = sizes.length then
    let increments := packedIncrements extents
    ofAxes <| (List.range sizes.length).map fun position =>
      { size := sizes.getD position 0
        extent := extents.getD position 0
        offset := offsets.getD position 0
        increment := increments.getD position 0
        logical := order.getD position 0 }
  else
    .error (.invalidArgument ("layout component lengths differ: size " ++ toString sizes.length ++
      ", extent " ++ toString extents.length ++ ", offset " ++ toString offsets.length ++
      ", order " ++ toString order.length))

/-- The layout with padding whose dimensions are stored in logical order. -/
def padded (sizes extents offsets : List Nat) : Except Error Layout :=
  reordered sizes extents offsets (List.range sizes.length)

/-- A matrix whose columns are outermost in memory. -/
def columnMajor (rows columns : Nat) : Layout :=
  { axes :=
      [{ size := columns
         extent := columns
         offset := 0
         increment := rows
         logical := 1 },
       { size := rows
         extent := rows
         offset := 0
         increment := 1
         logical := 0 }]
    fits := by simp [Axis.Fits]
    ordered := List.Perm.swap 0 1 [] }

/-! ### Dimensions -/

private def dimensionError (layout : Layout) (dimension : Nat) : Error :=
  .invalidArgument ("dimension " ++ toString dimension ++ " out of range for layout of rank " ++
    toString layout.rank)

/-- The axis at a physical position. -/
def axisAt (layout : Layout) (position : Nat) : Except Error Axis :=
  match layout.axes[position]? with
  | some axis => .ok axis
  | none => .error (layout.dimensionError position)

/-- The axis that stores a logical dimension. -/
def axisFor (layout : Layout) (logical : Nat) : Except Error Axis :=
  match layout.axisOf? logical with
  | some axis => .ok axis
  | none => .error (layout.dimensionError logical)

def activeSize (layout : Layout) (position : Nat) : Except Error Nat :=
  Axis.size <$> layout.axisAt position

def logicalActiveSize (layout : Layout) (logical : Nat) : Except Error Nat :=
  Axis.size <$> layout.axisFor logical

/-- Distance between neighbours along a logical dimension. -/
def logicalIncrement (layout : Layout) (logical : Nat) : Except Error Nat :=
  Axis.increment <$> layout.axisFor logical

def logicalDimension (layout : Layout) (position : Nat) : Except Error Nat :=
  Axis.logical <$> layout.axisAt position

/-- The physical position of a logical dimension. -/
def physicalDimension (layout : Layout) (logical : Nat) : Except Error Nat :=
  match layout.axes.findIdx? fun axis => axis.logical == logical with
  | some position => .ok position
  | none => .error (layout.dimensionError logical)

end Layout
end TensorGraph

/-
Positions and views.

`flatOffset` places one element; `positions` lists the places of all active
elements, the last logical dimension moving fastest.  A view starts at an
element of its parent, so its own padding is zero and the distances between
neighbours stay those of the parent.
-/

import TensorGraph.Layout.Basic

namespace TensorGraph.Layout

/-! ### Positions -/

/-- The position of the element at the given coordinates, one per dimension. -/
def place (layout : Layout) (coordinates : List Nat) : Nat :=
  layout.axes.foldl
    (fun total axis => total + (coordinates.getD axis.logical 0 + axis.offset) * axis.increment) 0

/-- The position of the element at the given logical coordinates, which need not
lie in the active region. -/
def flatOffset (layout : Layout) (coordinates : List Nat) : Except Error Nat :=
  if coordinates.length = layout.rank then
    .ok (layout.place coordinates)
  else
    .error (.invalidArgument ("expected " ++ toString layout.rank ++ " coordinates, got " ++
      toString coordinates.length))

/-- The strides of the logical dimensions. -/
def logicalStrides (layout : Layout) : List Nat :=
  (List.range layout.rank).map fun logical =>
    ((layout.axisOf? logical).map Axis.increment).getD 0

/-- The position of the first active element. -/
def origin (layout : Layout) : Nat :=
  layout.axes.foldl (fun total axis => total + axis.offset * axis.increment) 0

/-- The coordinates that come next, the last dimension moving fastest: a coordinate at its end
begins anew and carries.  Answers also whether the first one has carried. -/
def successor : List Nat → List Nat → List Nat × Bool
  | size :: sizes, coordinate :: coordinates =>
      let (inner, carried) := successor sizes coordinates
      if !carried then
        (coordinate :: inner, false)
      else if coordinate + 1 < size then
        ((coordinate + 1) :: inner, false)
      else
        (0 :: inner, true)
  | _, coordinates => (coordinates, true)

/-- So many successive coordinates in front of which those in `visited` lie, last first. -/
def visits (sizes : List Nat) : Nat → List Nat → List (List Nat) → List (List Nat)
  | 0, _, visited => visited.reverse
  | remaining + 1, current, visited =>
      visits sizes remaining (successor sizes current).1 (current :: visited)

/-- The distance of the given logical coordinates from the origin. -/
def distance (coordinates strides : List Nat) : Nat :=
  (coordinates.zip strides).foldl (fun total (coordinate, stride) => total + coordinate * stride) 0

/-- The positions of all active elements: a walk over their logical coordinates in row-major
order, of as many steps as there are elements. -/
def positions (layout : Layout) : List Nat :=
  let strides := layout.logicalStrides
  (visits layout.logicalSizes layout.elementCount (List.replicate layout.rank 0) []).map
    fun coordinates => layout.origin + distance coordinates strides

/-- Number of elements that the extents span, padding included. -/
def memorySize (layout : Layout) : Nat :=
  if layout.axes.any fun axis => axis.extent == 0 then
    0
  else
    layout.axes.foldl (fun total axis => total + (axis.extent - 1) * axis.increment) 0 + 1

/-- Number of elements from the start of the buffer to the last active one. -/
def span (layout : Layout) : Nat :=
  if layout.axes.any fun axis => axis.size == 0 then
    0
  else
    layout.axes.foldl (fun total axis => total + (axis.offset + axis.size - 1) * axis.increment) 0
      + 1

/-! ### Views -/

/-- The layout without one physical dimension.  Logical dimensions above the
removed one move down by one. -/
def slice (layout : Layout) (position : Nat) : Except Error Layout := do
  let removed ← layout.axisAt position
  ofAxes <| (layout.axes.eraseIdx position).map fun axis =>
    { axis with
      offset := 0
      logical := if axis.logical > removed.logical then axis.logical - 1 else axis.logical }

/-- The same placement with other active sizes, given in logical order. -/
def resized (layout : Layout) (logicalSizes : List Nat) : Except Error Layout :=
  if logicalSizes.length = layout.rank then
    ofAxes <| layout.axes.map fun axis =>
      { axis with
        size := logicalSizes.getD axis.logical 0
        offset := 0 }
  else
    .error (.invalidArgument ("expected " ++ toString layout.rank ++ " sizes, got " ++
      toString logicalSizes.length))

/-- The compact row-major layout with the same logical sizes. -/
def compact (layout : Layout) : Layout :=
  packed layout.logicalSizes

/-- The layout is the compact row-major layout of its sizes. -/
def isContiguous (layout : Layout) : Bool :=
  layout = layout.compact

end TensorGraph.Layout

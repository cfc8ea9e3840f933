/-
Region detection, channel by channel.

The output is a copy of the input first, and then it is decoded in place: cell by
cell, in a cell anchor by anchor, and of an anchor first its box and then its
classes.  No channel is decoded twice, and one that was not decoded yet is still
that of the input, so each is decoded from the input alone.
-/

import TensorGraph.Kernel.Layer.Region
import TensorGraph.Proofs.Kernel.Softmax

namespace TensorGraph

/-! ### Decoded channels -/

namespace Kernel

/-- Sizes of a region detection. -/
structure RegionShape where
  rows : Nat
  columns : Nat
  anchors : Nat
  classes : Nat

namespace RegionShape

variable {shape : RegionShape} {data : Storage} {row column anchor position : Nat}
  {cells more : List (List Nat)} {anchors positions : List Nat} {cell : List Nat}

/-- The channels of one anchor. -/
def width (shape : RegionShape) : Nat :=
  boxChannels + shape.classes

/-- The sizes of the input and of the output. -/
def sizes (shape : RegionShape) : List Nat :=
  [shape.rows, shape.columns, shape.anchors * shape.width]

/-- The element at a position of an anchor in one cell. -/
def score (shape : RegionShape) (data : Storage) (row column anchor position : Nat) : Literal :=
  data.entry shape.sizes [row, column, anchor * shape.width + position]

/-- The elements of all classes of an anchor in one cell. -/
def scores (shape : RegionShape) (data : Storage) (row column anchor : Nat) : List Literal :=
  (List.range shape.classes).map fun label =>
    shape.score data row column anchor (boxChannels + label)

/-- What the element at a position of an anchor is decoded to. -/
def decodeScore (shape : RegionShape) (data : Storage) (row column anchor position : Nat) :
    Except Error Literal :=
  if position ∈ [0, 1, 4] then
    ActivationFunction.logisticImage (shape.score data row column anchor position)
  else if position ∈ [2, 3] then
    (shape.score data row column anchor position).unary .exp
  else do
    let results ← Literal.softmax data.dtype (shape.scores data row column anchor)
    match results[position - boxChannels]? with
    | some result => return result
    | none => throw (.indexOutOfRange position shape.width)

/-- What the element at some coordinates is decoded to. -/
def decode (shape : RegionShape) (data : Storage) : List Nat → Except Error Literal
  | [row, column, channel] =>
      shape.decodeScore data row column (channel / shape.width) (channel % shape.width)
  | coordinates => .error (.rankMismatch 3 coordinates.length)

theorem quotient_channel (within : position < shape.width) :
    (anchor * shape.width + position) / shape.width = anchor := by
  rw [Nat.mul_comm, Nat.mul_add_div (Nat.zero_lt_of_lt within), Nat.div_eq_of_lt within,
    Nat.add_zero]

theorem rest_channel (within : position < shape.width) :
    (anchor * shape.width + position) % shape.width = position := by
  rw [Nat.mul_comm, Nat.mul_add_mod, Nat.mod_eq_of_lt within]

theorem decode_channel (within : position < shape.width) :
    shape.decode data [row, column, anchor * shape.width + position] =
      shape.decodeScore data row column anchor position := by
  simp only [decode, quotient_channel within, rest_channel within]

theorem decodeScore_class {label : Nat} {results : List Literal} {result : Literal}
    (softened : Literal.softmax data.dtype (shape.scores data row column anchor) = .ok results)
    (found : results[label]? = some result) :
    shape.decodeScore data row column anchor (boxChannels + label) = .ok result := by
  have here : boxChannels + label - boxChannels = label := Nat.add_sub_cancel_left ..
  have box : boxChannels = 5 := rfl
  unfold decodeScore
  rw [if_neg (by simp only [List.mem_cons, List.not_mem_nil, or_false]; omega),
    if_neg (by simp only [List.mem_cons, List.not_mem_nil, or_false]; omega), softened, here]
  simp only [bind, Except.bind, found]
  rfl

theorem box_lt (member : position ∈ [0, 1, 4, 2, 3]) : position < boxChannels := by
  have below : ∀ position ∈ [0, 1, 4, 2, 3], position < boxChannels := by decide
  exact below position member

theorem box_lt_width (member : position ∈ [0, 1, 4, 2, 3]) : position < shape.width :=
  (box_lt member).trans_le (Nat.le_add_right _ _)

theorem decodeScore_centre (member : position ∈ [0, 1, 4]) :
    shape.decodeScore data row column anchor position =
      ActivationFunction.logisticImage (shape.score data row column anchor position) :=
  if_pos member

theorem decodeScore_size (member : position ∈ [2, 3]) :
    shape.decodeScore data row column anchor position =
      (shape.score data row column anchor position).unary .exp := by
  have apart : ∀ position ∈ [2, 3], position ∉ [0, 1, 4] := by decide
  exact (if_neg (apart position member)).trans (if_pos member)

/-- The classes of an anchor lie one behind the other. -/
theorem place_label (row column anchor label : Nat) :
    (Layout.packed shape.sizes).place [row, column, anchor * shape.width + (boxChannels + label)] =
      (Layout.packed shape.sizes).place [row, column, anchor * shape.width + boxChannels] +
        label := by
  simp only [sizes, Layout.place_planes]
  omega

/-! ### Channels that were decoded -/

/-- The channels at some positions of some anchors, in some cells. -/
def channelsOf (shape : RegionShape) (cells : List (List Nat)) (anchors positions : List Nat) :
    Set (List Nat) :=
  {coordinates | ∃ cell ∈ cells, ∃ anchor ∈ anchors, ∃ position ∈ positions,
    coordinates = cell ++ [anchor * shape.width + position]}

theorem channelsOf_cells : shape.channelsOf (cells ++ more) anchors positions =
    shape.channelsOf cells anchors positions ∪ shape.channelsOf more anchors positions := by
  ext coordinates
  simp only [channelsOf, List.mem_append, Set.mem_union, Set.mem_ofPred_eq, or_and_right,
    exists_or]

theorem channelsOf_anchors (anchors more positions : List Nat) :
    shape.channelsOf cells (anchors ++ more) positions =
      shape.channelsOf cells anchors positions ∪ shape.channelsOf cells more positions := by
  ext coordinates
  simp only [channelsOf, List.mem_append, Set.mem_union, Set.mem_ofPred_eq, or_and_right,
    exists_or, and_or_left]

theorem channelsOf_positions (anchors positions more : List Nat) :
    shape.channelsOf cells anchors (positions ++ more) =
      shape.channelsOf cells anchors positions ∪ shape.channelsOf cells anchors more := by
  ext coordinates
  simp only [channelsOf, List.mem_append, Set.mem_union, Set.mem_ofPred_eq, or_and_right,
    exists_or, and_or_left]

theorem channelsOf_no_cells : shape.channelsOf [] anchors positions = ∅ := by
  simp [channelsOf]

theorem channelsOf_no_anchors : shape.channelsOf cells [] positions = ∅ := by
  simp [channelsOf]

theorem channelsOf_no_positions : shape.channelsOf cells anchors [] = ∅ := by
  simp [channelsOf]

theorem channelsOf_congr {more : List Nat}
    (same : ∀ position, position ∈ positions ↔ position ∈ more) :
    shape.channelsOf cells anchors positions = shape.channelsOf cells anchors more := by
  ext coordinates
  simp only [channelsOf, same]

theorem insert_channel (done : Set (List Nat)) (row column anchor position : Nat)
    (others : List Nat) :
    insert [row, column, anchor * shape.width + position]
        (done ∪ shape.channelsOf [[row, column]] [anchor] others) =
      done ∪ shape.channelsOf [[row, column]] [anchor] (others ++ [position]) := by
  have single : shape.channelsOf [[row, column]] [anchor] [position] =
      {[row, column, anchor * shape.width + position]} := by
    ext coordinates
    simp [channelsOf]
  rw [channelsOf_positions, single, ← Set.union_assoc, Set.union_singleton]

/-- No channel is that of two cells, of two anchors or of two positions. -/
theorem mem_channelsOf (within : position < shape.width)
    (inside : ∀ other ∈ positions, other < shape.width) :
    [row, column, anchor * shape.width + position] ∈ shape.channelsOf cells anchors positions ↔
      [row, column] ∈ cells ∧ anchor ∈ anchors ∧ position ∈ positions := by
  constructor
  · rintro ⟨cell, member, other, member', place, member'', same⟩
    obtain ⟨rfl, last⟩ : [row, column] = cell ∧
        [anchor * shape.width + position] = [other * shape.width + place] :=
      List.append_inj' same rfl
    injection last with last
    have quotients := congrArg (· / shape.width) last
    simp only [quotient_channel within, quotient_channel (inside _ member'')] at quotients
    subst quotients
    cases Nat.add_left_cancel last
    exact ⟨member, member', member''⟩
  · rintro ⟨member, member', member''⟩
    exact ⟨[row, column], member, anchor, member', position, member'', rfl⟩

/-- The coordinates of a class of an anchor, by its coordinates among all of them. -/
def labelAt (shape : RegionShape) (row column anchor : Nat) (coordinates : List Nat) : List Nat :=
  [row, column, anchor * shape.width + (boxChannels + coordinates.headD 0)]

/-- Every channel is that of an anchor in a cell. -/
theorem mem_channels {coordinates : List Nat}
    (inside : (Layout.packed shape.sizes).Inside coordinates) :
    coordinates ∈ shape.channelsOf (Layout.rowMajor [shape.rows, shape.columns])
      (List.range shape.anchors) (List.range shape.width) := by
  obtain ⟨row, column, channel, rfl, top, side, below⟩ :=
    Layout.planes_of_inside (Layout.logicalSizes_packed _) inside
  have some : 0 < shape.width := Nat.add_pos_left (by decide) _
  refine ⟨[row, column], Layout.mem_rowMajor.mpr (.cons top (.cons side .nil)),
    channel / shape.width, List.mem_range.mpr (Nat.div_lt_of_lt_mul ?_), channel % shape.width,
    List.mem_range.mpr (Nat.mod_lt _ some), ?_⟩
  · rwa [Nat.mul_comm]
  · rw [Nat.div_add_mod']
    rfl

/-- The box and the classes are all channels of an anchor. -/
theorem mem_box_labels (position : Nat) :
    position ∈ [0, 1, 4, 2, 3] ++ (List.range shape.classes).map (boxChannels + ·) ↔
      position ∈ List.range shape.width := by
  have box : boxChannels = 5 := rfl
  simp only [List.mem_append, List.mem_cons, List.not_mem_nil, or_false, List.mem_map,
    List.mem_range, width, box]
  constructor
  · rintro (rest | ⟨label, below, rfl⟩) <;> omega
  · intro below
    by_cases inner : position < 5
    · exact .inl (by omega)
    · exact .inr ⟨position - 5, by omega, by omega⟩

theorem mem_labels {coordinates : List Nat} :
    coordinates ∈ shape.channelsOf [[row, column]] [anchor]
        ((List.range shape.classes).map (boxChannels + ·)) ↔
      ∃ inside, List.Forall₂ (· < ·) inside [shape.classes] ∧
        coordinates = shape.labelAt row column anchor inside := by
  constructor
  · rintro ⟨cell, member, other, member', position, member'', rfl⟩
    obtain ⟨label, below, rfl⟩ := List.mem_map.mp member''
    cases List.mem_singleton.mp member
    cases List.mem_singleton.mp member'
    exact ⟨[label], .cons (List.mem_range.mp below) .nil, rfl⟩
  · rintro ⟨inside, below, rfl⟩
    obtain _ | ⟨below, _ | _⟩ := below
    exact ⟨_, List.mem_singleton_self _, _, List.mem_singleton_self _, _,
      List.mem_map_of_mem (List.mem_range.mpr below), rfl⟩

/-- What a storage of decoded elements holds, anchor by anchor. -/
theorem holds_decode {dtype : DType} {result : Storage}
    (holds : result.Holds dtype shape.sizes (shape.decode data)) (float : dtype.isFloat = true)
    (typed : data.dtype = dtype) (sized : data.size = elementCount shape.sizes)
    (top : row < shape.rows) (side : column < shape.columns) (few : anchor < shape.anchors) :
    (∀ position ∈ [0, 1, 4],
      ActivationFunction.logisticImage (shape.score data row column anchor position) =
        .ok (shape.score result row column anchor position)) ∧
    (∀ position ∈ [2, 3], (shape.score data row column anchor position).unary .exp =
      .ok (shape.score result row column anchor position)) ∧
    Literal.softmax dtype (shape.scores data row column anchor) =
      .ok (shape.scores result row column anchor) := by
  have inside {position : Nat} (within : position < shape.width) :
      (Layout.packed shape.sizes).Inside [row, column, anchor * shape.width + position] :=
    Layout.inside_packed.mpr (.cons top (.cons side (.cons (Storage.row_inside few within) .nil)))
  have decoded {position : Nat} (within : position < shape.width) :
      shape.decodeScore data row column anchor position =
        .ok (shape.score result row column anchor position) :=
    (decode_channel within).symm.trans (holds.each _ (inside within))
  refine ⟨fun position member => ?_, fun position member => ?_, ?_⟩
  · rw [← decodeScore_centre member]
    exact decoded (box_lt_width (List.mem_append_left [2, 3] member))
  · rw [← decodeScore_size member]
    exact decoded (box_lt_width (List.mem_append_right [0, 1, 4] member))
  have kinds : ∀ element ∈ shape.scores data row column anchor, element.dtype = dtype := by
    intro element member
    obtain ⟨label, below, rfl⟩ := List.mem_map.mp member
    exact (Storage.dtype_entry sized (inside (Nat.add_lt_add_left (List.mem_range.mp below) _))).trans
      typed
  obtain ⟨_, _, _, results, normalizes⟩ := Literal.exists_normalizes float kinds
  refine normalizes.done.trans (congrArg Except.ok (List.ext_getElem ?_ fun label below below' => ?_))
  · rw [← normalizes.divided.length_eq, ← normalizes.raised.length_eq, scores, scores,
      List.length_map, List.length_map]
  · have within : label < shape.classes := by
      rwa [scores, List.length_map, List.length_range] at below'
    have softened := decodeScore_class (typed.symm ▸ normalizes.done)
      (List.getElem?_eq_getElem below)
    rw [decoded (Nat.add_lt_add_left within boxChannels)] at softened
    simp only [scores, List.getElem_map, List.getElem_range]
    exact (Except.ok.inj softened).symm

end RegionShape
end Kernel

namespace Host

variable {ρ : Type} {state : HostState ρ} {before start heap later : Heap} {output : Value}
  {name row column anchor position : Nat} {shape : Kernel.RegionShape} {data : Storage}
  {r c : Scalar} {done : Set (List Nat)}

/-- An action for each item takes what holds one item further. -/
theorem yields_each {α : Type} {items : List α} {action : α → Host ρ Unit}
    {holds : List α → Heap → Prop}
    (turn : ∀ visited item rest, items = visited ++ item :: rest → ∀ middle : HostState ρ,
      holds visited middle.heap → Yields (action item) middle fun _ after =>
        holds (visited ++ [item]) after.heap) (begun : holds [] state.heap) :
    Yields (Kernel.each items action : Host ρ Unit) state fun _ after => holds items after.heap := by
  have run : ∀ left visited, items = visited ++ left → ∀ middle : HostState ρ,
      holds visited middle.heap → Yields (Kernel.each left action : Host ρ Unit) middle
        fun _ after => holds items after.heap := by
    intro left
    induction left with
    | nil =>
        rintro visited rfl middle held
        exact .of_done rfl ((List.append_nil visited).symm ▸ held)
    | cons item rest inductionHypothesis =>
        intro visited whole middle held
        refine (turn visited item rest whole middle held).bind fun _ next held' => ?_
        exact inductionHypothesis (visited ++ [item]) (by rw [whole, List.append_assoc]; rfl) next
          held'
  exact run items [] rfl state begun

/-- The output as it was before the first channel was decoded. -/
structure Regions (before : Heap) (output : Value) (name : Nat) (shape : Kernel.RegionShape)
    (data : Storage) : Prop where
  fills : output.Fills before name shape.sizes data
  float : data.dtype.isFloat = true
  counts : data.size ≤ Nat.pow 2 63

/-- Some channels of the output were decoded, and since some point no other storage was
written. -/
structure Decoded (before start heap : Heap) (output : Value) (name : Nat)
    (shape : Kernel.RegionShape) (data : Storage) (done : Set (List Nat)) : Prop where
  rewritten : output.Rewritten (fun coordinates element =>
    shape.decode data coordinates = .ok element) done before heap
  spares : start.Spares name heap

/-- An anchor in a cell, with scalars for the row and the column. -/
structure Spot (heap : Heap) (name : Nat) (shape : Kernel.RegionShape) (row column anchor : Nat)
    (r c : Scalar) : Prop where
  row_at : Counts heap name r row
  column_at : Counts heap name c column
  top : row < shape.rows
  side : column < shape.columns
  few : anchor < shape.anchors

theorem Spot.spared (spot : Spot heap name shape row column anchor r c)
    (spares : heap.Spares name later) : Spot later name shape row column anchor r c :=
  { spot with
    row_at := spot.row_at.spared spares
    column_at := spot.column_at.spared spares }

theorem Spot.inside (spot : Spot heap name shape row column anchor r c)
    (within : position < shape.width) :
    (Layout.packed shape.sizes).Inside [row, column, anchor * shape.width + position] :=
  Layout.inside_packed.mpr (.cons spot.top (.cons spot.side
    (.cons (Storage.row_inside spot.few within) .nil)))

/-- The classes of an anchor as a vector of their own. -/
theorem Spot.labels_window (spot : Spot heap name shape row column anchor r c)
    (stands : output.Stands heap name 0) (shaped : output.layout? = some (Layout.packed shape.sizes))
    (some : 0 < shape.classes) :
    let first := 0 + (Layout.packed shape.sizes).place
      [row, column, anchor * shape.width + Kernel.boxChannels]
    first + (Layout.packed [shape.classes]).span ≤ (heap.storage name).size ∧
      Value.Window heap output (output.shown name first (Layout.packed [shape.classes]))
        [shape.classes] (shape.labelAt row column anchor) := by
  have inside (label : Nat) (below : label < shape.classes) := spot.inside
    (show Kernel.boxChannels + label < shape.width from Nat.add_lt_add_left below _)
  have within := (inside 0 some).place_lt
  rw [shape.place_label, Nat.add_zero] at within
  have fits := (stands.fits _ shaped).2
  have part : _ ∧ Value.Window heap output _ _ (shape.labelAt row column anchor) :=
    stands.window shaped (.packed [shape.classes])
    ((Layout.packed shape.sizes).place [row, column, anchor * shape.width + Kernel.boxChannels])
    (by omega) fun coordinates lies => by
      obtain _ | @⟨label, _, _, _, below, _ | _⟩ := Layout.inside_packed.mp lies
      refine ⟨inside label below, ?_⟩
      have single : (Layout.packed [shape.classes]).place [label] = label :=
        (Layout.place_packed_eq rfl).trans (Layout.rowIndex_single _ _)
      rw [single]
      exact shape.place_label row column anchor label
  rwa [Layout.logicalSizes_packed] at part

namespace Regions

theorem few (regions : Regions before output name shape data) :
    (Layout.packed shape.sizes).elementCount ≤ Nat.pow 2 63 := by
  rw [Layout.elementCount_packed, ← regions.fills.sized]
  exact regions.counts

theorem dtype_score (regions : Regions before output name shape data)
    (spot : Spot heap name shape row column anchor r c) (within : position < shape.width) :
    (shape.score data row column anchor position).dtype = data.dtype :=
  Storage.dtype_entry regions.fills.sized (spot.inside within)

/-- One channel is decoded, in place. -/
theorem channel_yields {action : Scalar → Host ρ Scalar} {result : Literal}
    (regions : Regions before output name shape data)
    (decoded : Decoded before start state.heap output name shape data done)
    (spot : Spot state.heap name shape row column anchor r c) (within : position < shape.width)
    (fresh : [row, column, anchor * shape.width + position] ∉ done)
    (maps : Maps action (shape.score data row column anchor position) result)
    (made : shape.decodeScore data row column anchor position = .ok result)
    (typed : result.dtype = data.dtype) :
    Yields (do
      let score ← (do
        Kernel.element output [r, c, ← Scalar.index (anchor * shape.width + position)])
      score.assign (← action score) : Host ρ Unit) state fun _ after =>
        Decoded before state.heap after.heap output name shape data
          (insert [row, column, anchor * shape.width + position] done) := by
  have stands := regions.fills.stands
  have shaped := regions.fills.shaped
  have inside := spot.inside within
  have known := stands.known.trans_le decoded.rewritten.keeps.next
  have found : Yields (do
      Kernel.element output [r, c, ← Scalar.index (anchor * shape.width + position)] :
        Host ρ Scalar) state fun score after => state.heap.Grows after.heap ∧
      score = item data.dtype name (0 +
        (Layout.packed shape.sizes).place [row, column, anchor * shape.width + position]) := by
    refine (index_yields _ known).bind fun index middle ⟨growing, index_at⟩ => ?_
    have spot' := spot.spared (.of_grows growing)
    refine .of_done (element_found ((stands.keeps decoded.rewritten.keeps).keeps
      (.of_grows growing)) shaped regions.fills.typed (named_of_inside
        (.cons spot'.row_at (.cons spot'.column_at (.cons index_at .nil))) inside regions.few)
        inside) ⟨growing, rfl⟩
  refine found.bind ?_
  rintro _ middle ⟨growing, rfl⟩
  have rewritten := decoded.rewritten.grows stands growing
  have reads := element_before rewritten stands stands (.inr ⟨rfl, rfl⟩) shaped regions.fills.typed
    inside fresh (regions.fills.get_entry inside)
  obtain ⟨answer, next, ran, growing', reads'⟩ := maps _ middle reads
  refine .behind ran ((element_rewritten (rewritten.grows stands growing') stands shaped
    regions.fills.typed inside ((Kernel.RegionShape.decode_channel within).trans made) reads' typed).mono
      fun _ after both => ⟨both.1, ?_⟩)
  exact (Heap.Spares.of_grows (growing.trans growing')).trans both.2

/-- Some channels of an anchor are decoded by one function. -/
theorem channels_yield {action : Scalar → Host ρ Scalar} {others : List Nat}
    (positions : List Nat) (regions : Regions before output name shape data)
    (decoded : Decoded before start state.heap output name shape data
      (done ∪ shape.channelsOf [[row, column]] [anchor] others))
    (spot : Spot state.heap name shape row column anchor r c)
    (distinct : (others ++ positions).Nodup)
    (within : ∀ position ∈ others ++ positions, position < shape.width)
    (fresh : ∀ position < shape.width, [row, column, anchor * shape.width + position] ∉ done)
    (each : ∀ position ∈ positions, ∃ result,
      Maps action (shape.score data row column anchor position) result ∧
        shape.decodeScore data row column anchor position = .ok result ∧
          result.dtype = data.dtype) :
    Yields (Kernel.each positions (fun position => do
      let score ← (do
        Kernel.element output [r, c, ← Scalar.index (anchor * shape.width + position)])
      score.assign (← action score)) : Host ρ Unit) state fun _ after =>
        Decoded before state.heap after.heap output name shape data
          (done ∪ shape.channelsOf [[row, column]] [anchor] (others ++ positions)) := by
  let holds (visited : List Nat) (heap : Heap) : Prop :=
    Decoded before state.heap heap output name shape data
      (done ∪ shape.channelsOf [[row, column]] [anchor] (others ++ visited))
  refine @yields_each _ _ _ _ _ holds ?_ ⟨(List.append_nil others).symm ▸ decoded.rewritten,
    .refl _ _⟩
  intro visited position rest whole middle decoded
  subst whole
  have here := within position (by simp)
  obtain ⟨result, maps, made, typed⟩ := each position (by simp)
  have apart : [row, column, anchor * shape.width + position] ∉
      done ∪ shape.channelsOf [[row, column]] [anchor] (others ++ visited) := by
    rw [← List.append_assoc] at distinct within
    rintro (seen | seen)
    · exact fresh position here seen
    · have seen := (Kernel.RegionShape.mem_channelsOf here fun other member =>
        within other (List.mem_append_left _ member)).mp seen
      exact (List.nodup_append'.mp distinct).2.2 seen.2.2 List.mem_cons_self
  refine (regions.channel_yields decoded (spot.spared decoded.spares) here apart maps made
    typed).mono fun _ after decoded' => ?_
  rw [Kernel.RegionShape.insert_channel, List.append_assoc] at decoded'
  exact ⟨decoded'.rewritten, decoded.spares.trans decoded'.spares⟩

/-- The classes of an anchor are decoded at once, in place. -/
theorem classes_yield (regions : Regions before output name shape data)
    (decoded : Decoded before start state.heap output name shape data done)
    (spot : Spot state.heap name shape row column anchor r c) (some : 0 < shape.classes)
    (fresh : ∀ label < shape.classes,
      [row, column, anchor * shape.width + (Kernel.boxChannels + label)] ∉ done) :
    Yields (do
      let start ← Kernel.offset output
        [r, c, ← Scalar.index (anchor * shape.width + Kernel.boxChannels)]
      let run ← Kernel.ofExcept
        (Vector.ofValue (← Kernel.withLayout start (Layout.packed [shape.classes])))
      Kernel.softmax run run : Host ρ Unit) state fun _ after =>
        Decoded before state.heap after.heap output name shape data
          (done ∪ shape.channelsOf [[row, column]] [anchor]
            ((List.range shape.classes).map (Kernel.boxChannels + ·))) := by
  have stands := regions.fills.stands
  have shaped := regions.fills.shaped
  have known := stands.known.trans_le decoded.rewritten.keeps.next
  have inside (label : Nat) (below : label < shape.classes) := spot.inside
    (show Kernel.boxChannels + label < shape.width from Nat.add_lt_add_left below _)
  refine (index_yields _ known).bind fun index middle ⟨growing, index_at⟩ => ?_
  have spot' := spot.spared (.of_grows growing)
  have rewritten := decoded.rewritten.grows stands growing
  have here := stands.keeps rewritten.keeps
  have named := named_of_inside (.cons spot'.row_at (.cons spot'.column_at (.cons index_at .nil)))
    (inside 0 some) regions.few
  obtain ⟨room, window⟩ := spot'.labels_window here shaped some
  have within := (inside 0 some).place_lt
  rw [shape.place_label, Nat.add_zero] at within
  have fits := (here.fits _ shaped).2
  have moved := offset_done here shaped named rfl (by omega)
  obtain ⟨run, made, same⟩ := vector_of_shown regions.fills.typed (Layout.rank_packed [shape.classes])
    name (0 + _)
  have stands' : run.value.Stands middle.heap name _ := same ▸ here.shown (.packed _) room
  have typed : run.dtype = data.dtype :=
    Option.some.inj (run.typed.symm.trans ((congrArg Value.dtype? same).trans regions.fills.typed))
  have axes := Vector.axes_of_shaped (congrArg Value.layout? same)
  have sized : run.size = shape.classes := (congrArg Axis.size (List.singleton_inj.mp axes)).symm
  have lists : run.Lists middle.heap (shape.scores data row column anchor) := by
    have counted : (shape.scores data row column anchor).length = shape.classes :=
      (List.length_map _).trans List.length_range
    refine ⟨counted.trans sized.symm, fun label element found => ?_⟩
    obtain ⟨within, rfl⟩ := List.getElem?_eq_some_iff.mp found
    have below := within.trans_eq counted
    simp only [Kernel.RegionShape.scores, List.getElem_map, List.getElem_range]
    have lies := (stands.lies_iff shaped).mpr ⟨inside label below, rfl, rfl⟩
    have read := rewritten.get_beside stands lies (Value.Separate.unvisited (.inr ⟨rfl, rfl⟩) stands
      lies (fresh label below)) (regions.fills.get_entry (inside label below))
    have shown := (window.lies [label] _ _).mpr ⟨.cons below .nil, lies⟩
    rw [same, shown.get]
    rwa [lies.get] at read
  have softens : Softens middle.heap run run name _ name _ (shape.scores data row column anchor) :=
    { stands := stands'
      stands' := stands'
      sized := rfl
      typed := rfl
      float := typed ▸ regions.float
      counts := by
        have last := (inside (shape.classes - 1) (by omega)).lt_elementCount
          (List.mem_cons_of_mem _ (List.mem_cons_of_mem _ List.mem_cons_self))
        rw [Layout.elementCount_logicalSizes] at last
        have few := regions.few
        omega
      separate := .inr ⟨rfl, rfl⟩
      lists := lists }
  obtain ⟨_, _, _, results, normalizes⟩ := Literal.exists_normalizes softens.float softens.kinds
  refine .behind moved (.behind (withLayout_done rfl room) (.behind (ofExcept_ok.mpr ⟨made, rfl⟩)
    ((softmax_yields softens normalizes.done).mono fun _ after inner =>
      ⟨?_, (Heap.Spares.of_grows growing).trans (inner.sparing stands')⟩)))
  · have done' := typed ▸ normalizes.done
    rw [same] at inner
    refine rewritten.through inner stands window ?_ fun coordinates =>
      or_congr_right Kernel.RegionShape.mem_labels
    rintro _ element ⟨label, rfl, found⟩ below
    obtain _ | ⟨below, _ | _⟩ := below
    exact (Kernel.RegionShape.decode_channel (Nat.add_lt_add_left below _)).trans
      (Kernel.RegionShape.decodeScore_class done' found)

/-- All channels of an anchor are decoded. -/
theorem anchor_yields (regions : Regions before output name shape data)
    (decoded : Decoded before start state.heap output name shape data done)
    (spot : Spot state.heap name shape row column anchor r c)
    (fresh : ∀ position < shape.width, [row, column, anchor * shape.width + position] ∉ done) :
    Yields (Kernel.decodeAnchor shape.classes (anchor * shape.width) output r c : Host ρ Unit)
      state fun _ after => Decoded before state.heap after.heap output name shape data
        (done ∪ shape.channelsOf [[row, column]] [anchor] (List.range shape.width)) := by
  have box (position : Nat) (member : position ∈ [0, 1, 4, 2, 3]) : position < shape.width :=
    Kernel.RegionShape.box_lt_width member
  have float (position : Nat) (within : position < shape.width) :
      (shape.score data row column anchor position).dtype.isFloat = true :=
    regions.dtype_score spot within ▸ regions.float
  have begun : Decoded before start state.heap output name shape data
      (done ∪ shape.channelsOf [[row, column]] [anchor] []) := by
    rwa [Kernel.RegionShape.channelsOf_no_positions, Set.union_empty]
  refine (regions.channels_yield [0, 1, 4] begun spot (by decide)
    (fun position member => box position (List.mem_append_left [2, 3] member)) fresh
    fun position member => ?_).bind fun _ one decoded₁ => ?_
  · have within := box position (List.mem_append_left [2, 3] member)
    obtain ⟨result, made, typed, maps⟩ := maps_logistic (float position within)
    exact ⟨result, maps, (Kernel.RegionShape.decodeScore_centre member).trans made,
      typed.trans (regions.dtype_score spot within)⟩
  have spot₁ := spot.spared decoded₁.spares
  refine (regions.channels_yield [2, 3] decoded₁ spot₁ (by decide) box fresh
    fun position member => ?_).bind fun _ two decoded₂ => ?_
  · have within := box position (List.mem_append_right [0, 1, 4] member)
    obtain ⟨result, made, typed⟩ := Literal.float_unary .exp nofun (float position within)
    exact ⟨result, fun scalar middle reads => gives_unary reads made,
      (Kernel.RegionShape.decodeScore_size member).trans made,
      typed.trans (regions.dtype_score spot within)⟩
  have spot₂ := spot₁.spared decoded₂.spares
  have spares := decoded₁.spares.trans decoded₂.spares
  rw [← Kernel.RegionShape.channelsOf_congr shape.mem_box_labels,
    Kernel.RegionShape.channelsOf_positions, ← Set.union_assoc]
  split
  · rename_i some
    refine (regions.classes_yield decoded₂ spot₂ some fun label below => ?_).mono
      fun _ after decoded₃ => ⟨decoded₃.rewritten, spares.trans decoded₃.spares⟩
    have here := Nat.add_lt_add_left below Kernel.boxChannels
    rintro (seen | seen)
    · exact fresh _ here seen
    · have before := Kernel.RegionShape.box_lt
        ((Kernel.RegionShape.mem_channelsOf here box).mp seen).2.2
      omega
  · rename_i none
    rw [Nat.eq_zero_of_not_pos none, List.range_zero, List.map_nil,
      Kernel.RegionShape.channelsOf_no_positions, Set.union_empty]
    exact .of_done rfl ⟨decoded₂.rewritten, spares⟩

/-- All anchors of a cell are decoded. -/
theorem cell_yields (regions : Regions before output name shape data)
    (decoded : Decoded before start state.heap output name shape data done)
    (row_at : Counts state.heap name r row) (column_at : Counts state.heap name c column)
    (top : row < shape.rows) (side : column < shape.columns)
    (fresh : ∀ anchor, ∀ position < shape.width,
      [row, column, anchor * shape.width + position] ∉ done) :
    Yields (Kernel.decodeCell shape.anchors shape.classes output [r, c] : Host ρ Unit) state
      fun _ after => Decoded before state.heap after.heap output name shape data
        (done ∪ shape.channelsOf [[row, column]] (List.range shape.anchors)
          (List.range shape.width)) := by
  let holds (visited : List Nat) (heap : Heap) : Prop :=
    Decoded before state.heap heap output name shape data
      (done ∪ shape.channelsOf [[row, column]] visited (List.range shape.width))
  refine @yields_each _ _ _ _ _ holds ?_ ⟨?_, .refl _ _⟩
  · intro visited anchor rest whole middle decoded
    have few : anchor < shape.anchors :=
      List.mem_range.mp (whole ▸ List.mem_append_right _ List.mem_cons_self)
    have distinct : (visited ++ anchor :: rest).Nodup := whole ▸ List.nodup_range
    have spot : Spot middle.heap name shape row column anchor r c :=
      ⟨row_at.spared decoded.spares, column_at.spared decoded.spares, top, side, few⟩
    refine (regions.anchor_yields decoded spot fun position within => ?_).mono
      fun _ after decoded' => ?_
    · rintro (seen | seen)
      · exact fresh anchor position within seen
      · have seen := (Kernel.RegionShape.mem_channelsOf within fun _ => List.mem_range.mp).mp seen
        exact (List.nodup_append'.mp distinct).2.2 seen.2.1 List.mem_cons_self
    · rw [Set.union_assoc, ← Kernel.RegionShape.channelsOf_anchors] at decoded'
      exact ⟨decoded'.rewritten, decoded.spares.trans decoded'.spares⟩
  · rw [Kernel.RegionShape.channelsOf_no_anchors, Set.union_empty]
    exact decoded.rewritten

end Regions

/-- Region detection decodes each channel from the input alone. -/
theorem regions_yield {input : Value} {name' : Nat} {old : Storage}
    (fills : input.Fills state.heap name shape.sizes data)
    (fills' : output.Fills state.heap name' shape.sizes old) (typed : old.dtype = data.dtype)
    (float : data.dtype.isFloat = true) (counts : data.size ≤ Nat.pow 2 63)
    (different : name ≠ name') :
    Yields (Kernel.decodeRegions shape.anchors shape.classes input output : Host ρ Unit) state
      fun _ after => output.Rewritten (fun coordinates element =>
        shape.decode data coordinates = .ok element) Set.univ state.heap after.heap := by
  have few : (Layout.packed shape.sizes).elementCount ≤ Nat.pow 2 63 := by
    rwa [Layout.elementCount_packed, ← fills.sized]
  have dtypes : input.dtype? = output.dtype? :=
    fills.typed.trans ((congrArg some typed).symm.trans fills'.typed.symm)
  refine (assign_yields fills'.stands fills'.shaped fills.stands fills.shaped rfl dtypes different
    few).bind fun _ one copied => ?_
  -- the output is a copy of the input before it is decoded
  have regions : Regions one.heap output name' shape data := by
    obtain ⟨new, later, typed', each⟩ := fills'.of_rewritten copied
    obtain rfl : new = data := Storage.ext_entry (typed'.trans typed) later.sized fills.sized
      fun coordinates inside =>
        Except.ok.inj ((each coordinates inside).symm.trans (fills.get_entry inside))
    exact ⟨later, float, counts⟩
  let holds (visited : List (List Nat)) (heap : Heap) : Prop :=
    output.Rewritten (fun coordinates element => shape.decode data coordinates = .ok element)
      (shape.channelsOf visited (List.range shape.anchors) (List.range shape.width)) one.heap heap
  have turns : Turns name' (Layout.packed [shape.rows, shape.columns]).logicalSizes
      (Kernel.decodeCell shape.anchors shape.classes output : List Scalar → Host ρ Unit)
      one.heap holds := by
    refine ⟨fun visited heap later rewritten growing =>
      rewritten.grows regions.fills.stands growing, ?_⟩
    intro visited coordinates rest whole scalars middle spares rewritten counted
    obtain ⟨row, column, rfl, top, side⟩ : ∃ row column, coordinates = [row, column] ∧
        row < shape.rows ∧ column < shape.columns := by
      have inside := Layout.inside_packed.mp (inside_of_split whole)
      obtain _ | ⟨top, _ | ⟨side, _ | _⟩⟩ := inside
      exact ⟨_, _, rfl, top, side⟩
    obtain _ | ⟨row_at, _ | ⟨column_at, _ | _⟩⟩ := counted
    have distinct : (visited ++ [row, column] :: rest).Nodup := whole ▸ Layout.rowMajor_nodup _
    refine (regions.cell_yields ⟨rewritten, spares⟩ row_at column_at top side
      fun anchor position within seen => ?_).mono fun _ after decoded => ?_
    · have seen := (Kernel.RegionShape.mem_channelsOf within fun _ => List.mem_range.mp).mp seen
      exact (List.nodup_append'.mp distinct).2.2 seen.1 List.mem_cons_self
    · rw [← Kernel.RegionShape.channelsOf_cells] at decoded
      exact ⟨decoded.spares, decoded.rewritten⟩
  have increment : (Layout.packed shape.sizes).logicalIncrement 2 = .ok 1 := rfl
  refine .behind (ofExcept_ok.mpr ⟨fills'.layout, rfl⟩) (.behind (ofExcept_ok.mpr ⟨increment, rfl⟩) ?_)
  rw [if_neg (not_not.mpr rfl)]
  have begun : holds [] one.heap := by
    change output.Rewritten _ (shape.channelsOf [] _ _) _ _
    rw [Kernel.RegionShape.channelsOf_no_cells]
    exact .start one.heap
  refine (yields_forEach turns regions.fills.stands.known begun).mono fun _ after both =>
    copied.again (both.2.whole fun coordinates storage index lies => ?_)
  exact Kernel.RegionShape.mem_channels
    ((regions.fills.stands.lies_iff regions.fills.shaped).mp lies).1

end Host
end TensorGraph

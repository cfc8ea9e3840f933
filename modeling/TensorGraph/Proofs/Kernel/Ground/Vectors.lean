/-
Tensors of one shape, vectors and matrices on a ground.

A layer that visits the elements of tensors of one shape runs through.  All its
coordinates come from loops over this shape, and arithmetic on floating point
numbers has no faults; only where elements of other types are combined can there
be one.

All vectors and matrices of a layer are packed, so what is known of their values
says how long they are.  The lines of a packed matrix are packed rows of its
storage.
-/

import TensorGraph.Kernel.Layer.Activation
import TensorGraph.Kernel.Layer.Channel
import TensorGraph.Kernel.Layer.Dense
import TensorGraph.Kernel.Window
import TensorGraph.Proofs.Kernel.Ground.Tensors

namespace TensorGraph.Ground

variable {allowed : Fault → Prop} {ground later : Ground allowed} {ρ α β : Type}
  {dtype : DType} {layout layout' : Layout} {value target source input output : Value}

/-! ### Whole tensors -/

theorem Tensor.compatible (tensor : ground.Tensor dtype layout target)
    (tensor' : ground.Tensor dtype layout' source)
    (sizes : layout'.logicalSizes = layout.logicalSizes) :
    Kernel.checkCompatible target source = .ok () := by
  unfold Kernel.checkCompatible
  rw [tensor.ready, tensor'.ready, tensor.typed, tensor'.typed]
  simp only [bind, Except.bind, sizes, ne_eq, not_true_eq_false, if_false]
  rfl

namespace Runs

theorem assignAll (tensor : ground.Tensor dtype layout target)
    (tensor' : ground.Tensor dtype layout' source)
    (sizes : layout'.logicalSizes = layout.logicalSizes) :
    ground.Runs (Kernel.assign target source : Host ρ Unit) fun _ _ => True := by
  refine (exactly (tensor.compatible tensor' sizes)).bind ?_
  intro one _ growing _
  refine forEachOf (tensor.mono growing) fun two coordinates growing' within => ?_
  refine (element (tensor.mono (by grind)) within).bind fun three old growing₃ spot => ?_
  refine (element (tensor'.mono (by grind)) (sizes ▸ within.mono growing₃)).bind ?_
  intro four new growing₄ spot'
  exact Runs.assign (spot.mono growing₄) spot'

theorem elementwise {op : BinaryOp} (combines : Combines allowed dtype op)
    (tensor : ground.Tensor dtype layout target) (tensor' : ground.Tensor dtype layout' source)
    (sizes : layout'.logicalSizes = layout.logicalSizes) :
    ground.Runs (Kernel.elementwise target source op : Host ρ Unit) fun _ _ => True := by
  refine (exactly (tensor.compatible tensor' sizes)).bind ?_
  intro one _ growing _
  refine forEachOf (tensor.mono growing) fun two coordinates growing' within => ?_
  refine (element (tensor.mono (by grind)) within).bind fun three old growing₃ spot => ?_
  refine (element (tensor'.mono (by grind)) (sizes ▸ within.mono growing₃)).bind ?_
  intro four other growing₄ spot'
  refine (binary combines (spot.mono growing₄) spot').bind fun five result growing₅ spot₅ => ?_
  exact Runs.assign (by grind) spot₅

theorem fill {scalar : Scalar} (tensor : ground.Tensor dtype layout target)
    (spot : ground.Spot dtype scalar) :
    ground.Runs (Kernel.fill target scalar : Host ρ Unit) fun _ _ => True := by
  refine (exactly tensor.ready).bind ?_
  rintro one _ growing rfl
  refine forEach fun two coordinates growing' within => ?_
  refine (element (tensor.mono (by grind)) within).bind fun three old growing₃ spot₃ => ?_
  exact Runs.assign spot₃ (by grind)

/-! ### Functions of one scalar -/

variable {x : Scalar}

theorem logistic (float : dtype.isFloat = true) (spot : ground.Spot dtype x) :
    ground.Runs (ActivationFunction.logistic x : Host ρ Scalar) fun later answer =>
      later.Spot dtype answer := by
  unfold ActivationFunction.logistic
  refine (unary float .neg nofun spot).bind fun one negated growing₁ spot₁ => ?_
  refine (unary float .exp nofun spot₁).bind fun two power growing₂ spot₂ => ?_
  refine (like (spot.mono (by grind)) 1.0).bind fun three unit growing₃ spot₃ => ?_
  refine (binary (combines_float float .add) spot₃ (by grind)).bind ?_
  intro four sum growing₄ spot₄
  exact binary (combines_float float .div) (spot₃.mono growing₄) spot₄

/-- One step of arithmetic with a constant of the same type. -/
private theorem withConstant (float : dtype.isFloat = true) (op : BinaryOp) (number : Float)
    {y : Scalar} (spot : ground.Spot dtype x) (spot' : ground.Spot dtype y) :
    ground.Runs (do x.binary op (← y.like number) : Host ρ Scalar) fun later answer =>
      later.Spot dtype answer :=
  (like spot' number).bind fun _ _ growing spot₁ =>
    binary (combines_float float op) (spot.mono growing) spot₁

theorem apply (function : ActivationFunction) (float : dtype.isFloat = true)
    (spot : ground.Spot dtype x) :
    ground.Runs (function.apply x : Host ρ Scalar) fun later answer =>
      later.Spot dtype answer := by
  cases function with
  | relu => exact withConstant float .max 0.0 spot spot
  | leakyRelu alpha =>
      refine (like spot alpha).bind fun one factor growing₁ spot₁ => ?_
      refine (binary (combines_float float .mul) (spot.mono growing₁) spot₁).bind ?_
      intro two scaled growing₂ spot₂
      exact binary (combines_float float _) (spot.mono (growing₁.trans growing₂)) spot₂
  | sigmoid => exact logistic float spot
  | tanh => exact unary float .tanh nofun spot
  | hardSigmoid =>
      refine (like spot 0.2).bind fun one factor growing₁ spot₁ => ?_
      refine (binary (combines_float float .mul) (by grind) spot₁).bind ?_
      intro two scaled growing₂ spot₂
      refine (like (spot.mono (by grind)) 0.5).bind fun three half growing₃ spot₃ => ?_
      refine (binary (combines_float float .add) (by grind) spot₃).bind ?_
      intro four shifted growing₄ spot₄
      refine (like (spot.mono (by grind)) 0.0).bind fun five zero growing₅ spot₅ => ?_
      refine (binary (combines_float float .max) (by grind) spot₅).bind ?_
      intro six raised growing₆ spot₆
      refine (like (spot.mono (by grind)) 1.0).bind fun seven unit growing₇ spot₇ => ?_
      exact binary (combines_float float .min) (by grind) spot₇

/-- Every element of the output becomes the function of that of the input. -/
theorem activate (function : ActivationFunction) (float : dtype.isFloat = true)
    (tensor : ground.Tensor dtype layout' input) (tensor' : ground.Tensor dtype layout output)
    (sizes : layout'.logicalSizes = layout.logicalSizes) :
    ground.Runs (Kernel.activate function input output : Host ρ Unit) fun _ _ => True := by
  refine forEachOf tensor' fun one coordinates growing within => ?_
  refine (element (tensor.mono growing) (sizes ▸ within)).bind fun two x growing₂ spot₂ => ?_
  refine (apply function float spot₂).bind fun three y growing₃ spot₃ => ?_
  refine (element (tensor'.mono (by grind)) (within.mono (by grind))).bind ?_
  intro four place growing₄ spot₄
  exact Runs.assign spot₄ (by grind)

/-! ### Channels -/

/-- The channels of a shape. -/
private theorem last_below {limits sizes : List Nat} (below : List.Forall₂ (· < ·) limits sizes)
    {limit : Nat} (last : limits.getLast? = some limit) : limit < sizes.getLastD 1 := by
  have reversed := List.forall₂_reverse_iff.mpr below
  rw [← List.head?_reverse] at last
  rw [List.getLastD_eq_getLast?, ← List.head?_reverse]
  generalize limits.reverse = backwards at *
  generalize sizes.reverse = backwards' at *
  cases reversed with
  | nil => cases last
  | cons least _ =>
      cases last
      exact least

theorem channelOf {sizes : List Nat} {coordinates : List Scalar}
    (within : ground.Within sizes coordinates) :
    ground.Runs (Kernel.channelOf coordinates : Host ρ Scalar) fun later channel =>
      later.Within [sizes.getLastD 1] [channel] := by
  obtain ⟨limits, below, names⟩ := within
  have reversed := List.forall₂_reverse_iff.mpr names
  have last (limit : Nat) (same : limits.reverse.head? = some limit) :
      limit < sizes.getLastD 1 := last_below below (List.head?_reverse.symm.trans same)
  unfold Kernel.channelOf
  rw [← List.head?_reverse]
  generalize coordinates.reverse = backwards' at *
  cases backwards : limits.reverse with
  | nil =>
      rw [backwards] at reversed
      cases reversed
      obtain rfl : limits = [] := List.reverse_eq_nil_iff.mp backwards
      cases below
      exact (index 0).weaken fun later channel _ named => .cons named Nat.one_pos .nil
  | cons limit others =>
      rw [backwards] at reversed last
      cases reversed with
      | cons named _ => exact pure (.cons named (last limit rfl) .nil)

variable {parameter : Value} {channels : Nat}

/-- A parameter with one element a channel. -/
private theorem factorOf (known : ground.Tensor dtype (Layout.packed [channels]) parameter)
    {channel : Scalar} (within : ground.Within [channels] [channel]) :
    ground.Runs (Kernel.element parameter [channel] : Host ρ Scalar) fun later scalar =>
      later.Spot dtype scalar := by
  refine element known ?_
  rwa [Layout.logicalSizes_packed]

theorem perChannel {op : BinaryOp} (float : dtype.isFloat = true)
    (known : ground.Tensor dtype (Layout.packed [channels]) parameter)
    (tensor : ground.Tensor dtype layout' input) (tensor' : ground.Tensor dtype layout output)
    (sizes : layout'.logicalSizes = layout.logicalSizes)
    (last : channels = layout.logicalSizes.getLastD 1) :
    ground.Runs (Kernel.perChannel op parameter input output : Host ρ Unit) fun _ _ => True := by
  subst last
  refine forEachOf tensor' fun one coordinates growing within => ?_
  refine (channelOf within).bind fun two channel growing₂ here => ?_
  refine (factorOf (known.mono (by grind)) here).bind fun three factor growing₃ spot₃ => ?_
  refine (element (tensor.mono (by grind)) (sizes ▸ within.mono (by grind))).bind ?_
  intro four x growing₄ spot₄
  refine (binary (combines_float float op) spot₄ (by grind)).bind fun five y growing₅ spot₅ => ?_
  refine (element (tensor'.mono (by grind)) (within.mono (by grind))).bind ?_
  intro six place growing₆ spot₆
  exact Runs.assign spot₆ (by grind)

theorem normalize {mean scale : Value} (float : dtype.isFloat = true)
    (known : ground.Tensor dtype (Layout.packed [channels]) mean)
    (known' : ground.Tensor dtype (Layout.packed [channels]) scale)
    (tensor : ground.Tensor dtype layout' input) (tensor' : ground.Tensor dtype layout output)
    (sizes : layout'.logicalSizes = layout.logicalSizes)
    (last : channels = layout.logicalSizes.getLastD 1) :
    ground.Runs (Kernel.normalize mean scale input output : Host ρ Unit) fun _ _ => True := by
  subst last
  refine forEachOf tensor' fun one coordinates growing within => ?_
  refine (channelOf within).bind fun two channel growing₂ here => ?_
  refine (factorOf (known.mono (by grind)) here).bind fun three center growing₃ spot₃ => ?_
  refine (factorOf (known'.mono (by grind)) (here.mono growing₃)).bind ?_
  intro four factor growing₄ spot₄
  refine (element (tensor.mono (by grind)) (sizes ▸ within.mono (by grind))).bind ?_
  intro five x growing₅ spot₅
  refine (binary (combines_float float .sub) spot₅ (by grind)).bind ?_
  intro six centered growing₆ spot₆
  refine (binary (combines_float float .mul) spot₆ (by grind)).bind fun seven y growing₇ spot₇ => ?_
  refine (element (tensor'.mono (by grind)) (within.mono (by grind))).bind ?_
  intro eight place growing₈ spot₈
  exact Runs.assign spot₈ (by grind)

end Runs

end TensorGraph.Ground

namespace TensorGraph.Ground

variable {allowed : Fault → Prop} {ground later : Ground allowed} {ρ α β : Type}
  {dtype : DType} {value input output : Value} {sizes : List Nat} {size rows columns : Nat}

/-! ### Vectors -/

/-- A packed vector. -/
def Row (ground : Ground allowed) (dtype : DType) (size : Nat) (vector : Vector) : Prop :=
  ground.Tensor dtype (Layout.packed [size]) vector.value

variable {vector left right : Vector}

@[grind →]
theorem Row.mono (row : ground.Row dtype size vector) (growing : ground.Later later) :
    later.Row dtype size vector :=
  Tensor.mono row growing

theorem Row.typed (row : ground.Row dtype size vector) : vector.dtype = dtype :=
  Option.some.inj (vector.typed.symm.trans (Tensor.dtype row))

theorem Row.axes (row : ground.Row dtype size vector) : vector.axis =
    { size := size, extent := size, offset := 0, increment := 1, logical := 0 } := by
  have one := vector.rankOne
  rw [Tensor.layout row] at one
  exact (List.head_eq_of_cons_eq (Option.some.inj one)).symm

theorem Row.sized (row : ground.Row dtype size vector) : vector.size = size := by
  unfold Vector.size
  rw [row.axes]

theorem Row.dense (row : ground.Row dtype size vector) : vector.increment = 1 := by
  unfold Vector.increment
  rw [row.axes]

theorem Row.counts (row : ground.Row dtype size vector) : Counts allowed size := by
  have counts := Tensor.counts row
  rwa [Layout.logicalSizes_packed, Layout.elementCount_single] at counts

theorem Row.room (row : ground.Row dtype size vector) : ∃ name base room,
    vector.value.place = .host name base ∧ ground.room? name = some (.row dtype room) ∧
      base + size ≤ room := by
  obtain ⟨name, base, room, placed, known, fits⟩ := Tensor.place row
  rw [Layout.span_packed, Layout.elementCount_single] at fits
  exact ⟨name, base, room, placed, known, fits⟩

theorem Tensor.toVector (tensor : ground.Tensor dtype (Layout.packed [size]) value) :
    ∃ vector : Vector, Vector.ofValue value = .ok vector ∧ ground.Row dtype size vector := by
  obtain ⟨_, _, _⟩ := value
  have ready := tensor.ready
  cases tensor.dtype
  cases tensor.layout
  unfold Vector.ofValue
  rw [ready]
  dsimp only
  split
  · rename_i axis single
    split
    · exact ⟨_, rfl, tensor⟩
    · rename_i missing
      exact (missing (congrArg some single)).elim
  · rename_i others
    exact (others _ rfl).elim

namespace Runs

theorem vectorOf (tensor : ground.Tensor dtype (Layout.packed [size]) value) :
    ground.Runs (Kernel.ofExcept (Vector.ofValue value) : Host ρ Vector) fun later vector =>
      later.Row dtype size vector := by
  obtain ⟨vector, done, row⟩ := tensor.toVector
  exact answered done row

/-- A packed tensor as one row. -/
theorem row (tensor : ground.Tensor dtype (Layout.packed sizes) value) :
    ground.Runs (Kernel.row value : Host ρ Vector) fun later vector =>
      later.Row dtype (elementCount sizes) vector := by
  have flat : ground.Runs (Kernel.read value.flatten : Host ρ Value) fun later answer =>
      later.Tensor dtype (Layout.packed [elementCount sizes]) answer := by
    refine read fun heap holds => .inl ?_
    obtain ⟨name, base, size, placed, known, room⟩ := tensor.place
    obtain ⟨-, -, sized⟩ := holds name _ known
    have count := Layout.elementCount_single (elementCount sizes)
    have counts := tensor.counts
    rw [Layout.span_packed] at room
    rw [Layout.logicalSizes_packed] at counts
    have fits : Value.checkFits (Layout.packed [elementCount sizes]) base
        (heap.storage name).size = .ok () := by
      unfold Value.checkFits
      rw [Layout.span_packed, count, if_neg (by omega)]
    refine ⟨{ value with layout? := some (Layout.packed [elementCount sizes]) }, ?_, ?_⟩
    · unfold Value.flatten
      rw [tensor.ready]
      change (if (Layout.packed sizes).isContiguous = true then _ else _) = _
      rw [if_pos (Layout.isContiguous_packed sizes), Layout.elementCount_packed]
      unfold Value.withLayout
      simp only [placed, fits]
      rfl
    · refine ⟨tensor.dtype, rfl, ⟨name, base, size, placed, known, ?_⟩, ?_⟩
      · rwa [Layout.span_packed, count]
      · rwa [Layout.logicalSizes_packed, count]
  exact flat.bind fun one answer _ tensor => vectorOf tensor

/-- An element of a vector, without a check of the position. -/
theorem rowElement {limit : Nat} {scalar : Scalar} (row : ground.Row dtype size vector)
    (names : ground.Names limit scalar) (below : limit < size) :
    ground.Runs (Kernel.element vector.value [scalar] : Host ρ Scalar) fun later answer =>
      later.Spot dtype answer := by
  refine element row ?_
  rw [Layout.logicalSizes_packed]
  exact .cons names below .nil

theorem vectorElement {limit : Nat} {scalar : Scalar} (row : ground.Row dtype size vector)
    (names : ground.Names limit scalar) (below : limit < size) :
    ground.Runs (vector.element scalar : Host ρ Scalar) fun later answer =>
      later.Spot dtype answer := by
  unfold Vector.element
  rw [row.sized]
  refine (checkBelow names below row.counts).bind fun one _ growing _ => ?_
  exact rowElement (row.mono growing) (names.mono growing) below

theorem combine {op : BinaryOp} (combines : Combines allowed dtype op)
    (row : ground.Row dtype size left) (row' : ground.Row dtype size right) :
    ground.Runs (Vector.combine op left right : Host ρ Unit) fun _ _ => True :=
  elementwise combines row row' rfl

theorem dot (float : dtype.isFloat = true) (row : ground.Row dtype size left)
    (row' : ground.Row dtype size right) :
    ground.Runs (left.dot right : Host ρ Scalar) fun later answer => later.Spot dtype answer := by
  unfold Vector.dot
  refine (exactly (Tensor.compatible row row' rfl)).bind ?_
  intro one _ growing₁ _
  rw [row.typed, row.sized]
  refine (cell dtype).bind fun two total growing₂ spot₂ => ?_
  refine (constant (.zero dtype)).bind fun three zero growing₃ spot₃ => ?_
  rw [Literal.dtype_zero] at spot₃
  refine (Runs.assign (spot₂.mono growing₃) spot₃).bind fun four _ growing₄ _ => ?_
  refine bind (forRange ?_) fun five _ growing₅ _ => pure (by grind)
  intro limit below five scalar growing₅ named
  refine (rowElement (row.mono (by grind)) named below).bind fun six first growing₆ spot₆ => ?_
  refine (rowElement (row'.mono (by grind)) (named.mono growing₆) below).bind ?_
  intro seven second growing₇ spot₇
  refine (binary (combines_float float .mul) (by grind) spot₇).bind ?_
  intro eight product growing₈ spot₈
  refine (binary (combines_float float .add) (by grind) spot₈).bind ?_
  intro nine sum growing₉ spot₉
  exact Runs.assign (by grind) spot₉

end Runs

/-! ### Matrices -/

/-- A packed matrix. -/
def Grid (ground : Ground allowed) (dtype : DType) (rows columns : Nat) (matrix : Matrix) : Prop :=
  ground.Tensor dtype (Layout.packed [rows, columns]) matrix.value

variable {matrix : Matrix}

@[grind →]
theorem Grid.mono (grid : ground.Grid dtype rows columns matrix) (growing : ground.Later later) :
    later.Grid dtype rows columns matrix :=
  Tensor.mono grid growing

theorem Grid.typed (grid : ground.Grid dtype rows columns matrix) : matrix.dtype = dtype :=
  Option.some.inj (matrix.typed.symm.trans (Tensor.dtype grid))

theorem Grid.shape (grid : ground.Grid dtype rows columns matrix) :
    matrix.layout = Layout.packed [rows, columns] :=
  Option.some.inj (matrix.placed.symm.trans (Tensor.layout grid))

theorem Grid.height (grid : ground.Grid dtype rows columns matrix) : matrix.rows = rows := by
  unfold Matrix.rows Matrix.side
  rw [grid.shape]
  rfl

theorem Grid.width (grid : ground.Grid dtype rows columns matrix) :
    matrix.columns = columns := by
  unfold Matrix.columns Matrix.side
  rw [grid.shape]
  rfl

theorem Tensor.toMatrix (tensor : ground.Tensor dtype (Layout.packed [rows, columns]) value) :
    ∃ matrix : Matrix, Matrix.ofValue value = .ok matrix ∧
      ground.Grid dtype rows columns matrix := by
  obtain ⟨_, _, _⟩ := value
  have ready := tensor.ready
  cases tensor.dtype
  cases tensor.layout
  unfold Matrix.ofValue
  rw [ready]
  dsimp only
  split
  · split
    · exact ⟨_, rfl, tensor⟩
    · rename_i missing
      exact (missing rfl).elim
  · rename_i other
    exact (other rfl).elim

namespace Runs

theorem matrixRow {limit : Nat} {scalar : Scalar} (grid : ground.Grid dtype rows columns matrix)
    (names : ground.Names limit scalar) (below : limit < rows) (counts : Counts allowed rows)
    (counts' : Counts allowed columns) :
    ground.Runs (matrix.row scalar : Host ρ Vector) fun later vector =>
      later.Row dtype columns vector := by
  obtain ⟨name, base, size, placed, known, room⟩ := Tensor.place grid
  have line := Layout.elementCount_single columns
  have reach : limit * columns + columns ≤ rows * columns := by
    rw [← Nat.succ_mul]
    exact Nat.mul_le_mul_right columns below
  rw [Layout.span_packed, Layout.elementCount_cons, line] at room
  unfold Matrix.row Matrix.line
  rw [grid.height, grid.shape]
  refine (checkBelow names below counts).bind fun one _ growing₁ _ => ?_
  refine (exactly (Layout.slice_packed rows columns)).bind ?_
  rintro two _ growing₂ rfl
  refine (index 0).bind fun three zero growing₃ origin => ?_
  rw [if_pos rfl]
  have names' : List.Forall₂ three.Names [limit, 0] [scalar, zero] :=
    .cons (by grind) (.cons origin .nil)
  have here : (Layout.packed [rows, columns]).place [limit, 0] = limit * columns :=
    Layout.place_packed rows columns limit 0
  have reads : ∀ place ∈ [limit, 0], Counts allowed (place + 1) := by
    intro place member
    rcases List.mem_pair.mp member with rfl | rfl
    · exact counts.mono below
    · exact counts.mono (by omega)
  have known' := growing₃ _ _ (growing₂ _ _ (growing₁ _ _ known))
  refine (offset (Tensor.dtype grid) (Tensor.layout grid) placed known' names' reads rfl
    (by omega)).bind ?_
  rintro four _ growing₄ ⟨place, least, rfl⟩
  have fits : base + place + (Layout.packed [columns]).span ≤ size := by
    rw [Layout.span_packed, line]
    omega
  refine (withLayout _ (Layout.packed [columns]) rfl (growing₄ _ _ known') fits).bind ?_
  rintro five _ growing₅ rfl
  refine vectorOf ⟨rfl, rfl, ⟨name, base + place, size, rfl, growing₅ _ _ (growing₄ _ _ known'),
    fits⟩, ?_⟩
  rwa [Layout.logicalSizes_packed, line]

theorem product (float : dtype.isFloat = true) (grid : ground.Grid dtype rows columns matrix)
    (row : ground.Row dtype columns left) (row' : ground.Row dtype rows right) :
    ground.Runs (matrix.multiply left right : Host ρ Unit) fun _ _ => True := by
  unfold Matrix.multiply
  rw [grid.height, grid.width, grid.typed, row.typed, row'.typed, row.sized, row'.sized]
  simp only [ne_eq, not_true_eq_false, decide_false, Bool.or_false, Bool.false_eq_true, if_false]
  refine forRange fun limit below one scalar growing₁ named => ?_
  refine (matrixRow (grid.mono growing₁) named below row'.counts row.counts).bind ?_
  intro two line growing₂ taken
  refine (dot float taken (row.mono (by grind))).bind fun three sum growing₃ spot₃ => ?_
  refine (vectorElement (row'.mono (by grind)) (named.mono (by grind)) below).bind ?_
  intro four place growing₄ spot₄
  exact Runs.assign spot₄ (by grind)

/-- The product of a matrix and a packed tensor. -/
theorem multiply (float : dtype.isFloat = true) {weights : Matrix}
    (grid : ground.Grid dtype rows (elementCount sizes) weights)
    (tensor : ground.Tensor dtype (Layout.packed sizes) input)
    (tensor' : ground.Tensor dtype (Layout.packed [rows]) output) :
    ground.Runs (Kernel.multiply weights input output : Host ρ Unit) fun _ _ => True := by
  refine (row tensor).bind fun one x growing₁ taken => ?_
  refine (vectorOf (tensor'.mono growing₁)).bind fun two y growing₂ taken' => ?_
  exact product float (grid.mono (by grind)) (taken.mono growing₂) taken'

/-! ### Windows -/

/-- A move between two vectors that have room for it. -/
theorem move {size' targetOffset sourceOffset elements : Nat} (row : ground.Row dtype size left)
    (row' : ground.Row dtype size' right) (written : targetOffset + elements ≤ size)
    (read : sourceOffset + elements ≤ size') :
    ground.Runs (Kernel.move left.value targetOffset right.value sourceOffset elements :
      Host ρ Unit) fun _ _ => True := by
  obtain ⟨name, base, room, placed, known, fits⟩ := row.room
  obtain ⟨name', base', room', placed', known', fits'⟩ := row'.room
  have target : Host.movable left.value "destination" = .ok (name, base) := by
    unfold Host.movable
    rw [placed]
  have source : Host.movable right.value "source" = .ok (name', base') := by
    unfold Host.movable
    rw [placed']
  change ground.Runs (Host.move _ _ _ _ _) _
  unfold Host.move
  refine (exactly target).bind ?_
  rintro one _ growing₁ rfl
  refine (exactly source).bind ?_
  rintro two _ growing₂ rfl
  dsimp only
  split
  · exact pure trivial
  refine (count elements).bind fun three _ growing₃ _ => ?_
  have later := (growing₁.trans growing₂).trans growing₃
  unfold Heap.move
  split
  · rename_i same
    subst same
    cases known.symm.trans known'
    refine update (later _ _ known) (fun _ storage =>
      storage.copyWithin (base' + sourceOffset) (base + targetOffset) elements) fun heap holds => ?_
    obtain ⟨-, typed, sized⟩ := holds name _ (later _ _ known)
    have read : base' + sourceOffset + elements ≤ (heap.storage name).size := by omega
    have written : base + targetOffset + elements ≤ (heap.storage name).size := by omega
    obtain ⟨after, done⟩ := Storage.copyWithin_done read written
    obtain ⟨typed', sized'⟩ := Storage.copyWithin_keeps done
    exact ⟨after, done, typed'.trans typed, sized'.trans sized⟩
  · refine update (later _ _ known) (fun heap storage =>
      storage.copyFrom (base + targetOffset) (heap.storage name') (base' + sourceOffset) elements)
      fun heap holds => ?_
    obtain ⟨-, typed, sized⟩ := holds name _ (later _ _ known)
    obtain ⟨-, typed', sized'⟩ := holds name' _ (later _ _ known')
    have read : base' + sourceOffset + elements ≤ (heap.storage name').size := by omega
    have written : base + targetOffset + elements ≤ (heap.storage name).size := by omega
    obtain ⟨after, done⟩ := Storage.copyFrom_done (typed'.trans typed.symm) read written
    obtain ⟨typed'', sized''⟩ := Storage.copyFrom_keeps done
    exact ⟨after, done, typed''.trans typed, sized''.trans sized⟩

private theorem checkPacked (name : String) (row : ground.Row dtype size vector) :
    ground.Runs (Kernel.checkPacked name vector : Host ρ Unit) fun _ _ => True := by
  unfold Kernel.checkPacked
  rw [row.dense, if_neg (not_not.mpr rfl)]
  exact pure trivial

private theorem firstPosition (row : ground.Row dtype size vector) :
    ground.Runs (Kernel.firstPosition vector : Host ρ Nat) fun _ place => 0 = place := by
  refine answered ?_ rfl
  rw [Tensor.laid row]
  have start : (Layout.packed [size]).flatOffset [0] =
      .ok ((Layout.packed [size]).place [0]) := if_pos rfl
  have first : (Layout.packed [size]).place [0] = 0 := by
    simp [Layout.place, Layout.axes_packed, Layout.packedIncrements]
  rw [first] at start
  exact start

/-- A window takes in no more than it holds, and what it drops fits elsewhere. -/
theorem shift {count step room : Nat} {buffer newest dropped : Vector}
    (row : ground.Row dtype count buffer) (row' : ground.Row dtype step newest)
    (row'' : ground.Row dtype room dropped) (holds : step ≤ count) (fits : step ≤ room) :
    ground.Runs (Kernel.shift buffer newest (some dropped) : Host ρ Unit) fun _ _ => True := by
  unfold Kernel.shift
  rw [row.sized, row'.sized, row.typed, row'.typed]
  rw [if_neg (by omega), if_neg (not_not.mpr rfl)]
  refine (checkPacked "buffer" row).bind fun one _ growing₁ _ => ?_
  refine (checkPacked "new data" (row'.mono growing₁)).bind fun two _ growing₂ _ => ?_
  refine (firstPosition (row.mono (growing₁.trans growing₂))).bind ?_
  rintro three _ growing₃ rfl
  refine (firstPosition (row'.mono (by grind))).bind ?_
  rintro four _ growing₄ rfl
  dsimp only
  rw [row''.sized, row''.typed, if_neg (not_not.mpr rfl), if_neg (by omega)]
  refine (checkPacked "shifted-out buffer" (row''.mono (by grind))).bind ?_
  intro five _ growing₅ _
  refine (firstPosition (row''.mono (by grind))).bind ?_
  rintro six _ growing₆ rfl
  refine (move (row''.mono (by grind)) (row.mono (by grind)) (by omega)
    (by omega)).bind fun seven _ growing₇ _ => ?_
  refine (move (row.mono (by grind)) (row.mono (by grind)) (by omega)
    (by omega)).bind fun eight _ growing₈ _ => ?_
  exact move (row.mono (by grind)) (row'.mono (by grind)) (by omega) (by omega)

end Runs

end TensorGraph.Ground

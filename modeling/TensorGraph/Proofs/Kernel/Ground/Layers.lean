/-
Layers on a ground.

Every layer runs through on packed tensors of the shapes that it was made for.
Windows stay inside what they slide over, since the number of their places is
reckoned from it, and the decoded boxes stay inside their channels.
-/

import TensorGraph.Graph.Connect
import TensorGraph.Kernel.Layer.Convolution
import TensorGraph.Kernel.Layer.Lstm
import TensorGraph.Kernel.Layer.Pooling
import TensorGraph.Kernel.Layer.Region
import TensorGraph.Proofs.Kernel.Ground.Vectors

namespace TensorGraph.Ground

variable {allowed : Fault → Prop} {ground later : Ground allowed} {ρ α β : Type}
  {dtype : DType} {value input output : Value} {sizes : List Nat}

/-- Three coordinates. -/
theorem Within.three {first second third : Nat} {coordinates : List Scalar}
    (within : ground.Within [first, second, third] coordinates) :
    ∃ i j k, coordinates = [i, j, k] ∧ (∃ limit < first, ground.Names limit i) ∧
      (∃ limit < second, ground.Names limit j) ∧ ∃ limit < third, ground.Names limit k := by
  obtain ⟨i, rest, rfl, one, within⟩ := within.head
  obtain ⟨j, rest, rfl, two, within⟩ := within.head
  obtain ⟨k, rest, rfl, three, within⟩ := within.head
  obtain rfl := within.empty
  exact ⟨i, j, k, rfl, one, two, three⟩

/-- Two coordinates. -/
theorem Within.two {first second : Nat} {coordinates : List Scalar}
    (within : ground.Within [first, second] coordinates) :
    ∃ i j, coordinates = [i, j] ∧ (∃ limit < first, ground.Names limit i) ∧
      ∃ limit < second, ground.Names limit j := by
  obtain ⟨i, rest, rfl, one, within⟩ := within.head
  obtain ⟨j, rest, rfl, two, within⟩ := within.head
  obtain rfl := within.empty
  exact ⟨i, j, rfl, one, two⟩

/-- A window at one of its places does not reach past the side. -/
theorem window_lt {side window stride place inner : Nat} (fits : window ≤ side)
    (below : place < windowCount side window stride) (inside : inner < window) :
    place * stride + inner < side := by
  unfold windowCount at below
  have reach : place * stride ≤ side - window :=
    (Nat.mul_le_mul_right stride (Nat.le_of_lt_succ below)).trans (Nat.div_mul_le_self _ _)
  omega

namespace Runs

/-- An element of a packed tensor. -/
theorem packedElement {coordinates : List Scalar}
    (tensor : ground.Tensor dtype (Layout.packed sizes) value)
    (within : ground.Within sizes coordinates) :
    ground.Runs (Kernel.element value coordinates : Host ρ Scalar) fun later scalar =>
      later.Spot dtype scalar := by
  refine element tensor ?_
  rwa [Layout.logicalSizes_packed]

/-- A loop over the elements of a packed tensor. -/
theorem forEachPacked {body : List Scalar → Host ρ Unit}
    (tensor : ground.Tensor dtype (Layout.packed sizes) value)
    (turn : ∀ (later : Ground allowed) (coordinates : List Scalar), ground.Later later →
      later.Within sizes coordinates → later.Runs (body coordinates) fun _ _ => True) :
    ground.Runs (do Kernel.forEach (← Kernel.ofExcept value.layout) body) fun _ _ => True := by
  refine forEachOf tensor fun later coordinates growing within => ?_
  rw [Layout.logicalSizes_packed] at within
  exact turn later coordinates growing within

/-- A loop over the coordinates of a packed layout. -/
theorem forEachIn (sizes : List Nat) {body : List Scalar → Host ρ Unit}
    (turn : ∀ (later : Ground allowed) (coordinates : List Scalar), ground.Later later →
      later.Within sizes coordinates → later.Runs (body coordinates) fun _ _ => True) :
    ground.Runs (Kernel.forEach (Layout.packed sizes) body) fun _ _ => True := by
  refine forEach fun later coordinates growing within => ?_
  rw [Layout.logicalSizes_packed] at within
  exact turn later coordinates growing within

/-! ### Softmax -/

theorem softmax {size : Nat} {input output : Vector} (float : dtype.isFloat = true)
    (row : ground.Row dtype size input) (row' : ground.Row dtype size output) :
    ground.Runs (Kernel.softmax input output : Host ρ Unit) fun _ _ => True := by
  unfold Kernel.softmax
  rw [row.typed, row.sized, row'.sized]
  refine (cell dtype).bind fun one greatest growing₁ spot₁ => ?_
  refine (cell dtype).bind fun two total growing₂ spot₂ => ?_
  refine (like (spot₁.mono growing₂) _).bind fun three least growing₃ spot₃ => ?_
  refine (Runs.assign (spot₁.mono (by grind)) spot₃).bind fun four _ growing₄ _ => ?_
  refine (like (spot₂.mono (by grind)) _).bind ?_
  intro five zero growing₅ spot₅
  refine (Runs.assign (by grind) spot₅).bind fun six _ growing₆ _ => ?_
  refine bind (forRange ?_) fun seven _ growing₇ _ => ?_
  · intro limit below one x growing₇ named
    unfold Kernel.raise
    refine (vectorElement (row.mono (by grind)) named below).bind fun two y growing₈ spot₈ => ?_
    refine (binary (combines_float float .max) (by grind) spot₈).bind ?_
    intro three raised growing₉ spot₉
    exact Runs.assign (by grind) spot₉
  refine bind (forRange ?_) fun eight _ growing₈ _ => ?_
  · intro limit below one x growing₈ named
    unfold Kernel.exponentiate
    refine (vectorElement (row.mono (by grind)) named below).bind fun two y growing₉ spot₉ => ?_
    refine (binary (combines_float float .sub) spot₉ (by grind)).bind ?_
    intro three difference growing₁₀ spot₁₀
    refine (unary float .exp nofun spot₁₀).bind fun four power growing₁₁ spot₁₁ => ?_
    refine (vectorElement (row'.mono (by grind)) (named.mono (by grind)) below).bind ?_
    intro five place growing₁₂ spot₁₂
    refine (Runs.assign spot₁₂ (by grind)).bind fun six _ growing₁₃ _ => ?_
    refine (binary (combines_float float .add) (by grind)
      (spot₁₁.mono (by grind))).bind ?_
    intro seven sum growing₁₄ spot₁₄
    exact Runs.assign (by grind) spot₁₄
  · refine forRange fun limit below one x growing₉ named => ?_
    refine (vectorElement (row'.mono (by grind)) named below).bind fun two y growing₁₀ spot₁₀ => ?_
    refine (binary (combines_float float .div) spot₁₀ (by grind)).bind ?_
    intro three quotient growing₁₁ spot₁₁
    exact Runs.assign (by grind) spot₁₁

/-! ### Pooling -/

private theorem poolTerm {kind : PoolingKind} {rows columns channels window top start : Nat}
    {row column channel reduced : Scalar} (float : dtype.isFloat = true)
    (tensor : ground.Tensor dtype (Layout.packed [rows, columns, channels]) input)
    (spot : ground.Spot dtype reduced) (named : ground.Names top row)
    (named' : ground.Names start column) (last : ∃ limit < channels, ground.Names limit channel)
    (fits : ∀ inner < window, top + inner < rows) (fits' : ∀ inner < window, start + inner < columns)
    {coordinates : List Scalar} (within : ground.Within [window, window] coordinates) :
    ground.Runs (Kernel.poolTerm kind input row column channel reduced coordinates : Host ρ Unit)
      fun _ _ => True := by
  obtain ⟨a, b, rfl, ⟨down, below, nameda⟩, ⟨right, below', namedb⟩⟩ := within.two
  obtain ⟨depth, deep, named''⟩ := last
  refine (moved named nameda).bind fun one r growing₁ named₁ => ?_
  refine (moved (named'.mono growing₁) (namedb.mono growing₁)).bind fun two c growing₂ named₂ => ?_
  have here : two.Within [rows, columns, channels] [r, c, channel] :=
    .cons (named₁.mono growing₂) (fits down below)
      (.cons named₂ (fits' right below') (.cons (by grind) deep .nil))
  refine (packedElement (tensor.mono (by grind)) here).bind fun three x growing₃ spot₃ => ?_
  refine (binary (combines_float float kind.op) (by grind) spot₃).bind ?_
  intro four result growing₄ spot₄
  exact Runs.assign (by grind) spot₄

private theorem poolResult {kind : PoolingKind} {window : Nat} {reduced : Scalar}
    (float : dtype.isFloat = true) (spot : ground.Spot dtype reduced) :
    ground.Runs (Kernel.poolResult kind window reduced : Host ρ Scalar) fun later answer =>
      later.Spot dtype answer := by
  cases kind with
  | max => exact pure spot
  | mean =>
      refine (like spot _).bind fun one count growing spot' => ?_
      exact binary (combines_float float .div) (by grind) spot'

theorem pool {kind : PoolingKind} {rows columns channels window stride : Nat}
    (float : dtype.isFloat = true) (fits : window ≤ rows) (fits' : window ≤ columns)
    (tensor : ground.Tensor dtype (Layout.packed [rows, columns, channels]) input)
    (tensor' : ground.Tensor dtype (Layout.packed
      [windowCount rows window stride, windowCount columns window stride, channels]) output) :
    ground.Runs (Kernel.pool kind window stride input output : Host ρ Unit) fun _ _ => True := by
  unfold Kernel.pool
  refine (exactly tensor.typed).bind ?_
  rintro one _ growing₁ rfl
  refine (index stride).bind fun two step growing₂ named₂ => ?_
  refine forEachPacked (tensor'.mono (by grind)) fun three coordinates growing₃ within => ?_
  obtain ⟨i, j, channel, rfl, ⟨down, below, namedi⟩, ⟨right, below', namedj⟩, last⟩ := within.three
  unfold Kernel.poolAt
  refine (cell dtype).bind fun four reduced growing₄ spot₄ => ?_
  refine (like spot₄ _).bind fun five start growing₅ spot₅ => ?_
  refine (Runs.assign (by grind) spot₅).bind fun six _ growing₆ _ => ?_
  refine (strided (namedi.mono (by grind)) (named₂.mono (by grind))).bind ?_
  intro seven row growing₇ named₇
  refine (strided (namedj.mono (by grind)) (named₂.mono (by grind))).bind ?_
  intro eight column growing₈ named₈
  refine (forEachIn [window, window] fun nine inner growing₉ within' => ?_).bind ?_
  · obtain ⟨depth, deep, named⟩ := last
    exact poolTerm float (tensor.mono (by grind)) (by grind) (named₇.mono (by grind))
      (named₈.mono growing₉) ⟨depth, deep, by grind⟩ (fun _ => window_lt fits below)
      (fun _ => window_lt fits' below') within'
  intro nine _ growing₉ _
  refine (poolResult float (by grind)).bind fun ten result growing₁₀ spot₁₀ => ?_
  refine (packedElement (tensor'.mono (by grind)) (within.mono (by grind))).bind ?_
  intro eleven place growing₁₁ spot₁₁
  exact Runs.assign spot₁₁ (by grind)

/-! ### Convolution -/

private theorem convolveTerm {filters rows columns channels kernel top start : Nat}
    {weights full : Value} {filter row column total : Scalar} (float : dtype.isFloat = true)
    (known : ground.Tensor dtype (Layout.packed [filters, kernel, kernel, channels]) weights)
    (tensor : ground.Tensor dtype (Layout.packed [rows, columns, channels]) full)
    (spot : ground.Spot dtype total) (named : ground.Names top row)
    (named' : ground.Names start column) (last : ∃ limit < filters, ground.Names limit filter)
    (fits : ∀ inner < kernel, top + inner < rows) (fits' : ∀ inner < kernel, start + inner < columns)
    {coordinates : List Scalar} (within : ground.Within [kernel, kernel, channels] coordinates) :
    ground.Runs (Kernel.convolveTerm weights full filter row column total coordinates :
      Host ρ Unit) fun _ _ => True := by
  obtain ⟨di, dj, channel, rfl, ⟨down, below, named₁⟩, ⟨right, below', named₂⟩,
    ⟨depth, deep, named₃⟩⟩ := within.three
  obtain ⟨number, few, named₄⟩ := last
  refine (moved named named₁).bind fun one r growing₁ named₅ => ?_
  refine (moved (named'.mono growing₁) (named₂.mono growing₁)).bind fun two c growing₂ named₆ => ?_
  have here : two.Within [rows, columns, channels] [r, c, channel] :=
    .cons (named₅.mono growing₂) (fits down below)
      (.cons named₆ (fits' right below') (.cons (by grind) deep .nil))
  refine (packedElement (tensor.mono (by grind)) here).bind fun three x growing₃ spot₃ => ?_
  have there : three.Within [filters, kernel, kernel, channels] [filter, di, dj, channel] :=
    .cons (named₄.mono (by grind)) few (.cons (named₁.mono (by grind)) below
      (.cons (named₂.mono (by grind)) below' (.cons (named₃.mono (by grind)) deep .nil)))
  refine (packedElement (known.mono (by grind)) there).bind fun four weight growing₄ spot₄ => ?_
  refine (binary (combines_float float .mul) (by grind) spot₄).bind ?_
  intro five product growing₅ spot₅
  refine (binary (combines_float float .add) (by grind) spot₅).bind ?_
  intro six sum growing₆ spot₆
  exact Runs.assign (by grind) spot₆

theorem convolve {shape : Kernel.ConvolutionShape} {filters : Nat} {weights : Value}
    (float : dtype.isFloat = true) (fits : shape.kernel ≤ shape.rows + 2 * shape.padding)
    (fits' : shape.kernel ≤ shape.columns + 2 * shape.padding)
    (counts : Counts allowed (elementCount
      [shape.rows + 2 * shape.padding, shape.columns + 2 * shape.padding, shape.channels]))
    (known : ground.Tensor dtype
      (Layout.packed [filters, shape.kernel, shape.kernel, shape.channels]) weights)
    (tensor : ground.Tensor dtype
      (Layout.packed [shape.rows, shape.columns, shape.channels]) input)
    (tensor' : ground.Tensor dtype (Layout.packed
      [windowCount (shape.rows + 2 * shape.padding) shape.kernel shape.stride,
        windowCount (shape.columns + 2 * shape.padding) shape.kernel shape.stride,
        filters]) output) :
    ground.Runs (Kernel.convolve shape weights input output : Host ρ Unit) fun _ _ => True := by
  obtain ⟨interior, made, sizes, memory⟩ :=
    Layout.padded_planes shape.rows shape.columns shape.channels shape.padding
  have fewer : elementCount [shape.rows, shape.columns, shape.channels] ≤ elementCount
      [shape.rows + 2 * shape.padding, shape.columns + 2 * shape.padding, shape.channels] := by
    simp only [Layout.elementCount_cons]
    gcongr <;> omega
  unfold Kernel.convolve
  refine (exactly tensor.typed).bind ?_
  rintro one _ growing₁ rfl
  refine (exactly made).bind ?_
  rintro two _ growing₂ rfl
  refine (allocate dtype interior (sizes ▸ counts.mono fewer)).bind ?_
  rintro three bordered growing₃ ⟨inner, name, placed, held⟩
  refine (assignAll inner (tensor.mono (by grind)) ?_).bind fun four _ growing₄ _ => ?_
  · rw [sizes, Layout.logicalSizes_packed]
  refine (withLayout _ _ placed (growing₄ _ _ held) ?_).bind ?_
  · rw [memory, Nat.zero_add]
    exact Layout.span_le_memorySize _
  rintro five _ growing₅ rfl
  have full : five.Tensor dtype (Layout.packed
      [shape.rows + 2 * shape.padding, shape.columns + 2 * shape.padding, shape.channels])
      { bordered with layout? := some (Layout.packed
        [shape.rows + 2 * shape.padding, shape.columns + 2 * shape.padding, shape.channels]) } := by
    refine ⟨inner.dtype, rfl, ⟨name, 0, _, placed, growing₅ _ _ (growing₄ _ _ held), ?_⟩, ?_⟩
    · rw [memory, Nat.zero_add]
      exact Layout.span_le_memorySize _
    · rwa [Layout.logicalSizes_packed]
  refine (index shape.stride).bind fun six stride growing₆ named₆ => ?_
  refine forEachPacked (tensor'.mono (by grind)) fun seven coordinates growing₇ within => ?_
  obtain ⟨i, j, filter, rfl, ⟨down, below, namedi⟩, ⟨right, below', namedj⟩, last⟩ := within.three
  unfold Kernel.convolveAt
  refine (cell dtype).bind fun eight total growing₈ spot₈ => ?_
  refine (constant (.zero dtype)).bind fun nine zero growing₉ spot₉ => ?_
  rw [Literal.dtype_zero] at spot₉
  refine (Runs.assign (by grind) spot₉).bind fun ten _ growing₁₀ _ => ?_
  refine (strided (namedi.mono (by grind)) (named₆.mono (by grind))).bind ?_
  intro eleven row growing₁₁ named₁₁
  refine (strided (namedj.mono (by grind)) (named₆.mono (by grind))).bind ?_
  intro twelve column growing₁₂ named₁₂
  refine (forEachIn [shape.kernel, shape.kernel, shape.channels]
    fun thirteen inner growing₁₃ within' => ?_).bind ?_
  · obtain ⟨number, few, named⟩ := last
    exact convolveTerm float (known.mono (by grind)) (full.mono (by grind)) (by grind)
      (named₁₁.mono (by grind)) (named₁₂.mono growing₁₃) ⟨number, few, by grind⟩
      (fun _ => window_lt fits below) (fun _ => window_lt fits' below') within'
  intro thirteen _ growing₁₃ _
  refine (packedElement (tensor'.mono (by grind)) (within.mono (by grind))).bind ?_
  intro fourteen place growing₁₄ spot₁₄
  exact Runs.assign spot₁₄ (by grind)

/-! ### Region detection -/

theorem each {item : Type} {items : List item} {action : item → Host ρ Unit}
    (one : ∀ element ∈ items, ∀ later : Ground allowed, ground.Later later →
      later.Runs (action element) fun _ _ => True) :
    ground.Runs (Kernel.each items action) fun _ _ => True := by
  induction items generalizing ground with
  | nil => exact pure trivial
  | cons first rest ih =>
      refine (one first List.mem_cons_self ground (.refl ground)).bind fun two _ growing _ => ?_
      exact ih fun element member later growing' =>
        one element (List.mem_cons_of_mem _ member) later (growing.trans growing')

/-- The channels of a box, one after the other, of a cell inside the planes. -/
private theorem boxClasses {rows columns channels classes first top start : Nat}
    {row column : Scalar} (float : dtype.isFloat = true)
    (tensor : ground.Tensor dtype (Layout.packed [rows, columns, channels]) output)
    (named : ground.Names top row) (below : top < rows) (named' : ground.Names start column)
    (below' : start < columns) (fits : first + Kernel.boxChannels + classes ≤ channels)
    (nonempty : 0 < classes) :
    ground.Runs (do
      let start ← Kernel.offset output
        [row, column, ← Scalar.index (first + Kernel.boxChannels)]
      let run ← Kernel.ofExcept
        (Vector.ofValue (← Kernel.withLayout start (Layout.packed [classes])))
      Kernel.softmax run run : Host ρ Unit) fun _ _ => True := by
  obtain ⟨name, base, size, placed, known, room⟩ := tensor.place
  have inside : (Layout.packed [rows, columns, channels]).Inside [top, start, channels - 1] := by
    unfold Layout.Inside
    rw [Layout.logicalSizes_packed]
    exact .cons below (.cons below' (.cons (by omega) .nil))
  have last := inside.place_lt
  rw [Layout.place_planes] at last
  have line := Layout.elementCount_single classes
  have many : Counts allowed classes := by
    have counts := tensor.counts.mono
      (inside.lt_elementCount (show channels - 1 ∈ [top, start, channels - 1] by simp))
    exact counts.mono (by omega)
  refine (index (first + Kernel.boxChannels)).bind fun one channel growing₁ named₁ => ?_
  have names : List.Forall₂ one.Names [top, start, first + Kernel.boxChannels]
      [row, column, channel] := .cons (by grind) (.cons (by grind) (.cons named₁ .nil))
  have reads : ∀ place ∈ [top, start, first + Kernel.boxChannels],
      Counts allowed (place + 1) := by
    have first : (Layout.packed [rows, columns, channels]).Inside
        [top, start, first + Kernel.boxChannels] := by
      unfold Layout.Inside
      rw [Layout.logicalSizes_packed]
      exact .cons below (.cons below' (.cons (by omega) .nil))
    exact fun place member => tensor.counts.mono (first.lt_elementCount member)
  have here := Layout.place_planes rows columns channels top start (first + Kernel.boxChannels)
  refine (offset tensor.dtype tensor.layout placed (growing₁ _ _ known) names reads rfl
    (by omega)).bind ?_
  rintro two _ growing₂ ⟨place, least, rfl⟩
  have known' := growing₂ _ _ (growing₁ _ _ known)
  have fits' : base + place + (Layout.packed [classes]).span ≤ size := by
    rw [Layout.span_packed, line]
    omega
  refine (withLayout _ (Layout.packed [classes]) rfl known' fits').bind ?_
  rintro three _ growing₃ rfl
  have laid : three.Tensor dtype (Layout.packed [classes])
      { dtype? := some dtype
        layout? := some (Layout.packed [classes])
        place := .host name (base + place) } := by
    refine ⟨rfl, rfl, ⟨name, base + place, size, rfl, growing₃ _ _ known', fits'⟩, ?_⟩
    rwa [Layout.logicalSizes_packed, line]
  refine (vectorOf laid).bind ?_
  intro four run growing₄ taken
  exact softmax float taken taken

private theorem decodeAnchor {rows columns channels classes first top start : Nat}
    {row column : Scalar} (float : dtype.isFloat = true)
    (tensor : ground.Tensor dtype (Layout.packed [rows, columns, channels]) output)
    (named : ground.Names top row) (below : top < rows) (named' : ground.Names start column)
    (below' : start < columns) (fits : first + Kernel.boxChannels + classes ≤ channels) :
    ground.Runs (Kernel.decodeAnchor classes first output row column : Host ρ Unit)
      fun _ _ => True := by
  -- a channel of the box, wherever the run has come to
  have channel (later : Ground allowed) (growing : ground.Later later) (position : Nat)
      (inside : position < Kernel.boxChannels) :
      later.Runs (do
        Kernel.element output [row, column, ← Scalar.index (first + position)] : Host ρ Scalar)
        fun last scalar => last.Spot dtype scalar := by
    refine (index (first + position)).bind fun one scalar growing₁ named₁ => ?_
    exact packedElement (tensor.mono (by grind))
      (.cons (named.mono (by grind)) below (.cons (named'.mono (by grind)) below'
        (.cons named₁ (by omega) .nil)))
  unfold Kernel.decodeAnchor
  refine (each fun position member later growing => ?_).bind fun one _ growing₁ _ => ?_
  · have inside : position < Kernel.boxChannels := by
      unfold Kernel.boxChannels
      simp only [List.mem_cons, List.not_mem_nil, or_false] at member
      omega
    refine (channel later growing position inside).bind fun two score growing₂ spot₂ => ?_
    refine (logistic float spot₂).bind fun three result growing₃ spot₃ => ?_
    exact Runs.assign (by grind) spot₃
  refine (each fun position member later growing => ?_).bind fun two _ growing₂ _ => ?_
  · have inside : position < Kernel.boxChannels := by
      unfold Kernel.boxChannels
      simp only [List.mem_cons, List.not_mem_nil, or_false] at member
      omega
    refine (channel later (by grind) position inside).bind fun two score growing₂ spot₂ => ?_
    refine (unary float .exp nofun spot₂).bind fun three result growing₃ spot₃ => ?_
    exact Runs.assign (by grind) spot₃
  split
  · rename_i nonempty
    exact boxClasses float (tensor.mono (by grind)) (named.mono (by grind)) below
      (named'.mono (by grind)) below' fits nonempty
  · exact pure trivial

theorem decodeRegions {rows columns anchors classes : Nat} (float : dtype.isFloat = true)
    (tensor : ground.Tensor dtype
      (Layout.packed [rows, columns, anchors * (Kernel.boxChannels + classes)]) input)
    (tensor' : ground.Tensor dtype
      (Layout.packed [rows, columns, anchors * (Kernel.boxChannels + classes)]) output) :
    ground.Runs (Kernel.decodeRegions anchors classes input output : Host ρ Unit)
      fun _ _ => True := by
  unfold Kernel.decodeRegions
  refine (assignAll tensor' tensor rfl).bind fun one _ growing₁ _ => ?_
  refine (exactly tensor'.laid).bind ?_
  rintro two _ growing₂ rfl
  have dense : (Layout.packed [rows, columns,
      anchors * (Kernel.boxChannels + classes)]).logicalIncrement 2 = .ok 1 := rfl
  refine (exactly dense).bind ?_
  rintro three _ growing₃ rfl
  rw [if_neg (not_not.mpr rfl), Layout.logicalSizes_packed]
  refine forEachIn [rows, columns] fun four coordinates growing₄ within => ?_
  obtain ⟨row, column, rfl, ⟨top, below, named⟩, ⟨start, below', named'⟩⟩ := within.two
  refine each fun anchor member five growing₅ => ?_
  have fits : anchor * (Kernel.boxChannels + classes) + Kernel.boxChannels + classes ≤
      anchors * (Kernel.boxChannels + classes) := by
    rw [Nat.add_assoc, ← Nat.succ_mul]
    exact Nat.mul_le_mul_right _ (List.mem_range.mp member)
  exact decodeAnchor float (tensor'.mono (by grind)) (named.mono growing₅) below
    (named'.mono growing₅) below' fits

/-! ### Dense layers -/

theorem dense {rows : Nat} {weights : Matrix} {bias : Vector} (function : ActivationFunction)
    (float : dtype.isFloat = true) (grid : ground.Grid dtype rows (elementCount sizes) weights)
    (known : ground.Row dtype rows bias)
    (tensor : ground.Tensor dtype (Layout.packed sizes) input)
    (tensor' : ground.Tensor dtype (Layout.packed [rows]) output) :
    ground.Runs (Kernel.dense weights bias function input output : Host ρ Unit)
      fun _ _ => True := by
  refine (row tensor).bind fun one x growing₁ taken => ?_
  refine (vectorOf (tensor'.mono growing₁)).bind fun two y growing₂ taken' => ?_
  refine (product float (grid.mono (by grind)) (taken.mono growing₂) taken').bind ?_
  intro three _ growing₃ _
  refine (combine (combines_float float .add) (taken'.mono growing₃) (known.mono (by grind))).bind ?_
  intro four _ growing₄ _
  refine forEachPacked (tensor'.mono (by grind)) fun five coordinates growing₅ within => ?_
  refine (packedElement (tensor'.mono (by grind)) within).bind fun six sum growing₆ spot₆ => ?_
  refine (apply function float spot₆).bind fun seven result growing₇ spot₇ => ?_
  exact Runs.assign (by grind) spot₇

/-! ### Long short-term memory -/

/-- Memory taken up again. -/
private theorem heldVector {size : Nat} (name : String)
    (tensor : ground.Tensor dtype (Layout.packed [size]) value) :
    ground.Runs (Kernel.heldVector name value : Host ρ Vector) fun later vector =>
      later.Row dtype size vector := by
  have found : ground.Runs (Pure.pure value : Host ρ Value) fun later same =>
      later.Tensor dtype (Layout.packed [size]) same := pure tensor
  exact found.bind fun _ _ _ taken => vectorOf taken

private theorem freshVector {size : Nat} (counts : Counts allowed size) :
    ground.Runs (Kernel.freshVector dtype size : Host ρ Vector) fun later vector =>
      later.Row dtype size vector := by
  refine (allocate dtype (Layout.packed [size]) ?_).bind fun one value _ taken => vectorOf taken.1
  rwa [Layout.logicalSizes_packed, Layout.elementCount_single]

variable {units : Nat} {hidden cell : Vector}

private theorem applyTrigger {type : DType} {sizes : List Nat} {last : Vector} {trigger : Value}
    (row : ground.Row dtype units hidden) (row' : ground.Row dtype units cell)
    (known : ground.Row type 1 last) (single : elementCount sizes = 1)
    (tensor : ground.Tensor type (Layout.packed sizes) trigger) :
    ground.Runs (Kernel.applyTrigger dtype hidden cell last trigger : Host ρ Unit)
      fun _ _ => True := by
  unfold Kernel.applyTrigger
  refine (Runs.row tensor).bind fun one flat growing₁ taken => ?_
  rw [single] at taken
  refine (index 0).bind fun two first growing₂ named₂ => ?_
  refine (vectorElement (taken.mono growing₂) named₂ Nat.one_pos).bind ?_
  intro three now growing₃ spot₃
  refine (index 0).bind fun four start growing₄ named₄ => ?_
  refine (vectorElement (known.mono (by grind)) named₄ Nat.one_pos).bind ?_
  intro five before growing₅ spot₅
  refine (like spot₅ 1.0).bind fun six unit growing₆ spot₆ => ?_
  refine (compare .eq (spot₅.mono growing₆) spot₆).bind fun seven wasOn growing₇ spot₇ => ?_
  refine (like (spot₃.mono (by grind)) 0.0).bind ?_
  intro eight nothing growing₈ spot₈
  refine (compare .eq (spot₃.mono (by grind)) spot₈).bind fun nine nowOff growing₉ spot₉ => ?_
  refine (constant (.zero dtype)).bind fun ten zero growing₁₀ spot₁₀ => ?_
  rw [Literal.dtype_zero] at spot₁₀
  refine (ifElse (spot₇.mono (by grind)) (fun later growing => ?_) fun later _ => ?_).bind ?_
  · refine ifElse (spot₉.mono (by grind)) (fun last growing' => ?_) fun last _ => pure trivial
    refine (fill (row.mono (by grind)) (by grind)).bind fun empty _ growing'' _ => ?_
    exact fill (row'.mono (by grind)) (by grind)
  · exact pure trivial
  intro eleven _ growing₁₁ _
  exact Runs.assign (spot₅.mono (by grind)) (spot₃.mono (by grind))

/-- The parameters of a cell of some units on a row of some inputs. -/
structure Cell (ground : Ground allowed) (type : DType) (count inputs : Nat)
    (parameters : Kernel.LstmParameters) : Prop where
  units : parameters.hiddenUnits = count
  inputWeights : ground.Grid type (4 * count) inputs parameters.inputWeights
  hiddenWeights : ground.Grid type (4 * count) count parameters.hiddenWeights
  inputBias : ground.Row type (4 * count) parameters.inputBias
  hiddenBias : ground.Row type (4 * count) parameters.hiddenBias

@[grind →]
theorem Cell.mono {inputs : Nat} {parameters : Kernel.LstmParameters}
    (held : Cell ground dtype units inputs parameters) (growing : ground.Later later) :
    Cell later dtype units inputs parameters :=
  ⟨held.units, held.inputWeights.mono growing, held.hiddenWeights.mono growing,
    held.inputBias.mono growing, held.hiddenBias.mono growing⟩

variable {inputs : Nat} {parameters : Kernel.LstmParameters}

private theorem gateSums {x : Vector} (float : dtype.isFloat = true)
    (held : Cell ground dtype units inputs parameters) (row : ground.Row dtype inputs x)
    (row' : ground.Row dtype units hidden) :
    ground.Runs (Kernel.gateSums parameters x hidden : Host ρ Vector) fun later gates =>
      later.Row dtype (4 * units) gates := by
  unfold Kernel.gateSums
  rw [held.inputWeights.typed, held.units]
  refine (freshVector held.inputBias.counts).bind fun one gates growing₁ taken => ?_
  refine (freshVector held.inputBias.counts).bind ?_
  intro two recurrent growing₂ taken'
  refine (product float (held.inputWeights.mono (by grind)) (row.mono (by grind))
    (taken.mono growing₂)).bind fun three _ growing₃ _ => ?_
  refine (product float (held.hiddenWeights.mono (by grind)) (row'.mono (by grind))
    (taken'.mono growing₃)).bind fun four _ growing₄ _ => ?_
  have adds : Combines allowed dtype .add := combines_float float .add
  refine (combine adds (taken.mono (by grind)) (taken'.mono (by grind))).bind ?_
  intro five _ growing₅ _
  refine (combine adds (taken.mono (by grind)) (held.inputBias.mono (by grind))).bind ?_
  intro six _ growing₆ _
  refine (combine adds (taken.mono (by grind)) (held.hiddenBias.mono (by grind))).bind ?_
  intro seven _ growing₇ _
  exact pure (taken.mono (by grind))

private theorem gate {gates : Vector} {limit number : Nat} {unit : Scalar}
    (held : Cell ground dtype units inputs parameters) (row : ground.Row dtype (4 * units) gates)
    (named : ground.Names limit unit) (below : limit < units) (few : number < 4) :
    ground.Runs (Kernel.gate parameters gates unit number : Host ρ Scalar) fun later scalar =>
      later.Spot dtype scalar := by
  unfold Kernel.gate
  rw [held.units]
  refine (index (number * units)).bind fun one offset growing₁ named₁ => ?_
  refine (moved (named.mono growing₁) named₁).bind fun two place growing₂ named₂ => ?_
  have inside : limit + number * units < 4 * units := by
    have : number * units ≤ 3 * units := Nat.mul_le_mul_right units (by omega)
    omega
  exact vectorElement (row.mono (by grind)) named₂ inside

private theorem stepUnit {gates hiddenOutput cellOutput : Vector} {limit : Nat} {unit : Scalar}
    (float : dtype.isFloat = true) (held : Cell ground dtype units inputs parameters)
    (row : ground.Row dtype (4 * units) gates) (row₁ : ground.Row dtype units hidden)
    (row₂ : ground.Row dtype units cell) (row₃ : ground.Row dtype units hiddenOutput)
    (row₄ : ground.Row dtype units cellOutput) (named : ground.Names limit unit)
    (below : limit < units) :
    ground.Runs (Kernel.stepUnit parameters gates hidden cell hiddenOutput cellOutput unit :
      Host ρ Unit) fun _ _ => True := by
  have arithmetic (op : BinaryOp) : Combines allowed dtype op := combines_float float op
  unfold Kernel.stepUnit
  refine (gate held row named below (by omega)).bind fun one inputPart growing₁ spot₁ => ?_
  refine (gate (held.mono growing₁) (row.mono growing₁) (named.mono growing₁) below
    (by omega)).bind fun two forgetPart growing₂ spot₂ => ?_
  refine (gate (held.mono (by grind)) (row.mono (by grind)) (named.mono (by grind)) below
    (by omega)).bind fun three candidatePart growing₃ spot₃ => ?_
  refine (gate (held.mono (by grind)) (row.mono (by grind)) (named.mono (by grind)) below
    (by omega)).bind fun four outputPart growing₄ spot₄ => ?_
  refine (apply _ float (spot₁.mono (by grind))).bind fun five i growing₅ spot₅ => ?_
  refine (apply _ float (spot₂.mono (by grind))).bind ?_
  intro six f growing₆ spot₆
  refine (apply _ float (spot₃.mono (by grind))).bind ?_
  intro seven g growing₇ spot₇
  refine (apply _ float (spot₄.mono (by grind))).bind ?_
  intro eight o growing₈ spot₈
  refine (vectorElement (row₂.mono (by grind)) (named.mono (by grind)) below).bind ?_
  intro nine previous growing₉ spot₉
  refine (binary (arithmetic .mul) (spot₆.mono (by grind)) spot₉).bind ?_
  intro ten kept growing₁₀ spot₁₀
  refine (binary (arithmetic .mul) (spot₅.mono (by grind))
    (spot₇.mono (by grind))).bind fun eleven added growing₁₁ spot₁₁ => ?_
  refine (binary (arithmetic .add) (spot₁₀.mono growing₁₁) spot₁₁).bind ?_
  intro twelve c growing₁₂ spot₁₂
  refine (apply parameters.activation float spot₁₂).bind fun thirteen activated growing₁₃ spot₁₃ => ?_
  refine (binary (arithmetic .mul) (spot₈.mono (by grind)) spot₁₃).bind ?_
  intro fourteen h growing₁₄ spot₁₄
  refine (Runs.assign (spot₉.mono (by grind)) (spot₁₂.mono (by grind))).bind ?_
  intro fifteen _ growing₁₅ _
  have parts : ground.Later eight := by grind
  have sums : eight.Later fifteen := by grind
  refine (vectorElement (row₁.mono (by grind)) (named.mono (by grind)) below).bind ?_
  intro sixteen place growing₁₆ spot₁₆
  refine (Runs.assign spot₁₆ (spot₁₄.mono (by grind))).bind fun seventeen _ growing₁₇ _ => ?_
  refine (vectorElement (row₄.mono (by grind)) (named.mono (by grind)) below).bind ?_
  intro eighteen place' growing₁₈ spot₁₈
  refine (Runs.assign spot₁₈ (spot₁₂.mono (by grind))).bind fun nineteen _ growing₁₉ _ => ?_
  refine (vectorElement (row₃.mono (by grind)) (named.mono (by grind)) below).bind ?_
  intro twenty place'' growing₂₀ spot₂₀
  exact Runs.assign spot₂₀ (spot₁₄.mono (by grind))

/-- The memory of a cell, and the trigger that it may have. -/
structure Remembers (ground : Ground allowed) (type : DType) (units : Nat)
    (memory : Kernel.LstmState) (trigger? : Option Value) : Prop where
  hidden : ground.Tensor type (Layout.packed [units]) memory.hidden
  cell : ground.Tensor type (Layout.packed [units]) memory.cell
  trigger : ∀ trigger ∈ trigger?, ∃ type sizes, elementCount sizes = 1 ∧
    ground.Tensor type (Layout.packed sizes) trigger ∧
      ground.Tensor type (Layout.packed [1]) memory.trigger

theorem Remembers.mono {memory : Kernel.LstmState} {trigger? : Option Value}
    (remembers : Remembers ground dtype units memory trigger?) (growing : ground.Later later) :
    Remembers later dtype units memory trigger? := by
  refine ⟨remembers.hidden.mono growing, remembers.cell.mono growing, fun trigger member => ?_⟩
  obtain ⟨type, sizes, single, taken, last⟩ := remembers.trigger trigger member
  exact ⟨type, sizes, single, taken.mono growing, last.mono growing⟩

theorem lstmStep {sizes : List Nat} {memory : Kernel.LstmState} {trigger? : Option Value}
    {hiddenOutput cellOutput : Value} (float : dtype.isFloat = true)
    (held : Cell ground dtype units (elementCount sizes) parameters)
    (remembers : Remembers ground dtype units memory trigger?)
    (tensor : ground.Tensor dtype (Layout.packed sizes) input)
    (tensor₁ : ground.Tensor dtype (Layout.packed [units]) hiddenOutput)
    (tensor₂ : ground.Tensor dtype (Layout.packed [units]) cellOutput) :
    ground.Runs (Kernel.lstmStep parameters memory trigger? input hiddenOutput cellOutput :
      Host ρ Unit) fun _ _ => True := by
  unfold Kernel.lstmStep
  rw [held.inputWeights.typed, held.units]
  refine (heldVector _ remembers.hidden).bind fun one hidden growing₁ row₁ => ?_
  refine (heldVector _ (remembers.cell.mono growing₁)).bind fun two cell growing₂ row₂ => ?_
  have followed : two.Runs (Kernel.followTrigger dtype memory hidden cell trigger? : Host ρ Unit)
      fun _ _ => True := by
    cases trigger? with
    | none => exact pure trivial
    | some trigger =>
        obtain ⟨type, shape, single, taken, last⟩ := remembers.trigger trigger rfl
        refine (heldVector _ (last.mono (growing₁.trans growing₂))).bind ?_
        intro three before growing₃ row₃
        exact applyTrigger (row₁.mono (by grind)) (row₂.mono growing₃) row₃ single
          (taken.mono (by grind))
  refine followed.bind fun three _ growing₃ _ => ?_
  refine (Runs.row (tensor.mono (by grind))).bind fun four x growing₄ row₄ => ?_
  refine (gateSums float (held.mono (by grind)) row₄ (row₁.mono (by grind))).bind ?_
  intro five gates growing₅ row₅
  refine (vectorOf (tensor₁.mono (by grind))).bind fun six hiddenOutput growing₆ row₆ => ?_
  refine (vectorOf (tensor₂.mono (by grind))).bind fun seven cellOutput growing₇ row₇ => ?_
  refine forRange fun limit below eight unit growing₈ named => ?_
  exact stepUnit float (held.mono (by grind)) (row₅.mono (by grind)) (row₁.mono (by grind))
    (row₂.mono (by grind)) (row₆.mono (by grind)) (row₇.mono (by grind)) named below

end Runs

end TensorGraph.Ground

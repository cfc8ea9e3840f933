/-
Convolutions, element by element.

The zeros around the input are the padding of a scratch storage, which is read
through a second view without padding.  What this view shows is the input inside
its border, so each element of the output is the sum of products over a window
of it, from place to place.
-/

import TensorGraph.Graph.Connect
import TensorGraph.Kernel.Layer.Convolution
import TensorGraph.Proofs.Kernel.Ground.Layers
import TensorGraph.Proofs.Kernel.Windows

namespace TensorGraph

/-! ### Sums over windows -/

namespace Kernel.ConvolutionShape

variable {shape : ConvolutionShape} {filters : Nat} {weights data : Storage}

/-- The sizes of the input. -/
def sizes (shape : ConvolutionShape) : List Nat :=
  [shape.rows, shape.columns, shape.channels]

/-- The sizes of the input with its border. -/
def extents (shape : ConvolutionShape) : List Nat :=
  [shape.rows + 2 * shape.padding, shape.columns + 2 * shape.padding, shape.channels]

/-- The sizes of the output. -/
def places (shape : ConvolutionShape) (filters : Nat) : List Nat :=
  [windowCount (shape.rows + 2 * shape.padding) shape.kernel shape.stride,
    windowCount (shape.columns + 2 * shape.padding) shape.kernel shape.stride, filters]

/-- The element of the input that lies at a place inside its border, and zero on the border. -/
def bordered (shape : ConvolutionShape) (data : Storage) (row column channel : Nat) : Literal :=
  if (shape.padding ≤ row ∧ row < shape.padding + shape.rows) ∧
      shape.padding ≤ column ∧ column < shape.padding + shape.columns then
    data.entry shape.sizes [row - shape.padding, column - shape.padding, channel]
  else
    .zero data.dtype

/-- The sizes of the weights. -/
def taps (shape : ConvolutionShape) (filters : Nat) : List Nat :=
  [filters, shape.kernel, shape.kernel, shape.channels]

/-- Adds the product at one place of the window that belongs to `[i, j, filter]`. -/
def take (shape : ConvolutionShape) (filters : Nat) (weights data : Storage) (i j filter : Nat)
    (sum : Literal) : List Nat → Except Error Literal
  | [di, dj, channel] =>
      Literal.accumulate sum
        (shape.bordered data (i * shape.stride + di) (j * shape.stride + dj) channel,
          weights.entry (shape.taps filters) [filter, di, dj, channel])
  | _ => .ok sum

/-- The sum of products over the window that belongs to some coordinates, from zero on and from
place to place in row-major order. -/
def sumAt (shape : ConvolutionShape) (filters : Nat) (weights data : Storage) :
    List Nat → Except Error Literal
  | [i, j, filter] =>
      (Layout.rowMajor [shape.kernel, shape.kernel, shape.channels]).foldlM
        (shape.take filters weights data i j filter) (.zero data.dtype)
  | coordinates => .error (.rankMismatch 3 coordinates.length)

theorem dtype_bordered (row column : Nat) {channel : Nat} (sized : data.size = elementCount shape.sizes)
    (plane : channel < shape.channels) :
    (shape.bordered data row column channel).dtype = data.dtype := by
  unfold bordered
  split
  · refine Storage.dtype_entry sized (Layout.inside_packed.mpr ?_)
    exact .cons (by omega) (.cons (by omega) (.cons plane .nil))
  · exact Literal.dtype_zero _

/-- Input, weights and their sizes are those of a convolution of numbers. -/
structure Conforms (shape : ConvolutionShape) (filters : Nat) (weights data : Storage) : Prop where
  numeric : data.dtype ≠ .bool
  typed : weights.dtype = data.dtype
  sized : data.size = elementCount shape.sizes
  sized' : weights.size = elementCount (shape.taps filters)

variable {i j filter di dj channel : Nat} {old new : Literal}

theorem take_done (conforms : shape.Conforms filters weights data) (typed : old.dtype = data.dtype)
    (number : filter < filters) (down : di < shape.kernel) (across : dj < shape.kernel)
    (plane : channel < shape.channels) :
    ∃ product new,
      (shape.bordered data (i * shape.stride + di) (j * shape.stride + dj) channel).binary .mul
          (weights.entry (shape.taps filters) [filter, di, dj, channel]) = .ok product ∧
        product.dtype = old.dtype ∧ old.binary .add product = .ok new ∧ new.dtype = old.dtype ∧
          shape.take filters weights data i j filter old [di, dj, channel] = .ok new := by
  have first := dtype_bordered (i * shape.stride + di) (j * shape.stride + dj) conforms.sized plane
  have second := Storage.dtype_entry conforms.sized' (Layout.inside_packed.mpr
    (.cons number (.cons down (.cons across (.cons plane .nil)))))
  exact @Literal.accumulate_done old (_, _) (typed.symm ▸ conforms.numeric)
    (first.trans typed.symm) (second.trans (conforms.typed.trans typed.symm))

/-- Every window that belongs to the output has its sum. -/
theorem exists_sumAt {coordinates : List Nat} (conforms : shape.Conforms filters weights data)
    (inside : List.Forall₂ (· < ·) coordinates (shape.places filters)) :
    ∃ sum, shape.sumAt filters weights data coordinates = .ok sum ∧ sum.dtype = data.dtype := by
  obtain _ | @⟨i, _, _, _, -, _ | @⟨j, _, _, _, -, _ | @⟨filter, _, _, _, number, _ | _⟩⟩⟩ := inside
  refine Literal.exists_foldlM (fun place member old typed => ?_) _ (Literal.dtype_zero _)
  obtain _ | ⟨down, _ | ⟨across, _ | ⟨plane, _ | _⟩⟩⟩ := Layout.mem_rowMajor.mp member
  obtain ⟨-, new, -, -, -, same, taken⟩ := take_done conforms typed number down across plane
  exact ⟨new, taken, same.trans typed⟩

end Kernel.ConvolutionShape

/-! ### The border -/

/-- Elements inside a border lie as far from its corner as the border is wide. -/
theorem Layout.place_padded {rows columns channels padding : Nat} {interior : Layout}
    (made : padded [rows, columns, channels]
      [rows + 2 * padding, columns + 2 * padding, channels] [padding, padding, 0] = .ok interior)
    (row column channel : Nat) :
    interior.place [row, column, channel] =
      (packed [rows + 2 * padding, columns + 2 * padding, channels]).place
        [row + padding, column + padding, channel] := by
  have axes := axes_of_ofAxes (made : ofAxes _ = .ok interior)
  rw [place_planes, place, axes]
  simp [packedIncrements, List.range_succ]

namespace Host

variable {ρ : Type} {state : HostState ρ} {heap middle after : Heap} {input output scratch : Value}
  {name name' : Nat} {interior : Layout} {shape : Kernel.ConvolutionShape} {data weights : Storage}

/-- The input in the middle of zeros, in a storage of its own. -/
structure Framed (shape : Kernel.ConvolutionShape) (data : Storage) (scratch : Value)
    (interior : Layout) (name : Nat) (heap : Heap) : Prop where
  made : Layout.padded shape.sizes shape.extents [shape.padding, shape.padding, 0] = .ok interior
  sizes : interior.logicalSizes = shape.sizes
  stands : scratch.Stands heap name 0
  shaped : scratch.layout? = some interior
  zeros : heap.storage name = Storage.zeros data.dtype (elementCount shape.extents)

/-- What the scratch storage holds once the input was copied: the input inside its border. -/
theorem Framed.entry (framed : Framed shape data scratch interior name' middle)
    (fills : input.Fills middle name shape.sizes data)
    (rewritten : scratch.Rewritten
      (fun coordinates element => input.get coordinates middle = .ok element) Set.univ middle after)
    {row column channel : Nat} (below : row < shape.rows + 2 * shape.padding)
    (below' : column < shape.columns + 2 * shape.padding) (plane : channel < shape.channels) :
    (after.storage name').entry shape.extents [row, column, channel] =
      shape.bordered data row column channel := by
  have inside : (Layout.packed shape.extents).Inside [row, column, channel] :=
    Layout.inside_packed.mpr (.cons below (.cons below' (.cons plane .nil)))
  have index : Layout.rowIndex shape.extents [row, column, channel] =
      (Layout.packed shape.extents).place [row, column, channel] :=
    (Layout.place_packed_eq (Layout.inside_packed.mp inside).length_eq).symm
  have held (element : Literal) (found : (after.storage name').cells[
      (Layout.packed shape.extents).place [row, column, channel]]? = some element) :
      (after.storage name').entry shape.extents [row, column, channel] = element := by
    rw [Storage.entry, index, Storage.item, found]
    rfl
  unfold Kernel.ConvolutionShape.bordered
  split
  · rename_i within
    obtain ⟨a, rfl⟩ := Nat.exists_eq_add_of_le' within.1.1
    obtain ⟨b, rfl⟩ := Nat.exists_eq_add_of_le' within.2.1
    rw [Nat.add_sub_cancel, Nat.add_sub_cancel]
    have inside' : List.Forall₂ (· < ·) [a, b, channel] shape.sizes :=
      .cons (by omega) (.cons (by omega) (.cons plane .nil))
    have inside'' : interior.Inside [a, b, channel] := by
      rwa [Layout.Inside, framed.sizes]
    have lies := (framed.stands.lies_iff framed.shaped).mpr ⟨inside'', rfl, rfl⟩
    obtain ⟨element, made, read⟩ := rewritten.each _ (Set.mem_univ _) _ _ lies
    rw [fills.get_entry (Layout.inside_packed.mpr inside')] at made
    cases made
    rw [Nat.zero_add, Layout.place_padded framed.made, Heap.cell_eq_ok] at read
    exact held _ read
  · rename_i without
    refine held _ ?_
    rw [rewritten.beside name' framed.stands.known _ ?_, framed.zeros, ← index]
    · exact Array.getElem?_replicate.trans (if_pos (Layout.rowIndex_lt inside))
    · rintro coordinates - lies
      obtain ⟨inside', -, same⟩ := (framed.stands.lies_iff framed.shaped).mp lies
      obtain ⟨a, b, c, rfl, top, side, depth⟩ := Layout.planes_of_inside framed.sizes inside'
      rw [Nat.zero_add, Layout.place_padded framed.made] at same
      have moved : (Layout.packed shape.extents).Inside [a + shape.padding, b + shape.padding, c] :=
        Layout.inside_packed.mpr (.cons (by omega) (.cons (by omega) (.cons depth .nil)))
      have here := (Layout.spaced_packed shape.extents).place_inj inside moved same
      injection here with first rest
      injection rest with second
      exact without (by omega)

/-- Copying the input into its border only adds storages, of which one holds the input inside its
border. -/
theorem framed_yields {α : Type} {run : Value → Host ρ α} {holds : α → HostState ρ → Prop}
    (fills : input.Fills state.heap name shape.sizes data)
    (counts : elementCount shape.extents ≤ Nat.pow 2 63)
    (rest : ∀ (full : Value) (whole : Storage) (after : HostState ρ),
      state.heap.Grows after.heap → full.Fills after.heap state.heap.next shape.extents whole →
        (∀ row < shape.rows + 2 * shape.padding, ∀ column < shape.columns + 2 * shape.padding,
          ∀ channel < shape.channels, whole.entry shape.extents [row, column, channel] =
            shape.bordered data row column channel) →
          Yields (run full) after holds) :
    Yields (do
      let interior ← Kernel.ofExcept
        (Layout.padded shape.sizes shape.extents [shape.padding, shape.padding, 0])
      let bordered ← Kernel.allocate data.dtype interior
      Kernel.assign bordered input
      run (← Kernel.withLayout bordered (Layout.packed shape.extents)) : Host ρ α) state holds := by
  obtain ⟨interior, made, sizes, memory⟩ :=
    Layout.padded_planes shape.rows shape.columns shape.channels shape.padding
  have room : interior.memorySize = elementCount shape.extents :=
    memory.trans (Layout.memorySize_packed shape.extents)
  let entered := onto state (state.heap.add (Storage.zeros data.dtype interior.memorySize))
  let scratch : Value :=
    { dtype? := some data.dtype
      layout? := some interior
      place := .host state.heap.next 0 }
  have growing : state.heap.Grows entered.heap := .add _ _
  have framed : Framed shape data scratch interior state.heap.next entered.heap :=
    { made := made
      sizes := sizes
      stands := (Value.stands_of_allocate (.padded made) rfl).1
      shaped := rfl
      zeros := by rw [← room]; exact Heap.storage_add_self _ _ }
  have fewer : interior.elementCount ≤ Nat.pow 2 63 := by
    refine le_trans ?_ counts
    rw [← Layout.elementCount_logicalSizes, sizes]
    simp only [Kernel.ConvolutionShape.extents, Layout.elementCount_cons]
    gcongr <;> omega
  have here := fills.grows growing
  refine .behind (ofExcept_ok.mpr ⟨made, rfl⟩) (.behind (rfl : (Kernel.allocate data.dtype interior :
    Host ρ Value) state = .ok scratch entered) ?_)
  refine (assign_yields framed.stands rfl here.stands here.shaped
    (sizes.trans (Layout.logicalSizes_packed _).symm) fills.typed fills.known.ne fewer).bind
    fun _ after rewritten => ?_
  have typed := rewritten.keeps.dtype state.heap.next framed.stands.known
  have sized := rewritten.keeps.size state.heap.next framed.stands.known
  rw [framed.zeros] at typed sized
  have full : (scratch.shown state.heap.next 0 (Layout.packed shape.extents)).Fills after.heap
      state.heap.next shape.extents (after.heap.storage state.heap.next) :=
    { value := by rw [typed]; rfl
      known := framed.stands.known.trans_le rewritten.keeps.next
      held := rfl
      sized := sized.trans (Storage.size_zeros _ _) }
  refine .behind (withLayout_done rfl ?_) (rest _ _ after
    ⟨growing.next.trans rewritten.keeps.next, fun other known => ?_⟩ full ?_)
  · rw [Layout.span_packed, Nat.zero_add, full.sized]
  · rw [rewritten.storage_eq framed.stands (known.trans_le growing.next) known.ne,
      growing.kept other known]
  · exact fun row below column below' channel plane => framed.entry here rewritten below below' plane

/-! ### The windows -/

/-- What the windows read: the input inside its border, and the weights. -/
structure Slides (shape : Kernel.ConvolutionShape) (filters : Nat) (weights data : Storage)
    (full kernel : Value) (heap : Heap) : Prop where
  conforms : shape.Conforms filters weights data
  full : ∃ name whole, full.Fills heap name shape.extents whole ∧
    ∀ row < shape.rows + 2 * shape.padding, ∀ column < shape.columns + 2 * shape.padding,
      ∀ channel < shape.channels, whole.entry shape.extents [row, column, channel] =
        shape.bordered data row column channel
  kernel : ∃ name, kernel.Fills heap name (shape.taps filters) weights
  down : shape.kernel ≤ shape.rows + 2 * shape.padding
  across : shape.kernel ≤ shape.columns + 2 * shape.padding
  counts : elementCount shape.extents ≤ Nat.pow 2 63
  counts' : weights.size ≤ Nat.pow 2 63

variable {filters i j number : Nat} {full kernel : Value} {filter row column : Scalar}
  {sum : Literal}

/-- One window is summed up, place by place. -/
theorem convolveTerms_yield (slides : Slides shape filters weights data full kernel heap)
    (top : i < windowCount (shape.rows + 2 * shape.padding) shape.kernel shape.stride)
    (side : j < windowCount (shape.columns + 2 * shape.padding) shape.kernel shape.stride)
    (depth : number < filters)
    (row_at : Counts state.heap heap.next row (i * shape.stride))
    (column_at : Counts state.heap heap.next column (j * shape.stride))
    (filter_at : Reads heap filter (.i64 (Int64.ofNat number)))
    (begun : Sums heap state.heap (item data.dtype heap.next 0) (.zero data.dtype))
    (folded : shape.sumAt filters weights data [i, j, number] = .ok sum) :
    Yields (Kernel.forEach (Layout.packed [shape.kernel, shape.kernel, shape.channels])
        (Kernel.convolveTerm kernel full filter row column (item data.dtype heap.next 0)) :
          Host ρ Unit) state fun _ after =>
      state.heap.Spares heap.next after.heap ∧
        Sums heap after.heap (item data.dtype heap.next 0) sum := by
  obtain ⟨_, whole, fills, shows⟩ := slides.full
  obtain ⟨_, fills'⟩ := slides.kernel
  have counts := slides.counts
  rw [← fills.sized] at counts
  refine yields_window rfl begun (by rw [Layout.logicalSizes_packed]; exact folded) ?_
  intro coordinates inside old new scalars middle spares sums taken counted
  obtain ⟨di, dj, channel, rfl, down, across, plane⟩ :=
    Layout.planes_of_inside (Layout.logicalSizes_packed _) inside
  obtain _ | ⟨di_at, _ | ⟨dj_at, _ | ⟨channel_at, _ | _⟩⟩⟩ := counted
  have below := Ground.window_lt slides.down top down
  have below' := Ground.window_lt slides.across side across
  have kind_old : old.dtype = data.dtype := sums.reads.dtype.symm
  obtain ⟨product, _, multiplied, kind_product, added, kind_new, taken'⟩ :=
    Kernel.ConvolutionShape.take_done (i := i) (j := j) slides.conforms kind_old depth down across plane
  cases taken'.symm.trans taken
  refine placed_yields (fills.grows sums.growing) (row_at.spared spares).reads
    (column_at.spared spares).reads di_at.reads dj_at.reads channel_at.reads
    (Layout.inside_packed.mpr (.cons below (.cons below' (.cons plane .nil)))) counts
    fun x one growing₁ x_at => ?_
  rw [shows _ below _ below' _ plane] at x_at
  have sums₁ := sums.grows growing₁
  obtain ⟨weight, found, weight_at⟩ := entry_reads (fills'.grows sums₁.growing)
    (.cons (filter_at.mono sums₁.growing) (.cons (di_at.reads.mono growing₁)
      (.cons (dj_at.reads.mono growing₁) (.cons (channel_at.reads.mono growing₁) .nil))))
    (Layout.inside_packed.mpr (.cons depth (.cons down (.cons across (.cons plane .nil)))))
    slides.counts'
  have kind_x := Kernel.ConvolutionShape.dtype_bordered (i * shape.stride + di)
    (j * shape.stride + dj) slides.conforms.sized plane
  have kind_w := Storage.dtype_entry slides.conforms.sized' (Layout.inside_packed.mpr
    (.cons depth (.cons down (.cons across (.cons plane .nil)))))
  obtain ⟨factor, two, done₂, growing₂, factor_at⟩ := gives_binary x_at weight_at
    (kind_w.trans (slides.conforms.typed.trans kind_x.symm)) multiplied
  have sums₂ := sums₁.grows growing₂
  obtain ⟨answer, three, done₃, growing₃, answer_at⟩ :=
    gives_binary sums₂.reads factor_at kind_product added
  refine .behind found (.behind done₂ (.behind done₃ ?_))
  refine ((sums₂.grows growing₃).take (by rw [kind_old]) answer_at kind_new).mono
    fun _ after both => ⟨?_, both.1⟩
  exact (Heap.Spares.of_grows (growing₁.trans (growing₂.trans growing₃))).trans both.2

/-- The sum over a window is put where it belongs. -/
theorem convolveAt_yields {layout : Layout} {base : Nat} {coordinates : List Nat}
    {scalars : List Scalar} {stride : Scalar} {result : Literal}
    (slides : Slides shape filters weights data full kernel state.heap)
    (stands : output.Stands state.heap name base) (shaped : output.layout? = some layout)
    (sizes : layout.logicalSizes = shape.places filters)
    (counts : layout.elementCount ≤ Nat.pow 2 63) (typed : output.dtype? = some data.dtype)
    (stride_at : Reads state.heap stride (.i64 (Int64.ofNat shape.stride)))
    (inside : layout.Inside coordinates)
    (counted : List.Forall₂ (Counts state.heap name) scalars coordinates)
    (summed : shape.sumAt filters weights data coordinates = .ok result)
    (typed' : result.dtype = data.dtype) :
    Yields (Kernel.convolveAt shape data.dtype stride kernel full output scalars : Host ρ Unit)
      state fun _ after => ∃ grown element, state.heap.Grows grown ∧
        shape.sumAt filters weights data coordinates = .ok element ∧
          grown.Written after.heap name (base + layout.place coordinates) [(0, element)] := by
  obtain ⟨i, j, number, rfl, top, side, depth⟩ := Layout.planes_of_inside sizes inside
  have all := counted
  obtain _ | ⟨i_at, _ | ⟨j_at, _ | ⟨number_at, _ | _⟩⟩⟩ := counted
  refine begun_yields (Literal.dtype_zero _) (fun _ middle _ => gives_constant _ middle)
    fun one begun => ?_
  refine origin_yields (i_at.reads.mono begun.growing) (j_at.reads.mono begun.growing)
    (stride_at.mono begun.growing) begun.known fun row column two growing₂ row_at column_at => ?_
  refine (convolveTerms_yield slides top side depth row_at column_at number_at.reads
    (begun.grows growing₂) summed).bind fun _ three ⟨_, sums⟩ => ?_
  exact (entry_written (stands.keeps (.of_grows sums.growing)) shaped
    (all.imp fun _ _ at_ => at_.spared (.of_grows sums.growing)) inside counts sums.reads
    (typed'.symm ▸ typed)).mono fun _ after written => ⟨_, result, sums.growing, summed, written⟩

/-- A convolution puts the sums over its windows into the output. -/
theorem convolve_yields {sizes : List Nat} {old : Storage}
    (conforms : shape.Conforms filters weights data)
    (fills : input.Fills state.heap name shape.sizes data)
    (kernels : ∃ name, name ≠ name' ∧ kernel.Fills state.heap name (shape.taps filters) weights)
    (fills' : output.Fills state.heap name' sizes old) (typed : old.dtype = data.dtype)
    (places : sizes = shape.places filters)
    (down : shape.kernel ≤ shape.rows + 2 * shape.padding)
    (across : shape.kernel ≤ shape.columns + 2 * shape.padding)
    (counts : elementCount shape.extents ≤ Nat.pow 2 63) (counts' : weights.size ≤ Nat.pow 2 63)
    (counts'' : old.size ≤ Nat.pow 2 63) :
    Yields (Kernel.convolve shape kernel input output : Host ρ Unit) state fun _ after =>
      output.Rewritten (fun coordinates element =>
        shape.sumAt filters weights data coordinates = .ok element)
        Set.univ state.heap after.heap := by
  refine .behind (ofExcept_ok.mpr ⟨fills.dtype, rfl⟩) ?_
  refine framed_yields fills counts fun full whole one growing framed shows => ?_
  refine (index_yields shape.stride (fills'.known.trans_le growing.next)).bind ?_
  intro stride two ⟨growing₂, stride_at⟩
  refine .behind (ofExcept_ok.mpr ⟨fills'.layout, rfl⟩) ?_
  have there := fills'.grows (growing.trans growing₂)
  obtain ⟨place, different, kernel_fills⟩ := kernels
  refine (yields_rewrites there.stands there.shaped ?_).mono fun _ after rewritten =>
    rewritten.of_grown (growing.trans growing₂)
  intro coordinates inside scalars middle spares counted
  have slides : Slides shape filters weights data full kernel middle.heap :=
    { conforms := conforms
      full := ⟨_, whole, (framed.grows growing₂).spared spares fills'.known.ne', shows⟩
      kernel := ⟨place, (kernel_fills.grows (growing.trans growing₂)).spared spares different⟩
      down := down
      across := across
      counts := counts
      counts' := counts' }
  obtain ⟨result, summed, typed'⟩ :=
    Kernel.ConvolutionShape.exists_sumAt conforms (places ▸ Layout.inside_packed.mp inside)
  refine convolveAt_yields slides (there.stands.keeps spares.keeps) there.shaped
    ((Layout.logicalSizes_packed sizes).trans places) ?_ (typed ▸ fills'.typed)
    (stride_at.spared spares).reads inside counted summed typed'
  rwa [Layout.elementCount_packed, ← fills'.sized]

end Host
end TensorGraph

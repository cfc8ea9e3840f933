/-
Pooling, window by window.

Each element of the output is the reduction of one window of the input, in the
order of its places.  The reduction runs in a cell of its own, and a window that
begins inside never reaches past the input.
-/

import TensorGraph.Graph.Connect
import TensorGraph.Kernel.Layer.Pooling
import TensorGraph.Proofs.Kernel.Ground.Layers
import TensorGraph.Proofs.Kernel.Units
import TensorGraph.Proofs.Kernel.Windows

namespace TensorGraph

/-! ### Reductions of windows -/

namespace PoolingKind

variable {kind : PoolingKind} {window stride : Nat} {sizes : List Nat} {data : Storage}

/-- Takes in the element at one place of the window that belongs to `[i, j, channel]`. -/
def take (kind : PoolingKind) (stride : Nat) (sizes : List Nat) (data : Storage)
    (i j channel : Nat) (reduced : Literal) : List Nat → Except Error Literal
  | [a, b] => reduced.binary kind.op (data.entry sizes [i * stride + a, j * stride + b, channel])
  | _ => .ok reduced

/-- What becomes of the reduction of a window. -/
def finish (kind : PoolingKind) (window : Nat) (reduced : Literal) : Except Error Literal :=
  match kind with
  | max => .ok reduced
  | mean => reduced.binary .div (.ofFloat reduced.dtype (Float.ofNat (window * window)))

/-- The reduction of the window of `data` that belongs to some coordinates, from place to place in
row-major order. -/
def reduce (kind : PoolingKind) (window stride : Nat) (sizes : List Nat) (data : Storage) :
    List Nat → Except Error Literal
  | [i, j, channel] => do
      let reduced ← (Layout.rowMajor [window, window]).foldlM
        (kind.take stride sizes data i j channel) (.ofFloat data.dtype kind.initial)
      kind.finish window reduced
  | coordinates => .error (.rankMismatch 3 coordinates.length)

/-- A window that belongs to the output lies in the input. -/
theorem inside {rows columns channels i j channel a b : Nat} (down : window ≤ rows)
    (across : window ≤ columns) (row : i < windowCount rows window stride)
    (column : j < windowCount columns window stride) (plane : channel < channels)
    (place : a < window) (place' : b < window) :
    (Layout.packed [rows, columns, channels]).Inside
      [i * stride + a, j * stride + b, channel] :=
  Layout.inside_packed.mpr (.cons (Ground.window_lt down row place)
    (.cons (Ground.window_lt across column place') (.cons plane .nil)))

theorem finish_done {reduced : Literal} (float : reduced.dtype.isFloat = true) :
    ∃ result, kind.finish window reduced = .ok result ∧ result.dtype = reduced.dtype := by
  cases kind with
  | max => exact ⟨reduced, rfl, rfl⟩
  | mean => exact Literal.float_binary .div float (Literal.dtype_ofFloat _ _)

/-- Every window that belongs to the output has its reduction. -/
theorem exists_reduce (kind : PoolingKind) {rows columns channels : Nat} {coordinates : List Nat}
    (float : data.dtype.isFloat = true) (sized : data.size = elementCount [rows, columns, channels])
    (down : window ≤ rows) (across : window ≤ columns)
    (inside : List.Forall₂ (· < ·) coordinates
      [windowCount rows window stride, windowCount columns window stride, channels]) :
    ∃ result, kind.reduce window stride [rows, columns, channels] data coordinates = .ok result ∧
      result.dtype = data.dtype := by
  obtain _ | @⟨i, _, _, _, top, _ | @⟨j, _, _, _, side, _ | @⟨plane, _, _, _, depth, _ | _⟩⟩⟩ := inside
  have steps : ∀ place ∈ Layout.rowMajor [window, window], ∀ old : Literal,
      old.dtype = data.dtype → ∃ new,
        kind.take stride [rows, columns, channels] data i j plane old place = .ok new ∧
          new.dtype = data.dtype := by
    intro place member old typed
    obtain _ | ⟨below, _ | ⟨below', _ | _⟩⟩ := Layout.mem_rowMajor.mp member
    have typed' := Storage.dtype_entry sized (inside down across top side depth below below')
    obtain ⟨new, taken, same⟩ :=
      Literal.float_binary kind.op (typed ▸ float) (typed'.trans typed.symm)
    exact ⟨new, taken, same.trans typed⟩
  obtain ⟨sum, folded, typed⟩ := Literal.exists_foldlM steps (.ofFloat data.dtype kind.initial)
    (Literal.dtype_ofFloat _ _)
  obtain ⟨result, finished, same⟩ := finish_done (typed ▸ float : sum.dtype.isFloat = true)
  exact ⟨result, bind_eq_ok.mpr ⟨sum, folded, finished⟩, same.trans typed⟩

end PoolingKind

namespace Host

variable {ρ : Type} {state : HostState ρ} {heap : Heap} {input output : Value} {name : Nat}
  {kind : PoolingKind} {window stride rows columns channels i j plane : Nat} {data : Storage}
  {row column channel : Scalar} {sum : Literal}

/-- One window is taken in, place by place. -/
theorem poolTerms_yield (fills : input.Fills heap name [rows, columns, channels] data)
    (float : data.dtype.isFloat = true) (counts : data.size ≤ Nat.pow 2 63)
    (down : window ≤ rows) (across : window ≤ columns) (top : i < windowCount rows window stride)
    (side : j < windowCount columns window stride) (depth : plane < channels)
    (row_at : Counts state.heap heap.next row (i * stride))
    (column_at : Counts state.heap heap.next column (j * stride))
    (channel_at : Reads heap channel (.i64 (Int64.ofNat plane)))
    (begun : Sums heap state.heap (item data.dtype heap.next 0)
      (.ofFloat data.dtype kind.initial))
    (folded : (Layout.rowMajor [window, window]).foldlM
      (kind.take stride [rows, columns, channels] data i j plane)
      (.ofFloat data.dtype kind.initial) = .ok sum) :
    Yields (Kernel.forEach (Layout.packed [window, window])
        (Kernel.poolTerm kind input row column channel (item data.dtype heap.next 0)) :
          Host ρ Unit) state fun _ after =>
      state.heap.Spares heap.next after.heap ∧
        Sums heap after.heap (item data.dtype heap.next 0) sum := by
  refine yields_window rfl begun (by rwa [Layout.logicalSizes_packed]) ?_
  intro coordinates inside old new scalars middle spares sums taken counted
  obtain ⟨a, b, rfl, place, place'⟩ : ∃ a b, coordinates = [a, b] ∧ a < window ∧ b < window := by
    obtain _ | ⟨place, _ | ⟨place', _ | _⟩⟩ := Layout.inside_packed.mp inside
    exact ⟨_, _, rfl, place, place'⟩
  obtain _ | ⟨a_at, _ | ⟨b_at, _ | _⟩⟩ := counted
  refine placed_yields (fills.grows sums.growing) (row_at.spared spares).reads
    (column_at.spared spares).reads a_at.reads b_at.reads (channel_at.mono sums.growing)
    (PoolingKind.inside down across top side depth place place') counts
    fun x one growing reads => ?_
  have inside' := PoolingKind.inside down across top side depth place place'
  have typed := Storage.dtype_entry fills.sized inside'
  have sums₁ := sums.grows growing
  have kind_old : old.dtype = data.dtype := sums.reads.dtype.symm
  obtain ⟨answer, two, done, growing₂, reads₂⟩ :=
    gives_binary sums₁.reads reads (typed.trans kind_old.symm) taken
  have kind_new := dtype_of_binary (kind_old ▸ float) (typed.trans kind_old.symm) taken
  refine .behind done (((sums₁.grows growing₂).take (by rw [kind_old]) reads₂ kind_new).mono
    fun _ after both => ⟨?_, both.1⟩)
  exact (Heap.Spares.of_grows (growing.trans growing₂)).trans both.2

theorem poolResult_gives {reduced : Scalar} {result : Literal}
    (reads : Reads state.heap reduced sum) (finished : kind.finish window sum = .ok result) :
    Gives (Kernel.poolResult kind window reduced : Host ρ Scalar) state result := by
  cases kind with
  | max =>
      cases finished
      exact ⟨reduced, state, rfl, .refl _, reads⟩
  | mean =>
      refine (gives_like reads (Float.ofNat (window * window))).bind
        fun divisor after growing reads' => ?_
      exact gives_binary (reads.mono growing) reads' (Literal.dtype_ofFloat _ _) finished

/-- The reduction of a window is put where it belongs. -/
theorem poolAt_yields {layout : Layout} {base : Nat} {name' : Nat} {coordinates : List Nat}
    {scalars : List Scalar} {step : Scalar} {result : Literal}
    (fills : input.Fills state.heap name [rows, columns, channels] data)
    (float : data.dtype.isFloat = true) (counts : data.size ≤ Nat.pow 2 63)
    (down : window ≤ rows) (across : window ≤ columns)
    (stands : output.Stands state.heap name' base) (shaped : output.layout? = some layout)
    (sizes : layout.logicalSizes =
      [windowCount rows window stride, windowCount columns window stride, channels])
    (counts' : layout.elementCount ≤ Nat.pow 2 63) (typed : output.dtype? = some data.dtype)
    (step_at : Reads state.heap step (.i64 (Int64.ofNat stride)))
    (inside : layout.Inside coordinates)
    (counted : List.Forall₂ (Counts state.heap name') scalars coordinates)
    (reduced : kind.reduce window stride [rows, columns, channels] data coordinates = .ok result)
    (typed' : result.dtype = data.dtype) :
    Yields (Kernel.poolAt kind window data.dtype step input output scalars : Host ρ Unit) state
      fun _ after => ∃ grown element, state.heap.Grows grown ∧
        kind.reduce window stride [rows, columns, channels] data coordinates = .ok element ∧
          grown.Written after.heap name' (base + layout.place coordinates) [(0, element)] := by
  obtain ⟨i, j, plane, rfl, top, side, depth⟩ := Layout.planes_of_inside sizes inside
  have all := counted
  obtain _ | ⟨i_at, _ | ⟨j_at, _ | ⟨plane_at, _ | _⟩⟩⟩ := counted
  obtain ⟨sum, folded, finished⟩ := bind_eq_ok.mp reduced
  have like : ∀ total (middle : HostState ρ), Reads middle.heap total (.zero data.dtype) →
      Gives (total.like kind.initial) middle (.ofFloat data.dtype kind.initial) := by
    intro total middle reads
    have gives := gives_like reads kind.initial
    rwa [Literal.dtype_zero] at gives
  refine begun_yields (Literal.dtype_ofFloat _ _) like fun one begun => ?_
  refine origin_yields (i_at.reads.mono begun.growing) (j_at.reads.mono begun.growing)
    (step_at.mono begun.growing) begun.known fun row column two growing₂ row_at column_at => ?_
  refine (poolTerms_yield fills float counts down across top side depth row_at column_at
    plane_at.reads (begun.grows growing₂) folded).bind fun _ four ⟨_, sums⟩ => ?_
  obtain ⟨answer, five, done, growing₅, reads⟩ := poolResult_gives sums.reads finished
  have growing := sums.growing.trans growing₅
  refine .behind done ((entry_written (stands.keeps (.of_grows growing)) shaped
    (all.imp fun _ _ at_ => at_.spared (.of_grows growing)) inside counts' reads
    (typed'.symm ▸ typed)).mono fun _ after written => ⟨_, result, growing, reduced, written⟩)

/-- Pooling puts the reductions of its windows into the output. -/
theorem pool_yields {sizes : List Nat} {name' : Nat} {old : Storage}
    (fills : input.Fills state.heap name [rows, columns, channels] data)
    (fills' : output.Fills state.heap name' sizes old) (typed : old.dtype = data.dtype)
    (shape : sizes = [windowCount rows window stride, windowCount columns window stride, channels])
    (float : data.dtype.isFloat = true) (down : window ≤ rows) (across : window ≤ columns)
    (counts : data.size ≤ Nat.pow 2 63) (counts' : old.size ≤ Nat.pow 2 63)
    (different : name ≠ name') :
    Yields (Kernel.pool kind window stride input output : Host ρ Unit) state fun _ after =>
      output.Rewritten (fun coordinates element =>
        kind.reduce window stride [rows, columns, channels] data coordinates = .ok element)
        Set.univ state.heap after.heap := by
  refine .behind (ofExcept_ok.mpr ⟨fills.dtype, rfl⟩) ((index_yields stride fills'.known).bind ?_)
  intro step one ⟨growing, step_at⟩
  refine .behind (ofExcept_ok.mpr ⟨fills'.layout, rfl⟩) ?_
  have there := fills'.grows growing
  refine (yields_rewrites there.stands there.shaped ?_).mono fun _ after rewritten =>
    rewritten.of_grown growing
  intro coordinates inside scalars middle spares counted
  obtain ⟨result, reduced, typed'⟩ := kind.exists_reduce float fills.sized
    down across (shape ▸ Layout.inside_packed.mp inside)
  refine poolAt_yields ((fills.grows growing).spared spares different) float counts down across
    (there.stands.keeps spares.keeps) there.shaped
    ((Layout.logicalSizes_packed sizes).trans shape) ?_ (typed ▸ fills'.typed)
    (step_at.spared spares).reads inside counted reduced typed'
  rwa [Layout.elementCount_packed, ← fills'.sized]

end Host
end TensorGraph

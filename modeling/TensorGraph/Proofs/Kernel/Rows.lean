/-
Rows on the host.

A row is a whole storage, seen as a vector.  A run on the host is shown to have
an answer by what holds of the state at each of its steps: a loop keeps what each
of its turns takes one step further.  So a loop that writes one literal into each
element of a row leaves exactly these literals there, whether or not it reads the
row that it writes.
-/

import TensorGraph.Kernel.Layer.Channel
import TensorGraph.Proofs.Kernel.Scalars

namespace TensorGraph

namespace Host

variable {ρ : Type}

section Endings

variable {α β : Type} {state middle after : HostState ρ} {heap : Heap}

/-! ### Runs that have an answer -/

/-- The run has an answer, of which something holds. -/
def Yields (run : Host ρ α) (state : HostState ρ) (holds : α → HostState ρ → Prop) : Prop :=
  ∃ answer after, run state = .ok answer after ∧ holds answer after

namespace Yields

variable {run : Host ρ α} {holds holds' : α → HostState ρ → Prop}

theorem of_done {answer : α} (done : run state = .ok answer after) (held : holds answer after) :
    Yields run state holds :=
  ⟨answer, after, done, held⟩

theorem mono (yields : Yields run state holds)
    (weaker : ∀ answer after, holds answer after → holds' answer after) :
    Yields run state holds' := by
  obtain ⟨answer, after, done, held⟩ := yields
  exact ⟨answer, after, done, weaker answer after held⟩

theorem bind {first : Host ρ β} {rest : β → Host ρ α} {between : β → HostState ρ → Prop}
    (one : Yields first state between)
    (two : ∀ answer middle, between answer middle → Yields (rest answer) middle holds) :
    Yields (first >>= rest) state holds := by
  obtain ⟨answer, middle, done, held⟩ := one
  obtain ⟨result, after, done', held'⟩ := two answer middle held
  exact ⟨result, after, bind_ok.mpr ⟨answer, middle, done, done'⟩, held'⟩

theorem behind {first : Host ρ β} {rest : β → Host ρ α} {answer : β}
    (done : first state = .ok answer middle) (yields : Yields (rest answer) middle holds) :
    Yields (first >>= rest) state holds := by
  obtain ⟨result, after, done', held⟩ := yields
  exact ⟨result, after, bind_ok.mpr ⟨answer, middle, done, done'⟩, held⟩

end Yields

/-! ### Loops -/

theorem indices_one (size : Nat) : indices 0 size 1 = List.range' 0 size := by
  unfold indices
  simp [List.range_eq_range']

/-- A loop keeps what each of its turns takes one step further.  Its index stands in a storage of
its own. -/
theorem yields_turns {size : Nat} {body : Scalar → Host ρ Unit} {holds : Nat → Heap → Prop}
    (turn : ∀ index < size, ∀ middle : HostState ρ, holds index middle.heap →
      Yields (body (alone (.i64 (Int64.ofNat index)) middle.heap.next))
        (onto middle (middle.heap.add (Storage.singleton (.i64 (Int64.ofNat index)))))
        fun _ after => holds (index + 1) after.heap)
    (start : holds 0 state.heap) :
    Yields (Host.forRange 0 size 1 body) state fun _ after => holds size after.heap := by
  -- the turns that are left, counted down to the end of the loop
  have run : ∀ left start, start + left = size → ∀ middle : HostState ρ, holds start middle.heap →
      Yields (runOver body (List.range' start left)) middle fun _ after =>
        holds size after.heap := by
    intro left
    induction left with
    | zero =>
        rintro start rfl middle held
        exact .of_done rfl held
    | succ left inductionHypothesis =>
        intro start total middle held
        refine .behind rfl ((turn start (by omega) middle held).bind fun _ next held' => ?_)
        exact inductionHypothesis (start + 1) (by omega) next held'
  unfold Host.forRange
  rw [if_neg Nat.one_ne_zero, indices_one]
  exact run size 0 (Nat.zero_add size) state start

/-- A loop over what stays when storages are added. -/
theorem yields_forRange {size : Nat} {body : Scalar → Host ρ Unit} {holds : Nat → Heap → Prop}
    (grows : ∀ index (heap later : Heap), holds index heap → heap.Grows later → holds index later)
    (turn : ∀ index < size, ∀ (scalar : Scalar) (middle : HostState ρ), holds index middle.heap →
      Reads middle.heap scalar (.i64 (Int64.ofNat index)) →
        Yields (body scalar) middle fun _ after => holds (index + 1) after.heap)
    (start : holds 0 state.heap) :
    Yields (Host.forRange 0 size 1 body) state fun _ after => holds size after.heap :=
  yields_turns (fun index below middle held =>
    turn index below _ _ (grows index _ _ held (.add _ _)) (reads_alone _ middle.heap)) start

/-- Every turn of a loop that came to its end came to its own end. -/
theorem turn_of_forRange {size : Nat} {body : Scalar → Host ρ Unit} {state after : HostState ρ}
    (done : Host.forRange 0 size 1 body state = .ok () after) {index : Nat} (below : index < size) :
    ∃ (scalar : Scalar) (middle next : HostState ρ),
      Reads middle.heap scalar (.i64 (Int64.ofNat index)) ∧ body scalar middle = .ok () next := by
  have run : ∀ left start, ∀ state : HostState ρ,
      runOver body (List.range' start left) state = .ok () after →
      ∀ index, start ≤ index → index < start + left →
        ∃ (scalar : Scalar) (middle next : HostState ρ),
          Reads middle.heap scalar (.i64 (Int64.ofNat index)) ∧
            body scalar middle = .ok () next := by
    intro left
    induction left with
    | zero => exact fun _ _ _ _ above below => by omega
    | succ left ih =>
        intro start state done index above below
        obtain ⟨scalar, entered, made, done⟩ := bind_ok.mp done
        obtain ⟨_, next, first, rest⟩ := bind_ok.mp done
        by_cases here : index = start
        · cases made
          exact ⟨_, _, next, here ▸ reads_alone (.i64 (Int64.ofNat start)) state.heap, first⟩
        · exact ih (start + 1) next rest index (by omega) (by omega)
  unfold Host.forRange at done
  rw [if_neg Nat.one_ne_zero, indices_one] at done
  exact run size 0 state done index (Nat.zero_le index) (by omega)

end Endings

/-! ### Rows -/

/-- The value is one packed row of elements, a whole storage of the heap. -/
structure Row (heap : Heap) (value : Value) (name : Nat) (dtype : DType) (size : Nat) : Prop where
  value : value =
    { dtype? := some dtype
      layout? := some (Layout.packed [size])
      place := .host name 0 }
  known : name < heap.next
  dtype : (heap.storage name).dtype = dtype
  size : (heap.storage name).size = size

theorem position_ofNat {index : Nat} (counts : index < Nat.pow 2 63) :
    Scalar.position (.i64 (Int64.ofNat index)) = .ok index := by
  have same : (Int64.ofNat index).toInt = index := Int64.toInt_ofNat_of_lt counts
  unfold Scalar.position Literal.toInt64
  dsimp only
  rw [same, if_pos (Int.natCast_nonneg index), Int.toNat_natCast]

theorem Row.ready {heap : Heap} {value : Value} {name : Nat} {dtype : DType} {size : Nat}
    (row : Row heap value name dtype size) : value.ready = .ok (Layout.packed [size]) := by
  rw [row.value]
  rfl

theorem offset_row {value : Value} {name : Nat} {dtype : DType} {size index : Nat}
    {state : HostState ρ} (row : Row state.heap value name dtype size) {scalar : Scalar}
    (reads : Reads state.heap scalar (.i64 (Int64.ofNat index))) (below : index < size)
    (counts : index < Nat.pow 2 63) :
    (Host.offset value [scalar] : Host ρ Value) state =
      .ok
        { dtype? := some dtype
          layout? := none
          place := .host name index } state := by
  have place : (Layout.packed [size]).flatOffset [index] = .ok index := by
    have axes : (Layout.packed [size]).axes =
        [{ size := size, extent := size, offset := 0, increment := 1, logical := 0 }] := rfl
    unfold Layout.flatOffset Layout.rank Layout.place
    rw [axes]
    simp
  have advanced : value.advanced index state.heap =
      .ok
        { dtype? := some dtype
          layout? := none
          place := .host name index } := by
    rw [row.value]
    unfold Value.advanced Value.host
    simp only [bind, Except.bind, row.size]
    rw [if_neg (by omega)]
    simp only [Nat.zero_add]
    rfl
  have coordinate : ([scalar].mapM fun index => do
      ofExcept (Scalar.position (← readLiteral index.value)) : Host ρ (List Nat)) state =
        .ok [index] state := by
    rw [List.mapM_cons, List.mapM_nil]
    refine bind_ok.mpr ⟨index, state, ?_, rfl⟩
    exact bind_ok.mpr ⟨_, state, readLiteral_reads reads,
      ofExcept_ok.mpr ⟨position_ofNat counts, rfl⟩⟩
  unfold Host.offset
  refine bind_ok.mpr ⟨Layout.packed [size], state, ofExcept_ok.mpr ⟨row.ready, rfl⟩, ?_⟩
  have one : ¬ [scalar].length ≠ (Layout.packed [size]).rank := not_not.mpr rfl
  rw [if_neg one]
  refine bind_ok.mpr ⟨[index], state, coordinate, ?_⟩
  refine bind_ok.mpr ⟨index, state, ofExcept_ok.mpr ⟨place, rfl⟩, ?_⟩
  exact look_ok.mpr ⟨advanced, rfl⟩

/-- The scalar of one element of a row. -/
def item (dtype : DType) (name index : Nat) : Scalar :=
  { value :=
      { dtype? := some dtype
        layout? := some Layout.scalar
        place := .host name index }
    dtype := dtype
    typed := rfl
    rankZero := rfl }

theorem element_row {value : Value} {name : Nat} {dtype : DType} {size index : Nat}
    {state : HostState ρ} (row : Row state.heap value name dtype size) {scalar : Scalar}
    (reads : Reads state.heap scalar (.i64 (Int64.ofNat index))) (below : index < size)
    (counts : index < Nat.pow 2 63) :
    (Kernel.element value [scalar] : Host ρ Scalar) state = .ok (item dtype name index) state := by
  have placed : Value.withLayout
      { dtype? := some dtype
        layout? := none
        place := .host name index } Layout.scalar state.heap = .ok (item dtype name index).value := by
    have fits : Value.checkFits Layout.scalar index (state.heap.storage name).size = .ok () := by
      unfold Value.checkFits
      rw [row.size]
      exact if_neg (by change ¬ index + 1 > size; omega)
    simp only [Value.withLayout, fits, bind, Except.bind]
    rfl
  refine bind_ok.mpr ⟨_, state, offset_row row reads below counts, ?_⟩
  refine bind_ok.mpr ⟨_, state, look_ok.mpr ⟨placed, rfl⟩, ?_⟩
  exact ofExcept_ok.mpr ⟨rfl, rfl⟩

theorem reads_item {heap : Heap} {value : Value} {name : Nat} {dtype : DType} {size index : Nat}
    (row : Row heap value name dtype size) {element : Literal}
    (held : (heap.storage name).cells[index]? = some element) :
    Reads heap (item dtype name index) element := by
  refine ⟨?_, rfl, name, index, rfl, row.known, held⟩
  have typed := (heap.storage name).typed element (Array.mem_of_getElem? held)
  rw [typed, row.dtype]
  rfl

/-- One element of a row overwritten. -/
theorem assign_item {value : Value} {name : Nat} {dtype : DType} {size index : Nat}
    {state : HostState ρ} (row : Row state.heap value name dtype size) (below : index < size)
    {scalar : Scalar} {element : Literal} (reads : Reads state.heap scalar element)
    (typed : element.dtype = dtype) :
    ∃ storage after, (state.heap.storage name).set index element = .ok storage ∧
      ((item dtype name index).assign scalar : Host ρ Unit) state = .ok () after ∧
      after.heap = state.heap.replace name storage := by
  have within : index < (state.heap.storage name).cells.size := by
    rw [← row.size] at below
    exact below
  obtain ⟨storage, changed⟩ : ∃ storage,
      (state.heap.storage name).set index element = .ok storage := by
    unfold Storage.set
    rw [dif_pos within, dif_pos (typed.trans row.dtype.symm)]
    exact ⟨_, rfl⟩
  have updated : (item dtype name index).value.set [] element state.heap =
      .ok () (state.heap.replace name storage) := by
    change Heap.update name (fun storage => storage.set (index + 0) element) state.heap = _
    unfold Heap.update
    dsimp only
    rw [Nat.add_zero, changed]
  have same : (item dtype name index).dtype = scalar.dtype := typed.symm.trans reads.dtype.symm
  refine ⟨storage, onto (counted state 1) (state.heap.replace name storage), changed, ?_, rfl⟩
  refine bind_ok.mpr ⟨(), state, checkType_done same, ?_⟩
  refine bind_ok.mpr ⟨element, state, readLiteral_reads reads, ?_⟩
  refine bind_ok.mpr ⟨dtype, state, ofExcept_ok.mpr ⟨rfl, rfl⟩, ?_⟩
  rw [if_neg (not_not.mpr typed.symm)]
  exact bind_ok.mpr ⟨(), counted state 1, rfl, onHeap_ok.mpr ⟨_, updated, rfl⟩⟩

/-! ### Loops over a row -/

/-- The first elements of a storage have been written; the rest of the heap is as it was,
but for new storages. -/
structure Filled (before heap : Heap) (name : Nat) (target : Nat → Literal) (count : Nat) :
    Prop where
  next : before.next ≤ heap.next
  others : ∀ other < before.next, other ≠ name → heap.storage other = before.storage other
  dtype : (heap.storage name).dtype = (before.storage name).dtype
  size : (heap.storage name).size = (before.storage name).size
  written : ∀ index < count, index < (before.storage name).size →
    (heap.storage name).cells[index]? = some (target index)
  rest : ∀ index, count ≤ index →
    (heap.storage name).cells[index]? = (before.storage name).cells[index]?

namespace Filled

variable {before heap later : Heap} {name count : Nat} {target : Nat → Literal}

theorem start (heap : Heap) (name : Nat) (target : Nat → Literal) :
    Filled heap heap name target 0 :=
  ⟨le_rfl, fun _ _ _ => rfl, rfl, rfl, fun _ absurd => by omega, fun _ _ => rfl⟩

theorem grows (filled : Filled before heap name target count) (known : name < before.next)
    (growing : heap.Grows later) : Filled before later name target count := by
  have same := growing.kept name (known.trans_le filled.next)
  refine ⟨filled.next.trans growing.next, ?_, ?_, ?_, ?_, ?_⟩
  · intro other within different
    rw [growing.kept other (within.trans_le filled.next)]
    exact filled.others other within different
  · exact same ▸ filled.dtype
  · exact same ▸ filled.size
  · exact same ▸ filled.written
  · exact same ▸ filled.rest

theorem row (filled : Filled before heap name target count) {value : Value} {dtype : DType}
    {size : Nat} (row : Row before value name dtype size) : Row heap value name dtype size :=
  ⟨row.value, row.known.trans_le filled.next, filled.dtype.trans row.dtype,
    filled.size.trans row.size⟩

/-- Rows elsewhere stay. -/
theorem other (filled : Filled before heap name target count) {value : Value} {place : Nat}
    {dtype : DType} {size : Nat} (row : Row before value place dtype size)
    (different : place ≠ name) : Row heap value place dtype size := by
  have same := filled.others place row.known different
  exact ⟨row.value, row.known.trans_le filled.next, same ▸ row.dtype, same ▸ row.size⟩

private theorem set_cells {storage changed : Storage} {index : Nat} {element : Literal}
    (done : storage.set index element = .ok changed) :
    changed.dtype = storage.dtype ∧ changed.size = storage.size ∧
      ∀ other, changed.cells[other]? =
        if other = index then some element else storage.cells[other]? := by
  unfold Storage.set at done
  split at done
  · split at done
    · rename_i within _
      cases done
      refine ⟨rfl, by simp only [Storage.size, Array.size_set], fun other => ?_⟩
      dsimp only
      rw [Array.getElem?_set]
      grind
    · cases done
  · cases done

theorem step (filled : Filled before heap name target count) (known : name < before.next)
    {storage : Storage} (set : (heap.storage name).set count (target count) = .ok storage) :
    Filled before (heap.replace name storage) name target (count + 1) := by
  obtain ⟨typed, sized, cells⟩ := set_cells set
  have here := Heap.storage_replace_self (known.trans_le filled.next) storage
  refine ⟨?_, ?_, ?_, ?_, ?_, ?_⟩
  · rw [Heap.next_replace]
    exact filled.next
  · intro other within different
    rw [Heap.storage_replace_of_ne different]
    exact filled.others other within different
  · rw [here, typed, filled.dtype]
  · rw [here, sized, filled.size]
  · intro index below within
    rw [here, cells]
    split
    · rename_i same
      rw [same]
    · exact filled.written index (by omega) within
  · intro index above
    rw [here, cells, if_neg (by omega)]
    exact filled.rest index (by omega)

end Filled

/-- A loop that writes one element of a row in every turn. -/
theorem fill_row {name size : Nat} {target : Nat → Literal} {body : List Scalar → Host ρ Unit}
    {state : HostState ρ} (known : name < state.heap.next)
    (turn : ∀ index < size, ∀ (scalar : Scalar) (middle : HostState ρ),
      Filled state.heap middle.heap name target index →
      Reads middle.heap scalar (.i64 (Int64.ofNat index)) →
      ∃ after, body [scalar] middle = .ok () after ∧
        Filled state.heap after.heap name target (index + 1)) :
    ∃ after, (Kernel.forEach (Layout.packed [size]) body : Host ρ Unit) state = .ok () after ∧
      Filled state.heap after.heap name target size := by
  obtain ⟨_, after, done, filled⟩ : Yields (Host.forRange 0 size 1 (fun scalar => body [scalar]))
      state fun _ after => Filled state.heap after.heap name target size := by
    refine @yields_forRange _ _ _ _ (fun index heap => Filled state.heap heap name target index)
      (fun _ _ _ filled growing => filled.grows known growing) ?_ (.start state.heap name target)
    intro index below scalar middle filled reads
    obtain ⟨after, done, filled'⟩ := turn index below scalar middle filled reads
    exact .of_done done filled'
  exact ⟨after, done, filled⟩

/-- The elements of a storage. -/
def Cells (heap : Heap) (name size : Nat) (element : Nat → Literal) : Prop :=
  ∀ index < size, (heap.storage name).cells[index]? = some (element index)

theorem Filled.cells {before heap : Heap} {name size : Nat} {target : Nat → Literal}
    (filled : Filled before heap name target size) (whole : (before.storage name).size = size) :
    Cells heap name size target :=
  fun index below => filled.written index below (by omega)

theorem Filled.kept {before heap : Heap} {name count place size : Nat}
    {target element : Nat → Literal} (filled : Filled before heap name target count)
    (cells : Cells before place size element) (known : place < before.next)
    (different : place ≠ name) : Cells heap place size element := by
  intro index below
  rw [filled.others place known different]
  exact cells index below

section Turns

variable {value source parameter : Value} {name place spot : Nat} {dtype : DType} {size : Nat}
  {old element target : Nat → Literal} {state : HostState ρ}

/-- The end of a turn: what was computed is put into the row. -/
private theorem finish_turn {before : Heap} {middle next : HostState ρ} {index : Nat}
    (row : Row before value name dtype size) (below : index < size)
    (filled : Filled before middle.heap name target index) (typed : (target index).dtype = dtype)
    (growing : middle.heap.Grows next.heap) {scalar : Scalar}
    (reads : Reads next.heap scalar (target index)) :
    ∃ after, ((item dtype name index).assign scalar : Host ρ Unit) next = .ok () after ∧
      Filled before after.heap name target (index + 1) := by
  have filled' := filled.grows row.known growing
  obtain ⟨storage, after, set, done, same⟩ := assign_item (filled'.row row) below reads typed
  exact ⟨after, done, same ▸ filled'.step row.known set⟩

theorem Row.layout {heap : Heap} (row : Row heap value name dtype size) :
    value.layout = .ok (Layout.packed [size]) := by
  rw [row.value]
  rfl

theorem Row.typed {heap : Heap} (row : Row heap value name dtype size)
    (cells : Cells heap name size element) {index : Nat} (below : index < size) :
    (element index).dtype = dtype :=
  ((heap.storage name).typed _ (Array.mem_of_getElem? (cells index below))).trans row.dtype

/-- A row that is still to be written reads as before. -/
private theorem reads_ahead {before heap : Heap} {index : Nat}
    (row : Row before value name dtype size) (filled : Filled before heap name target index)
    (cells : Cells before name size old) (below : index < size) :
    Reads heap (item dtype name index) (old index) :=
  reads_item (filled.row row) ((filled.rest index le_rfl).trans (cells index below))

private theorem reads_aside {before heap : Heap} {index : Nat}
    (row : Row before source place dtype size) (filled : Filled before heap name target index)
    (cells : Cells before place size element) (different : place ≠ name) (below : index < size) :
    Reads heap (item dtype place index) (element index) :=
  reads_item (filled.other row different)
    (filled.kept cells row.known different index below)

/-- One row combined with another one, in place. -/
theorem elementwise_rows {op : BinaryOp} (row : Row state.heap value name dtype size)
    (row' : Row state.heap source place dtype size) (different : place ≠ name)
    (cells : Cells state.heap name size old) (cells' : Cells state.heap place size element)
    (counts : size ≤ Nat.pow 2 63)
    (evaluated : ∀ index < size, (old index).binary op (element index) = .ok (target index))
    (typed : ∀ index < size, (target index).dtype = dtype) :
    ∃ after, (Kernel.elementwise value source op : Host ρ Unit) state = .ok () after ∧
      Filled state.heap after.heap name target size := by
  have compatible : Kernel.checkCompatible value source = .ok () := by
    unfold Kernel.checkCompatible
    rw [row.ready, row'.ready, row.value, row'.value]
    simp [Value.dtype, bind, Except.bind, pure, Except.pure]
  obtain ⟨after, done, filled⟩ : ∃ after, (Kernel.forEach (Layout.packed [size])
      (fun coordinates => do
        let old ← Kernel.element value coordinates
        let other ← Kernel.element source coordinates
        old.assign (← old.binary op other)) : Host ρ Unit) state = .ok () after ∧
      Filled state.heap after.heap name target size := by
    apply fill_row row.known
    intro index below scalar middle filled reads
    have counts' : index < Nat.pow 2 63 := by omega
    have first := element_row (filled.row row) reads below counts'
    have second := element_row (filled.other row' different) reads below counts'
    have same : (element index).dtype = (old index).dtype :=
      (row'.typed cells' below).trans (row.typed cells below).symm
    obtain ⟨answer, next, computed, growing, reads'⟩ :=
      gives_binary (reads_ahead row filled cells below)
        (reads_aside row' filled cells' different below) same (evaluated index below)
    obtain ⟨after, done, filled'⟩ :=
      finish_turn row below filled (typed index below) growing reads'
    exact ⟨after, bind_ok.mpr ⟨_, middle, first, bind_ok.mpr ⟨_, middle, second,
      bind_ok.mpr ⟨answer, next, computed, done⟩⟩⟩, filled'⟩
  refine ⟨after, bind_ok.mpr ⟨(), state, ofExcept_ok.mpr ⟨compatible, rfl⟩, ?_⟩, filled⟩
  exact bind_ok.mpr ⟨_, state, ofExcept_ok.mpr ⟨row.layout, rfl⟩, done⟩

/-- One row combined with the parameters of its elements. -/
theorem perChannel_rows {op : BinaryOp} {spot : Nat} (row : Row state.heap value name dtype size)
    (row' : Row state.heap source place dtype size)
    (row'' : Row state.heap parameter spot dtype size) (different : place ≠ name)
    (different' : spot ≠ name) (cells : Cells state.heap place size old)
    (cells' : Cells state.heap spot size element) (counts : size ≤ Nat.pow 2 63)
    (evaluated : ∀ index < size, (old index).binary op (element index) = .ok (target index))
    (typed : ∀ index < size, (target index).dtype = dtype) :
    ∃ after, (Kernel.perChannel op parameter source value : Host ρ Unit) state = .ok () after ∧
      Filled state.heap after.heap name target size := by
  obtain ⟨after, done, filled⟩ : ∃ after, (Kernel.forEach (Layout.packed [size])
      (fun coordinates => do
        let channel ← Kernel.channelOf coordinates
        let factor ← Kernel.element parameter [channel]
        let x ← Kernel.element source coordinates
        let y ← x.binary op factor
        (← Kernel.element value coordinates).assign y) : Host ρ Unit) state = .ok () after ∧
      Filled state.heap after.heap name target size := by
    apply fill_row row.known
    intro index below scalar middle filled reads
    have counts' : index < Nat.pow 2 63 := by omega
    have first := element_row (filled.other row'' different') reads below counts'
    have second := element_row (filled.other row' different) reads below counts'
    have same : (element index).dtype = (old index).dtype :=
      (row''.typed cells' below).trans (row'.typed cells below).symm
    obtain ⟨answer, next, computed, growing, reads'⟩ :=
      gives_binary (reads_aside row' filled cells different below)
        (reads_aside row'' filled cells' different' below) same (evaluated index below)
    have third := element_row ((filled.grows row.known growing).row row) (reads.mono growing)
      below counts'
    obtain ⟨after, done, filled'⟩ :=
      finish_turn row below filled (typed index below) growing reads'
    exact ⟨after, bind_ok.mpr ⟨scalar, middle, rfl, bind_ok.mpr ⟨_, middle, first,
      bind_ok.mpr ⟨_, middle, second, bind_ok.mpr ⟨answer, next, computed,
        bind_ok.mpr ⟨_, next, third, done⟩⟩⟩⟩⟩, filled'⟩
  exact ⟨after, bind_ok.mpr ⟨_, state, ofExcept_ok.mpr ⟨row.layout, rfl⟩, done⟩, filled⟩

/-- A function on the elements of a row, in place. -/
theorem apply_rows {function : ActivationFunction} (row : Row state.heap value name dtype size)
    (cells : Cells state.heap name size old) (counts : size ≤ Nat.pow 2 63)
    (maps : ∀ index < size, Maps (ρ := ρ) function.apply (old index) (target index))
    (typed : ∀ index < size, (target index).dtype = dtype) :
    ∃ after, (Kernel.forEach (Layout.packed [size]) (fun coordinates => do
        let sum ← Kernel.element value coordinates
        sum.assign (← function.apply sum)) : Host ρ Unit) state = .ok () after ∧
      Filled state.heap after.heap name target size := by
  apply fill_row row.known
  intro index below scalar middle filled reads
  have counts' : index < Nat.pow 2 63 := by omega
  have first := element_row (filled.row row) reads below counts'
  obtain ⟨answer, next, computed, growing, reads'⟩ :=
    maps index below _ middle (reads_ahead row filled cells below)
  obtain ⟨after, done, filled'⟩ := finish_turn row below filled (typed index below) growing reads'
  exact ⟨after, bind_ok.mpr ⟨_, middle, first, bind_ok.mpr ⟨answer, next, computed, done⟩⟩,
    filled'⟩

/-- A function on the elements of another row. -/
theorem activate_rows {function : ActivationFunction}
    (row : Row state.heap value name dtype size) (row' : Row state.heap source place dtype size)
    (different : place ≠ name) (cells : Cells state.heap place size old)
    (counts : size ≤ Nat.pow 2 63)
    (maps : ∀ index < size, Maps (ρ := ρ) function.apply (old index) (target index))
    (typed : ∀ index < size, (target index).dtype = dtype) :
    ∃ after, (Kernel.activate function source value : Host ρ Unit) state = .ok () after ∧
      Filled state.heap after.heap name target size := by
  obtain ⟨after, done, filled⟩ : ∃ after, (Kernel.forEach (Layout.packed [size])
      (fun coordinates => do
        let x ← Kernel.element source coordinates
        let y ← function.apply x
        (← Kernel.element value coordinates).assign y) : Host ρ Unit) state = .ok () after ∧
      Filled state.heap after.heap name target size := by
    apply fill_row row.known
    intro index below scalar middle filled reads
    have counts' : index < Nat.pow 2 63 := by omega
    have first := element_row (filled.other row' different) reads below counts'
    obtain ⟨answer, next, computed, growing, reads'⟩ :=
      maps index below _ middle (reads_aside row' filled cells different below)
    have second := element_row ((filled.grows row.known growing).row row) (reads.mono growing)
      below counts'
    obtain ⟨after, done, filled'⟩ :=
      finish_turn row below filled (typed index below) growing reads'
    exact ⟨after, bind_ok.mpr ⟨_, middle, first, bind_ok.mpr ⟨answer, next, computed,
      bind_ok.mpr ⟨_, next, second, done⟩⟩⟩, filled'⟩
  exact ⟨after, bind_ok.mpr ⟨_, state, ofExcept_ok.mpr ⟨row.layout, rfl⟩, done⟩, filled⟩

/-- The same element in every place of a row. -/
theorem fill_rows {scalar : Scalar} {content : Literal} (row : Row state.heap value name dtype size)
    (reads : Reads state.heap scalar content) (typed : content.dtype = dtype)
    (apart : ∀ index, scalar.value.place ≠ .host name index) (counts : size ≤ Nat.pow 2 63) :
    ∃ after, (Kernel.fill value scalar : Host ρ Unit) state = .ok () after ∧
      Filled state.heap after.heap name (fun _ => content) size := by
  obtain ⟨after, done, filled⟩ : ∃ after, (Kernel.forEach (Layout.packed [size])
      (fun coordinates => do (← Kernel.element value coordinates).assign scalar) : Host ρ Unit)
        state = .ok () after ∧ Filled state.heap after.heap name (fun _ => content) size := by
    apply fill_row row.known
    intro index below place middle filled counted
    have found := element_row (filled.row row) counted below (by omega)
    have still := reads.beside apart filled.next filled.others
    obtain ⟨after, done, filled'⟩ := finish_turn row below filled typed (.refl _) still
    exact ⟨after, bind_ok.mpr ⟨_, middle, found, done⟩, filled'⟩
  exact ⟨after, bind_ok.mpr ⟨_, state, ofExcept_ok.mpr ⟨row.ready, rfl⟩, done⟩, filled⟩

end Turns

/-! ### How many rows a product can have -/

private theorem checkBelow_refused {scalar : Scalar} {size : Nat} {state after : HostState ρ}
    (reads : Reads state.heap scalar (.i64 (Int64.ofNat (Nat.pow 2 63)))) :
    ¬ (scalar.checkBelow size : Host ρ Unit) state = .ok () after := by
  intro done
  obtain ⟨position, middle, known, -⟩ := bind_ok.mp done
  obtain ⟨literal, _, seen, found⟩ := bind_ok.mp known
  cases seen
  rw [reads.literal] at found
  obtain ⟨_, placed, -⟩ := map_ok.mp found
  obtain ⟨placed, -⟩ := ofExcept_ok.mp placed
  have negative : ¬ 0 ≤ (Literal.i64 (Int64.ofNat (Nat.pow 2 63))).toInt64.toInt := by
    decide +kernel
  unfold Scalar.position at placed
  dsimp only at placed
  rw [if_neg negative] at placed
  cases placed

theorem rows_of_multiply {matrix : Matrix} {left right : Vector} {state after : HostState ρ}
    (done : (matrix.multiply left right : Host ρ Unit) state = .ok () after) :
    matrix.rows ≤ Nat.pow 2 63 := by
  by_contra many
  unfold Matrix.multiply at done
  have stops : ∀ {α : Type} {cause : Error} {rest : PUnit → Host ρ α} {state after : HostState ρ}
      {result : α}, ¬ (Kernel.fail cause >>= rest) state = .ok result after := by
    intro α cause rest state after result done
    obtain ⟨_, _, absurd, -⟩ := bind_ok.mp done
    exact fail_ok absurd
  dsimp only at done
  split at done
  · exact stops done
  split at done
  · exact stops done
  split at done
  · exact stops done
  obtain ⟨scalar, middle, next, reads, turn⟩ := turn_of_forRange done (not_le.mp many)
  obtain ⟨_, _, row, -⟩ := bind_ok.mp turn
  obtain ⟨_, _, checked, -⟩ := bind_ok.mp row
  exact checkBelow_refused reads checked

end Host
end TensorGraph

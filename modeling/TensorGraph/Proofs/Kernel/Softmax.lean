/-
Normalized exponentials, element by element.

The greatest element is found first.  Then each exponential is written where it
belongs and added to the sum, and at last each of them is divided by the sum.  An
exponential is written behind the last read of the element that it is made of, so
the target may be the source itself.
-/

import TensorGraph.Kernel.Layer.Softmax
import TensorGraph.Proofs.Kernel.Units
import TensorGraph.Proofs.Kernel.Windows

namespace TensorGraph

/-! ### Normalized exponentials -/

namespace Literal

/-- The greatest of some elements, from negative infinity on. -/
def greatest (dtype : DType) (elements : List Literal) : Except Error Literal :=
  elements.foldlM (fun greatest element => greatest.binary .max element)
    (.ofFloat dtype Kernel.negativeInfinity)

/-- The exponential of what an element is above the greatest one. -/
def power (greatest element : Literal) : Except Error Literal := do
  (← element.binary .sub greatest).unary .exp

/-- The sum of some elements, from zero on and in order. -/
def total (dtype : DType) (elements : List Literal) : Except Error Literal :=
  elements.foldlM (fun total element => total.binary .add element) (.ofFloat dtype 0.0)

/-- `exp (element - greatest) / total` for each of some elements. -/
def softmax (dtype : DType) (elements : List Literal) : Except Error (List Literal) := do
  let greatest ← greatest dtype elements
  let powers ← elements.mapM (power greatest)
  let total ← total dtype powers
  powers.mapM fun power => power.binary .div total

/-- What a softmax goes through. -/
structure Normalizes (dtype : DType) (elements : List Literal) (greatest : Literal)
    (powers : List Literal) (total : Literal) (results : List Literal) : Prop where
  found : Literal.greatest dtype elements = .ok greatest
  found_typed : greatest.dtype = dtype
  raised : List.Forall₂ (fun element power => greatest.power element = .ok power) elements powers
  raised_typed : ∀ power ∈ powers, power.dtype = dtype
  summed : Literal.total dtype powers = .ok total
  summed_typed : total.dtype = dtype
  divided : List.Forall₂ (fun power result => power.binary .div total = .ok result) powers results
  divided_typed : ∀ result ∈ results, result.dtype = dtype

variable {dtype : DType} {elements powers results : List Literal} {greatest total : Literal}

theorem Normalizes.done (normalizes : Normalizes dtype elements greatest powers total results) :
    softmax dtype elements = .ok results :=
  bind_eq_ok.mpr ⟨_, normalizes.found, bind_eq_ok.mpr ⟨_, mapM_forall₂.mpr normalizes.raised,
    bind_eq_ok.mpr ⟨_, normalizes.summed, mapM_forall₂.mpr normalizes.divided⟩⟩⟩

theorem Normalizes.power_at (normalizes : Normalizes dtype elements greatest powers total results)
    {element : Literal} {index : Nat} (found : elements[index]? = some element) :
    ∃ power, greatest.power element = .ok power ∧ powers[index]? = some power ∧
      power.dtype = dtype := by
  obtain ⟨within, rfl⟩ := List.getElem?_eq_some_iff.mp found
  have within' := normalizes.raised.length_eq ▸ within
  exact ⟨_, normalizes.raised.get within within', List.getElem?_eq_getElem within',
    normalizes.raised_typed _ (List.getElem_mem _)⟩

theorem Normalizes.result_at (normalizes : Normalizes dtype elements greatest powers total results)
    {power : Literal} {index : Nat} (found : powers[index]? = some power) :
    ∃ result, power.binary .div total = .ok result ∧ results[index]? = some result ∧
      result.dtype = dtype := by
  obtain ⟨within, rfl⟩ := List.getElem?_eq_some_iff.mp found
  have within' := normalizes.divided.length_eq ▸ within
  exact ⟨_, normalizes.divided.get within within', List.getElem?_eq_getElem within',
    normalizes.divided_typed _ (List.getElem_mem _)⟩

/-- A step that goes well on elements of a type is taken on all of them. -/
private theorem exists_images {step : Literal → Except Error Literal}
    (each : ∀ element : Literal, element.dtype = dtype →
      ∃ result, step element = .ok result ∧ result.dtype = dtype)
    (typed : ∀ element ∈ elements, element.dtype = dtype) :
    ∃ results, List.Forall₂ (fun element result => step element = .ok result) elements results ∧
      ∀ result ∈ results, result.dtype = dtype := by
  have some : Nonempty Literal := ⟨.zero .bool⟩
  choose! image done kind using each
  refine ⟨elements.map image, List.forall₂_map_right_iff.mpr
    (List.forall₂_same.mpr fun element member => done element (typed element member)), ?_⟩
  intro result member
  obtain ⟨element, inside, rfl⟩ := List.mem_map.mp member
  exact kind element (typed element inside)

private theorem exists_fold {op : BinaryOp} (float : dtype.isFloat = true) (number : Float)
    (typed : ∀ element ∈ elements, element.dtype = dtype) :
    ∃ result : Literal, elements.foldlM (fun (old element : Literal) => old.binary op element)
      (.ofFloat dtype number) = .ok result ∧ result.dtype = dtype := by
  refine exists_foldlM (fun element member old kind => ?_) _ (dtype_ofFloat _ _)
  obtain ⟨new, done, same⟩ := float_binary op (kind ▸ float)
    ((typed element member).trans kind.symm)
  exact ⟨new, done, same.trans kind⟩

/-- Floating point numbers have a softmax. -/
theorem exists_normalizes (float : dtype.isFloat = true)
    (typed : ∀ element ∈ elements, element.dtype = dtype) :
    ∃ greatest powers total results,
      Normalizes dtype elements greatest powers total results := by
  obtain ⟨greatest, found, greatest_typed⟩ :
      ∃ greatest, Literal.greatest dtype elements = .ok greatest ∧ greatest.dtype = dtype :=
    exists_fold float _ typed
  obtain ⟨powers, raised, powers_typed⟩ : ∃ powers, List.Forall₂
      (fun element power => greatest.power element = .ok power) elements powers ∧
        ∀ power ∈ powers, power.dtype = dtype := by
    refine exists_images (fun element kind => ?_) typed
    obtain ⟨difference, subtracted, kind₁⟩ := float_binary .sub (kind ▸ float)
      (greatest_typed.trans kind.symm)
    have same := kind₁.trans kind
    obtain ⟨power, raised, kind₂⟩ := float_unary .exp nofun (same ▸ float)
    exact ⟨power, bind_eq_ok.mpr ⟨_, subtracted, raised⟩, kind₂.trans same⟩
  obtain ⟨total, summed, total_typed⟩ :
      ∃ total, Literal.total dtype powers = .ok total ∧ total.dtype = dtype :=
    exists_fold float _ powers_typed
  obtain ⟨results, divided, results_typed⟩ : ∃ results, List.Forall₂
      (fun power result => power.binary .div total = .ok result) powers results ∧
        ∀ result ∈ results, result.dtype = dtype := by
    refine exists_images (fun power kind => ?_) powers_typed
    obtain ⟨result, divided, same⟩ := float_binary .div (kind ▸ float)
      (total_typed.trans kind.symm)
    exact ⟨result, divided, same.trans kind⟩
  exact ⟨greatest, powers, total, results, found, greatest_typed, raised, powers_typed, summed,
    total_typed, divided, results_typed⟩

/-- A fold over one element more. -/
theorem foldlM_take_succ {take : Literal → Literal → Except Error Literal}
    {start old new element : Literal} {index : Nat} (found : elements[index]? = some element)
    (before : (elements.take index).foldlM take start = .ok old)
    (step : take old element = .ok new) :
    (elements.take (index + 1)).foldlM take start = .ok new := by
  rw [List.take_add_one, found, List.foldlM_append, before]
  change [element].foldlM take old = .ok new
  rw [List.foldlM_cons, step]
  rfl

end Literal

/-! ### Elements of vectors -/

namespace Vector

/-- The elements of a vector, in order. -/
def Lists (vector : Vector) (heap : Heap) (elements : List Literal) : Prop :=
  elements.length = vector.size ∧ ∀ index element, elements[index]? = some element →
    vector.value.get [index] heap = .ok element

/-- The element of a list at the coordinate of a vector. -/
def Listed (elements : List Literal) (coordinates : List Nat) (element : Literal) : Prop :=
  ∃ index, coordinates = [index] ∧ elements[index]? = some element

/-- The first coordinates of a vector. -/
def firsts (count : Nat) : Set (List Nat) :=
  {coordinates | ∃ index < count, coordinates = [index]}

variable {vector : Vector} {heap after : Heap} {name base : Nat} {elements : List Literal}
  {makes : List Nat → Literal → Prop}

theorem firsts_zero : firsts 0 = ∅ := by
  simp [firsts]

theorem fresh_firsts (index : Nat) : [index] ∉ firsts index := by
  rintro ⟨other, before, ⟨⟩⟩
  exact Nat.lt_irrefl _ before

theorem Lists.of_rewritten (stands : vector.value.Stands heap name base)
    (rewritten : vector.value.Rewritten (Listed elements) Set.univ heap after)
    (counted : elements.length = vector.size) : vector.Lists after elements := by
  refine ⟨counted, fun index element found => ?_⟩
  obtain ⟨layout, shaped, -⟩ := Host.layout_vector vector
  have below : index < vector.size := counted ▸ (List.getElem?_eq_some_iff.mp found).1
  have lies := (stands.lies_iff shaped).mpr ⟨Host.vector_inside shaped below, rfl, rfl⟩
  obtain ⟨_, ⟨_, ⟨⟩, found'⟩, read⟩ := rewritten.each _ (Set.mem_univ _) _ _ lies
  cases found.symm.trans found'
  exact (lies.get after).trans read

/-- All elements of a vector are replaced as soon as as many are as it has. -/
theorem whole_firsts {count : Nat} (rewritten : vector.value.Rewritten makes (firsts count) heap after)
    (enough : vector.size ≤ count) : vector.value.Rewritten makes Set.univ heap after := by
  refine rewritten.whole fun coordinates name index lies => ?_
  obtain ⟨position, below, rfl⟩ := Host.vector_coordinates lies
  exact ⟨position, below.trans_le enough, rfl⟩

/-- What a vector shows are the elements that its value has in order. -/
theorem lists_iff (stands : vector.value.Stands heap name base) :
    vector.Lists heap elements ↔ vector.value.literals heap = .ok elements := by
  obtain ⟨layout, shaped, -, sizes⟩ := Host.layout_vector vector
  have get {index : Nat} (below : index < vector.size) :
      vector.value.get [index] heap = heap.cell name (base + layout.place [index]) :=
    ((stands.lies_iff shaped).mpr ⟨Host.vector_inside shaped below, rfl, rfl⟩).get heap
  simp only [Value.literals, stands.ready_iff.mpr shaped, stands.host, bind, Except.bind]
  rw [mapM_forall₂, Layout.positions_eq, sizes, Layout.rowMajor_single, List.map_map,
    List.forall₂_map_left_iff, List.forall₂_iff_get]
  constructor
  · rintro ⟨counted, shows⟩
    refine ⟨List.length_range.trans counted.symm, fun index below below' => ?_⟩
    have read := shows index _ (List.getElem?_eq_getElem below')
    rw [get (counted ▸ below')] at read
    simpa using read
  · rintro ⟨counted, read⟩
    refine ⟨counted.symm.trans List.length_range, fun index element found => ?_⟩
    obtain ⟨below, rfl⟩ := List.getElem?_eq_some_iff.mp found
    have within := below.trans_eq counted.symm
    rw [get (within.trans_eq List.length_range)]
    simpa using read index within below

end Vector

namespace Host

variable {ρ : Type} {state : HostState ρ} {before middle : Heap} {vector x y : Vector}
  {scalar new : Scalar} {name base name' base' index : Nat} {layout : Layout}
  {element greatest total : Literal} {elements powers results : List Literal}

theorem entry_done (stands : vector.value.Stands state.heap name base)
    (shaped : vector.value.layout? = some layout) (named : scalar.At state.heap index)
    (below : index < vector.size) :
    (vector.element scalar : Host ρ Scalar) state =
      .ok (item vector.dtype name (base + layout.place [index])) state :=
  (bind_of_ok (checkBelow_done named below)).trans
    (element_found stands shaped vector.typed (.cons named .nil) (vector_inside shaped below))

/-- One more element of a vector is replaced. -/
theorem entry_rewritten (rewritten : vector.value.Rewritten (Vector.Listed elements)
      (Vector.firsts index) before state.heap) (stands : vector.value.Stands before name base)
    (shaped : vector.value.layout? = some layout) (below : index < vector.size)
    (found : elements[index]? = some element) (reads : Reads state.heap new element)
    (typed : element.dtype = vector.dtype) :
    Yields ((item vector.dtype name (base + layout.place [index])).assign new : Host ρ Unit) state
      fun _ after =>
        vector.value.Rewritten (Vector.Listed elements) (Vector.firsts (index + 1)) before
          after.heap ∧ state.heap.Spares name after.heap := by
  have more : insert [index] (Vector.firsts index) = Vector.firsts (index + 1) := insert_row index
  rw [← more]
  exact element_rewritten rewritten stands shaped vector.typed (vector_inside shaped below)
    ⟨index, rfl, found⟩ reads typed

/-! ### The three passes -/

/-- The greatest element and the sum, in storages that are new. -/
structure Pair (before heap : Heap) (dtype : DType) (greatest total : Literal) : Prop where
  greatest : Reads heap (item dtype before.next 0) greatest
  total : Reads heap (item dtype (before.next + 1) 0) total

namespace Pair

variable {heap later : Heap} {dtype : DType}

theorem grows (pair : Pair before heap dtype greatest total) (growing : heap.Grows later) :
    Pair before later dtype greatest total :=
  ⟨pair.greatest.mono growing, pair.total.mono growing⟩

/-- Both are beside a storage that was there before. -/
theorem spared (pair : Pair before heap dtype greatest total) (spares : heap.Spares name later)
    (known : name < before.next) : Pair before later dtype greatest total := by
  refine ⟨pair.greatest.spared spares ?_, pair.total.spared spares ?_⟩
  · rintro _ ⟨⟩
    exact Nat.lt_irrefl _ known
  · rintro _ ⟨⟩
    omega

theorem raise {old : Literal} (pair : Pair before state.heap dtype old total)
    (reads : Reads state.heap new greatest) (typed : greatest.dtype = dtype) :
    Yields ((item dtype before.next 0).assign new : Host ρ Unit) state fun _ after =>
      Pair before after.heap dtype greatest total ∧
        state.heap.Spares before.next after.heap := by
  refine (cell_written pair.greatest reads typed).mono fun _ after both =>
    ⟨⟨both.1, pair.total.spared both.2 fun index same => ?_⟩, both.2⟩
  injection same with same
  omega

theorem add {old : Literal} (pair : Pair before state.heap dtype greatest old)
    (reads : Reads state.heap new total) (typed : total.dtype = dtype) :
    Yields ((item dtype (before.next + 1) 0).assign new : Host ρ Unit) state fun _ after =>
      Pair before after.heap dtype greatest total ∧
        state.heap.Spares (before.next + 1) after.heap := by
  refine (cell_written pair.total reads typed).mono fun _ after both =>
    ⟨⟨pair.greatest.spared both.2 fun index same => ?_, both.1⟩, both.2⟩
  injection same with same
  omega

end Pair

/-- A source of floating point numbers and a target, as a softmax needs them. -/
structure Softens (before : Heap) (x y : Vector) (name base name' base' : Nat)
    (elements : List Literal) : Prop where
  stands : x.value.Stands before name base
  stands' : y.value.Stands before name' base'
  sized : y.size = x.size
  typed : y.dtype = x.dtype
  float : x.dtype.isFloat = true
  counts : x.size ≤ Nat.pow 2 63
  separate : y.value.Separate x.value
  lists : x.Lists before elements

namespace Softens

variable {makes : List Nat → Literal → Prop} {visited : Set (List Nat)}

theorem read (softens : Softens before x y name base name' base' elements)
    (below : index < x.size) :
    ∃ element, elements[index]? = some element ∧ x.value.get [index] before = .ok element ∧
      element.dtype = x.dtype := by
  have within := below.trans_eq softens.lists.1.symm
  have read := softens.lists.2 index _ (List.getElem?_eq_getElem within)
  have kind := softens.stands.dtype_of_get read
  exact ⟨_, List.getElem?_eq_getElem within, read,
    (Option.some.inj (x.typed.symm.trans kind)).symm⟩

theorem kinds (softens : Softens before x y name base name' base' elements) :
    ∀ element ∈ elements, element.dtype = x.dtype := by
  intro element member
  obtain ⟨index, within, rfl⟩ := List.getElem_of_mem member
  obtain ⟨_, found, -, kind⟩ := softens.read (within.trans_eq softens.lists.1)
  cases (List.getElem?_eq_getElem within).symm.trans found
  exact kind

/-- The greatest element is found. -/
theorem raised_yields (softens : Softens before x y name base name' base' elements)
    (found : Literal.greatest x.dtype elements = .ok greatest)
    (rewritten : y.value.Rewritten makes ∅ before state.heap)
    (pair : Pair before state.heap x.dtype (.ofFloat x.dtype Kernel.negativeInfinity) total) :
    Yields (Host.forRange 0 x.size 1 (Kernel.raise x (item x.dtype before.next 0)) : Host ρ Unit)
      state fun _ after => y.value.Rewritten makes ∅ before after.heap ∧
        Pair before after.heap x.dtype greatest total := by
  obtain ⟨layout, shaped, -⟩ := layout_vector x
  let raised (index : Nat) (heap : Heap) : Prop :=
    y.value.Rewritten makes ∅ before heap ∧ ∃ old : Literal, old.dtype = x.dtype ∧
      (elements.take index).foldlM (fun (greatest element : Literal) =>
        greatest.binary .max element) (.ofFloat x.dtype Kernel.negativeInfinity) = .ok old ∧
          Pair before heap x.dtype old total
  refine (@yields_forRange _ _ _ _ raised ?_ ?_ ⟨rewritten, _, Literal.dtype_ofFloat _ _, rfl,
    pair⟩).mono fun _ after held => ⟨held.1, ?_⟩
  · rintro index heap later ⟨rewritten, old, typed, folded, pair⟩ growing
    exact ⟨rewritten.grows softens.stands' growing, old, typed, folded, pair.grows growing⟩
  · rintro index below scalar middle ⟨rewritten, old, typed, folded, pair⟩ reads
    have named := Scalar.at_of_reads reads (below.trans_le softens.counts)
    obtain ⟨element, here, read, kind⟩ := softens.read below
    have entry := entry_done (softens.stands.keeps rewritten.keeps) shaped named below
    have entry_reads := element_before rewritten softens.stands softens.stands' softens.separate
      shaped x.typed (vector_inside shaped below) (Set.notMem_empty _) read
    obtain ⟨new, greater, same⟩ := Literal.float_binary .max (typed.symm ▸ softens.float)
      (kind.trans typed.symm)
    obtain ⟨answer, next, done, growing, answer_reads⟩ :=
      gives_binary pair.greatest entry_reads (kind.trans typed.symm) greater
    refine .behind entry (.behind done (((pair.grows growing).raise answer_reads
      (same.trans typed)).mono fun _ after both => ⟨?_, new, same.trans typed,
        Literal.foldlM_take_succ here folded greater, both.1⟩))
    exact (rewritten.grows softens.stands' growing).spares softens.stands' both.2 le_rfl
  · obtain ⟨old, -, folded, pair⟩ := held.2
    rw [← softens.lists.1, List.take_length] at folded
    cases folded.symm.trans found
    exact pair

/-- The exponentials are written and summed up. -/
theorem exponentiated_yields {results : List Literal}
    (softens : Softens before x y name base name' base' elements)
    (normalizes : Literal.Normalizes x.dtype elements greatest powers total results)
    (rewritten : y.value.Rewritten (Vector.Listed powers) ∅ before state.heap)
    (pair : Pair before state.heap x.dtype greatest (.ofFloat x.dtype 0.0)) :
    Yields (Host.forRange 0 x.size 1 (Kernel.exponentiate x y (item x.dtype before.next 0)
      (item x.dtype (before.next + 1) 0)) : Host ρ Unit) state fun _ after =>
        y.value.Rewritten (Vector.Listed powers) (Vector.firsts x.size) before after.heap ∧
          Pair before after.heap x.dtype greatest total := by
  obtain ⟨layout, shaped, -⟩ := layout_vector x
  obtain ⟨layout', shaped', -⟩ := layout_vector y
  let summed (index : Nat) (heap : Heap) : Prop :=
    y.value.Rewritten (Vector.Listed powers) (Vector.firsts index) before heap ∧
      ∃ old : Literal, old.dtype = x.dtype ∧ (powers.take index).foldlM
        (fun (total power : Literal) => total.binary .add power) (.ofFloat x.dtype 0.0) =
          .ok old ∧ Pair before heap x.dtype greatest old
  refine (@yields_forRange _ _ _ _ summed ?_ ?_ ⟨Vector.firsts_zero ▸ rewritten, _,
    Literal.dtype_ofFloat _ _, rfl, pair⟩).mono fun _ after held => ⟨held.1, ?_⟩
  · rintro index heap later ⟨rewritten, old, typed, folded, pair⟩ growing
    exact ⟨rewritten.grows softens.stands' growing, old, typed, folded, pair.grows growing⟩
  · rintro index below scalar middle ⟨rewritten, old, typed, folded, pair⟩ reads
    have named := Scalar.at_of_reads reads (below.trans_le softens.counts)
    obtain ⟨element, here, read, kind⟩ := softens.read below
    have entry := entry_done (softens.stands.keeps rewritten.keeps) shaped named below
    have entry_reads := element_before rewritten softens.stands softens.stands' softens.separate
      shaped x.typed (vector_inside shaped below) (Vector.fresh_firsts index) read
    obtain ⟨power, raised, here', kind'⟩ := normalizes.power_at here
    obtain ⟨difference, subtracted, raised⟩ := bind_eq_ok.mp raised
    obtain ⟨_, one, done₁, growing₁, reads₁⟩ := gives_binary entry_reads pair.greatest
      (normalizes.found_typed.trans kind.symm) subtracted
    let two := onto (counted one 1) (one.heap.add (Storage.singleton power))
    have done₂ := unary_done reads₁ raised
    have growing : middle.heap.Grows two.heap := growing₁.trans (.add _ _)
    have reads₂ : Reads two.heap (alone power one.heap.next) power := reads_alone power one.heap
    have rewritten₂ := rewritten.grows softens.stands' growing
    have below' := below.trans_eq softens.sized.symm
    have spot := entry_done (softens.stands'.keeps rewritten₂.keeps) shaped'
      (named.grows growing) below'
    -- the element was read for the last time, so it may be overwritten
    refine .behind entry (.behind done₁ (.behind done₂ (.behind spot
      ((entry_rewritten rewritten₂ softens.stands' shaped' below' here' reads₂
        (kind'.trans softens.typed.symm)).bind fun _ three both => ?_))))
    have pair₃ := (pair.grows growing).spared both.2 softens.stands'.known
    have reads₃ := reads₂.spared both.2 fun index same => by
      injection same with same
      have known := softens.stands'.known.trans_le (rewritten.keeps.next.trans growing₁.next)
      omega
    obtain ⟨sum, added, same⟩ := Literal.float_binary .add (typed.symm ▸ softens.float)
      (kind'.trans typed.symm)
    obtain ⟨_, four, done₄, growing₄, reads₄⟩ :=
      gives_binary pair₃.total reads₃ (kind'.trans typed.symm) added
    refine .behind done₄ (((pair₃.grows growing₄).add reads₄ (same.trans typed)).mono
      fun _ after both' => ⟨?_, sum, same.trans typed,
        Literal.foldlM_take_succ here' folded added, both'.1⟩)
    exact (both.1.grows softens.stands' growing₄).spares softens.stands' both'.2
      (Nat.le_succ _)
  · obtain ⟨old, -, folded, pair⟩ := held.2
    rw [← softens.lists.1, normalizes.raised.length_eq, List.take_length] at folded
    cases folded.symm.trans normalizes.summed
    exact pair

/-- The exponentials are divided by their sum. -/
theorem divided_yields (softens : Softens before x y name base name' base' elements)
    (normalizes : Literal.Normalizes x.dtype elements greatest powers total results)
    (lists : y.Lists state.heap powers)
    (stands : y.value.Stands state.heap name' base')
    (pair : Pair before state.heap x.dtype greatest total) :
    Yields (Host.forRange 0 y.size 1 (fun index => do
      let power ← y.element index
      power.assign (← power.binary .div (item x.dtype (before.next + 1) 0))) : Host ρ Unit)
        state fun _ after => y.value.Rewritten (Vector.Listed results) (Vector.firsts y.size)
          state.heap after.heap := by
  obtain ⟨layout, shaped, -⟩ := layout_vector y
  let divided (index : Nat) (heap : Heap) : Prop :=
    y.value.Rewritten (Vector.Listed results) (Vector.firsts index) state.heap heap ∧
      Pair before heap x.dtype greatest total
  refine (@yields_forRange _ _ _ _ divided ?_ ?_ ⟨Vector.firsts_zero ▸ .start _, pair⟩).mono
    fun _ after held => held.1
  · exact fun index heap later held growing =>
      ⟨held.1.grows stands growing, held.2.grows growing⟩
  · rintro index below scalar middle ⟨rewritten, pair⟩ reads
    have counted := below.trans_eq softens.sized
    have named := Scalar.at_of_reads reads (counted.trans_le softens.counts)
    have within := below.trans_eq lists.1.symm
    have here := List.getElem?_eq_getElem within
    have entry := entry_done (stands.keeps rewritten.keeps) shaped named below
    have entry_reads := element_before rewritten stands stands (.inr ⟨rfl, rfl⟩) shaped y.typed
      (vector_inside shaped below) (Vector.fresh_firsts index) (lists.2 index _ here)
    obtain ⟨result, quotient, here', kind⟩ := normalizes.result_at here
    have kind' := normalizes.raised_typed _ (List.getElem_mem within)
    obtain ⟨answer, next, done, growing, reads'⟩ := gives_binary entry_reads pair.total
      (normalizes.summed_typed.trans kind'.symm) quotient
    refine .behind entry (.behind done ((entry_rewritten
      (rewritten.grows stands growing) stands shaped below here' reads'
      (kind.trans softens.typed.symm)).mono
        fun _ after both => ⟨both.1, (pair.grows growing).spared both.2 softens.stands'.known⟩))

end Softens

/-- A softmax puts the normalized exponentials of its source into its target, which may be the
source itself. -/
theorem softmax_yields (softens : Softens state.heap x y name base name' base' elements)
    (done : Literal.softmax x.dtype elements = .ok results) :
    Yields (Kernel.softmax x y : Host ρ Unit) state fun _ after =>
      y.value.Rewritten (Vector.Listed results) Set.univ state.heap after.heap := by
  obtain ⟨greatest, powers, total, results', normalizes⟩ :=
    Literal.exists_normalizes softens.float softens.kinds
  cases done.symm.trans normalizes.done
  let entered := onto state ((state.heap.add (Storage.zeros x.dtype 1)).add
    (Storage.zeros x.dtype 1))
  have next : (state.heap.add (Storage.zeros x.dtype 1)).next = state.heap.next + 1 :=
    Heap.next_add _ _
  have blank : Pair state.heap entered.heap x.dtype (.zero x.dtype) (.zero x.dtype) := by
    refine ⟨(reads_zero x.dtype state.heap).mono (.add _ _), ?_⟩
    rw [← next]
    exact reads_zero x.dtype _
  have begun : y.value.Rewritten (Vector.Listed powers) ∅ state.heap entered.heap :=
    (Value.Rewritten.start state.heap).grows softens.stands' ((Heap.Grows.add _ _).trans (.add _ _))
  obtain ⟨least, one, done₁, growing₁, reads₁⟩ :=
    @gives_like ρ entered _ _ blank.greatest Kernel.negativeInfinity
  rw [Literal.dtype_zero] at reads₁
  have second : (Kernel.cell x.dtype : Host ρ Scalar)
      (onto state (state.heap.add (Storage.zeros x.dtype 1))) =
        .ok (item x.dtype (state.heap.next + 1) 0) entered := by
    rw [← next]
    rfl
  refine .behind (cell_done x.dtype state) (.behind second (.behind done₁
    (((blank.grows growing₁).raise reads₁ (Literal.dtype_ofFloat _ _)).bind
      fun _ two ⟨pair₂, spares₂⟩ => ?_)))
  have begun₂ := (begun.grows softens.stands' growing₁).spares softens.stands' spares₂ le_rfl
  obtain ⟨none, three, done₃, growing₃, reads₃⟩ := @gives_like ρ two _ _ pair₂.total 0.0
  rw [Literal.dtype_zero] at reads₃
  refine .behind done₃ (((pair₂.grows growing₃).add reads₃ (Literal.dtype_ofFloat _ _)).bind
    fun _ four ⟨pair₄, spares₄⟩ => ?_)
  have begun₄ := (begun₂.grows softens.stands' growing₃).spares softens.stands' spares₄
    (Nat.le_succ _)
  refine (softens.raised_yields normalizes.found begun₄ pair₄).bind fun _ five ⟨begun₅, pair₅⟩ => ?_
  refine (softens.exponentiated_yields normalizes begun₅ pair₅).bind
    fun _ six ⟨raised, pair₆⟩ => ?_
  have whole := Vector.whole_firsts raised softens.sized.le
  have counted : powers.length = y.size :=
    normalizes.raised.length_eq.symm.trans (softens.lists.1.trans softens.sized.symm)
  refine (softens.divided_yields normalizes (.of_rewritten softens.stands' whole counted)
    (softens.stands'.keeps whole.keeps) pair₆).mono fun _ after divided => ?_
  exact whole.again (Vector.whole_firsts divided le_rfl)

/-- What a softmax leaves in its target depends on the elements of its source alone, whether the
target is the source itself or has no cell of it. -/
theorem softmax_lists (softens : Softens state.heap x y name base name' base' elements) :
    ∃ results after, Literal.softmax x.dtype elements = .ok results ∧
      (Kernel.softmax x y : Host ρ Unit) state = .ok () after ∧ y.Lists after.heap results := by
  obtain ⟨_, powers, _, results, normalizes⟩ :=
    Literal.exists_normalizes softens.float softens.kinds
  obtain ⟨_, after, done, rewritten⟩ := softmax_yields softens normalizes.done
  have counted : results.length = y.size :=
    normalizes.divided.length_eq.symm.trans (normalizes.raised.length_eq.symm.trans
      (softens.lists.1.trans softens.sized.symm))
  exact ⟨results, after, normalizes.done, done, .of_rewritten softens.stands' rewritten counted⟩

end Host
end TensorGraph

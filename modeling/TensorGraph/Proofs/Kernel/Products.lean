/-
Products of rows.

A dot product adds the products of two rows up in a storage of its own, one after
the other, so it is the fold of the two rows from zero on, however they lie in
memory.  A product of a matrix and a vector writes one such sum for each row into
a target that shares no cell with what is read.
-/

import TensorGraph.Proofs.Kernel.Aliasing
import TensorGraph.Proofs.Kernel.Pointwise
import TensorGraph.Proofs.Literal.Sums

namespace TensorGraph

/-- The sizes and the types of a matrix, a vector that it is multiplied with and a target for the
product are those of a product. -/
structure Matrix.Conforms (matrix : Matrix) (source target : Vector) : Prop where
  sized : source.size = matrix.columns
  sized' : target.size = matrix.rows
  typed : source.dtype = matrix.dtype
  typed' : target.dtype = matrix.dtype

namespace Host

variable {ρ : Type} {state : HostState ρ} {value : Value} {heap : Heap} {name base index : Nat}
  {layout : Layout} {coordinates : List Nat} {element : Literal} {scalar : Scalar}

/-! ### Dot products -/

section Dot

variable {left right : Vector} {name' base' position : Nat} {pairs : List (Literal × Literal)}
  {sum : Literal} {after : HostState ρ}

/-- An element of a vector at a known index. -/
theorem vector_item_reads {vector : Vector} (stands : vector.value.Stands state.heap name base)
    (named : scalar.At state.heap position) (below : position < vector.size)
    (read : vector.value.get [position] state.heap = .ok element) :
    ∃ answer, (Kernel.element vector.value [scalar] : Host ρ Scalar) state = .ok answer state ∧
      Reads state.heap answer element := by
  obtain ⟨layout, shaped, -, sizes⟩ := layout_vector vector
  refine element_reads stands shaped (.cons named .nil) ?_ read
  unfold Layout.Inside
  rw [sizes]
  exact .cons below .nil

/-- The accumulator of a sum, while what was there before the sum began is as it was. -/
structure Sums (heap later : Heap) (total : Scalar) (sum : Literal) : Prop where
  growing : heap.Grows later
  reads : Reads later total sum

theorem Sums.grows {later last : Heap} {total : Scalar} (sums : Sums heap later total sum)
    (growing : later.Grows last) : Sums heap last total sum :=
  ⟨sums.growing.trans growing, sums.reads.mono growing⟩

/-- A number in a storage of its own is overwritten. -/
theorem cell_written {dtype : DType} {old new : Literal}
    (reads : Reads state.heap (item dtype name 0) old) (reads' : Reads state.heap scalar new)
    (typed : new.dtype = dtype) :
    Yields ((item dtype name 0).assign scalar : Host ρ Unit) state fun _ after =>
      Reads after.heap (item dtype name 0) new ∧ state.heap.Spares name after.heap := by
  obtain ⟨name, index, place, known, held⟩ := reads.place
  cases place
  have type : dtype = (state.heap.storage name).dtype :=
    reads.dtype.trans ((state.heap.storage name).typed old (Array.mem_of_getElem? held))
  subst type
  refine (assign_written known (Array.getElem?_eq_some_iff.mp held).1 reads' typed).mono
    fun _ after written => ⟨?_, .of_written written⟩
  rw [← written.keeps.dtype _ known]
  exact reads_cell (known.trans_le written.keeps.next) (written.written (0, new) List.mem_cons_self)

/-- A new storage is written, and none that was there before. -/
theorem Sums.take {total : Scalar} {old new : Literal} (sums : Sums heap state.heap total old)
    (placed : total = item old.dtype heap.next 0) (reads : Reads state.heap scalar new)
    (typed : new.dtype = old.dtype) :
    Yields (total.assign scalar : Host ρ Unit) state fun _ after =>
      Sums heap after.heap total new ∧ state.heap.Spares heap.next after.heap := by
  subst placed
  exact (cell_written sums.reads reads typed).mono fun _ after both =>
    ⟨⟨both.2.grown sums.growing le_rfl, both.1⟩, both.2⟩

theorem Sums.assign {total : Scalar} {old new : Literal} (sums : Sums heap state.heap total old)
    (placed : total = item old.dtype heap.next 0) (reads : Reads state.heap scalar new)
    (typed : new.dtype = old.dtype) :
    Yields (total.assign scalar : Host ρ Unit) state fun _ after =>
      Sums heap after.heap total new :=
  (sums.take placed reads typed).mono fun _ _ both => both.1

/-- The factors of two vectors of one type are of that type. -/
theorem vector_factors_typed (stands : left.value.Stands heap name base)
    (stands' : right.value.Stands heap name' base') (typed : right.dtype = left.dtype)
    (factors : Literal.Factors (fun index => left.value.get [index] heap)
      (fun index => right.value.get [index] heap) left.size pairs) :
    ∀ pair ∈ pairs, pair.1.dtype = left.dtype ∧ pair.2.dtype = left.dtype := by
  refine factors.forall_mem fun index pair one two => ?_
  have first := left.typed.symm.trans (stands.dtype_of_get one)
  have second := right.typed.symm.trans (stands'.dtype_of_get two)
  exact ⟨(Option.some.inj first).symm, (Option.some.inj second).symm.trans typed⟩

/-- The sum of the products is found in a storage of its own. -/
theorem dot_yields (stands : left.value.Stands state.heap name base)
    (stands' : right.value.Stands state.heap name' base') (sized : right.size = left.size)
    (typed : right.dtype = left.dtype) (numeric : left.dtype ≠ .bool)
    (counts : left.size ≤ Nat.pow 2 63)
    (factors : Literal.Factors (fun index => left.value.get [index] state.heap)
      (fun index => right.value.get [index] state.heap) left.size pairs)
    (done : Literal.sumOfProducts left.dtype pairs = .ok sum) :
    Yields (left.dot right : Host ρ Scalar) state fun total after =>
      Sums state.heap after.heap total sum := by
  obtain ⟨layout, shaped, -, sizes⟩ := layout_vector left
  obtain ⟨shape, shaped', -, sizes'⟩ := layout_vector right
  have compatible : Kernel.checkCompatible left.value right.value = .ok () :=
    checkCompatible_done (stands.ready_iff.mpr shaped) (stands'.ready_iff.mpr shaped')
      (by rw [sizes, sizes', sized]) (Value.dtype_ok.mpr left.typed)
      (Value.dtype_ok.mpr (right.typed.trans (congrArg some typed)))
  have alike := vector_factors_typed stands stands' typed factors
  let total := item left.dtype state.heap.next 0
  let summed (index : Nat) (heap : Heap) : Prop := ∃ sum,
    Literal.sumOfProducts left.dtype (pairs.take index) = .ok sum ∧ sum.dtype = left.dtype ∧
      Sums state.heap heap total sum
  refine .behind (ofExcept_ok.mpr ⟨compatible, rfl⟩) (.behind (cell_done left.dtype state) ?_)
  obtain ⟨zero, entered, made, growing, reads⟩ := gives_constant (.zero left.dtype)
    (onto state (state.heap.add (Storage.zeros left.dtype 1)))
  have begun : Sums state.heap entered.heap total (.zero left.dtype) :=
    .grows ⟨.add _ _, reads_zero left.dtype state.heap⟩ growing
  refine .behind made ((begun.assign ?_ reads rfl).bind fun _ middle sums => ?_)
  · rw [Literal.dtype_zero]
  refine (@yields_forRange _ _ _ _ summed ?_ ?_ ?_).bind fun _ last held => ?_
  · rintro index heap later ⟨sum, added, typed, sums⟩ growing
    exact ⟨sum, added, typed, sums.grows growing⟩
  · rintro index below scalar middle ⟨sum, added, typed', sums⟩ reads
    have named := Scalar.at_of_reads reads (below.trans_le counts)
    obtain ⟨pair, found, one, two⟩ := factors.at_index below
    obtain ⟨type, type'⟩ := alike pair (List.mem_of_getElem? found)
    obtain ⟨first, done₁, reads₁⟩ := vector_item_reads
      (stands.keeps (.of_grows sums.growing)) named below
      ((stands.get_grows sums.growing _).trans one)
    obtain ⟨second, done₂, reads₂⟩ := vector_item_reads
      (stands'.keeps (.of_grows sums.growing)) named (below.trans_eq sized.symm)
      ((stands'.get_grows sums.growing _).trans two)
    obtain ⟨product, next, multiplied, type₁, plus, type₂, more⟩ := Literal.accumulate_done
      (typed' ▸ numeric) (type.trans typed'.symm) (type'.trans typed'.symm)
    obtain ⟨factor, middle₁, done₃, growing₁, reads₃⟩ :=
      gives_binary reads₁ reads₂ (type'.trans type.symm) multiplied
    have sums₁ := sums.grows growing₁
    obtain ⟨answer, middle₂, done₄, growing₂, reads₄⟩ :=
      gives_binary sums₁.reads reads₃ type₁ plus
    refine .behind done₁ (.behind done₂ (.behind done₃ (.behind done₄ ?_)))
    refine ((sums₁.grows growing₂).assign (by rw [typed']) reads₄ type₂).mono
      fun _ after sums => ⟨next, ?_, type₂.trans typed', sums⟩
    rw [Literal.sumOfProducts_take_succ found, added]
    exact more
  · exact ⟨_, rfl, Literal.dtype_zero _, sums⟩
  · obtain ⟨sum', added, -, sums⟩ := held
    rw [← factors.length_eq, List.take_length, done] at added
    cases added
    exact .of_done rfl sums

end Dot

/-! ### Products of matrices and vectors -/

section Multiply

variable {matrix : Matrix} {source target : Vector} {name' name'' base' base'' row column : Nat}
  {sum : Literal} {pairs : List (Literal × Literal)} {middle after : HostState ρ}

/-- The factors of the product of a row and a vector. -/
def RowFactors (matrix : Matrix) (source : Vector) (heap : Heap) (row : Nat)
    (pairs : List (Literal × Literal)) : Prop :=
  Literal.Factors (fun column => matrix.get row column heap)
    (fun column => source.value.get [column] heap) matrix.columns pairs

/-- What the elements of a product are. -/
def Product (matrix : Matrix) (source : Vector) (heap : Heap) (coordinates : List Nat)
    (sum : Literal) : Prop :=
  ∃ row pairs, coordinates = [row] ∧ RowFactors matrix source heap row pairs ∧
    Literal.sumOfProducts matrix.dtype pairs = .ok sum

/-- Every row of a matrix of numbers has its product. -/
theorem exists_product (stands : matrix.value.Stands heap name base)
    (stands' : source.value.Stands heap name' base') (conforms : matrix.Conforms source target)
    (numeric : matrix.dtype ≠ .bool) (below : row < matrix.rows) :
    ∃ pairs sum, RowFactors matrix source heap row pairs ∧
      (∀ pair ∈ pairs, pair.1.dtype = matrix.dtype ∧ pair.2.dtype = matrix.dtype) ∧
        Literal.sumOfProducts matrix.dtype pairs = .ok sum ∧ sum.dtype = matrix.dtype := by
  obtain ⟨layout, shaped, -⟩ := layout_vector source
  obtain ⟨pairs, factors⟩ : ∃ pairs, RowFactors matrix source heap row pairs := by
    refine Literal.Factors.exists_of_read (fun column below' => ?_) fun column below' => ?_
    · obtain ⟨element, read, -⟩ :=
        stands.get_inside matrix.placed (inside_matrix.mpr ⟨below, below'⟩)
      exact ⟨element, read⟩
    · obtain ⟨element, read, -⟩ :=
        stands'.get_inside shaped (vector_inside shaped (below'.trans_eq conforms.sized.symm))
      exact ⟨element, read⟩
  have typed : ∀ pair ∈ pairs, pair.1.dtype = matrix.dtype ∧ pair.2.dtype = matrix.dtype := by
    refine Literal.Factors.forall_mem factors fun column pair one two => ?_
    have first := matrix.typed.symm.trans (stands.dtype_of_get one)
    have second := source.typed.symm.trans (stands'.dtype_of_get two)
    exact ⟨(Option.some.inj first).symm, (Option.some.inj second).symm.trans conforms.typed⟩
  obtain ⟨sum, done, typed'⟩ := Literal.sumOfProducts_done numeric typed
  exact ⟨pairs, sum, factors, typed, done, typed'⟩

/-- The matrix has a vector for each of its sides, of its type. -/
theorem checks_passed {rest : Host ρ Unit} (conforms : matrix.Conforms source target) :
    (do
      if source.size ≠ matrix.columns || target.size ≠ matrix.rows then
        Kernel.fail (.sizeMismatch [matrix.rows, matrix.columns] [target.size, source.size])
      if source.dtype ≠ matrix.dtype then
        Kernel.fail (.dtypes matrix.dtype source.dtype)
      if target.dtype ≠ matrix.dtype then
        Kernel.fail (.dtypes matrix.dtype target.dtype)
      rest : Host ρ Unit) = rest := by
  simp [conforms.sized, conforms.sized', conforms.typed, conforms.typed']

/-- A row of a matrix as a vector. -/
theorem row_yields (stands : matrix.value.Stands state.heap name base)
    (named : scalar.At state.heap row) (below : row < matrix.rows)
    (line : matrix.columns = 0 →
      base + matrix.layout.place [row, 0] ≤ (state.heap.storage name).size) :
    Yields (matrix.row scalar : Host ρ Vector) state fun vector after =>
      state.heap.Grows after.heap ∧ (∃ name base, vector.value.Stands after.heap name base) ∧
        vector.size = matrix.columns ∧ vector.dtype = matrix.dtype ∧
          ∀ column < matrix.columns,
            vector.value.get [column] after.heap = matrix.get row column after.heap := by
  obtain ⟨vector, after, done, growing, window⟩ := (row_admits stands named).accepted ⟨below, line⟩
  refine .of_done done ⟨growing, window.stands, ?_, ?_, fun column below' => ?_⟩
  · obtain ⟨layout, shaped, -, sizes⟩ := layout_vector vector
    have sized := window.sized
    rw [shaped, Option.map_some, sizes] at sized
    exact List.singleton_inj.mp (Option.some.inj sized)
  · have typed := window.typed
    rw [vector.typed, matrix.typed] at typed
    exact Option.some.inj typed
  · have lies := (stands.lies_iff matrix.placed).mpr
      ⟨inside_matrix.mpr ⟨below, below'⟩, rfl, rfl⟩
    have lies' := (window.lies [column] _ _).mpr ⟨.cons below' .nil, lies⟩
    exact (lies'.get after.heap).trans (lies.get after.heap).symm

theorem insert_row (row : Nat) :
    insert [row] {coordinates | ∃ other < row, coordinates = [other]} =
      {coordinates : List Nat | ∃ other < row + 1, coordinates = [other]} := by
  ext coordinates
  simp only [Set.mem_insert_iff, Set.mem_ofPred_eq]
  constructor
  · rintro (rfl | ⟨other, before, rfl⟩)
    · exact ⟨row, Nat.lt_succ_self row, rfl⟩
    · exact ⟨other, before.trans (Nat.lt_succ_self row), rfl⟩
  · rintro ⟨other, before, rfl⟩
    rcases Nat.lt_succ_iff_lt_or_eq.mp before with before | rfl
    · exact .inr ⟨other, before, rfl⟩
    · exact .inl rfl

/-- The product of a matrix and a vector is found in a target without a cell of either. -/
theorem multiply_yields (stands : matrix.value.Stands state.heap name base)
    (stands' : source.value.Stands state.heap name' base')
    (stands'' : target.value.Stands state.heap name'' base'')
    (conforms : matrix.Conforms source target) (numeric : matrix.dtype ≠ .bool)
    (counts : matrix.rows ≤ Nat.pow 2 63) (counts' : matrix.columns ≤ Nat.pow 2 63)
    (apart : target.value.Apart matrix.value) (apart' : target.value.Apart source.value)
    (lines : ∀ row < matrix.rows, matrix.columns = 0 →
      base + matrix.layout.place [row, 0] ≤ (state.heap.storage name).size) :
    Yields (matrix.multiply source target : Host ρ Unit) state fun _ after =>
      target.value.Rewritten (Product matrix source state.heap) Set.univ state.heap after.heap := by
  let done (rows : Nat) (heap : Heap) : Prop :=
    target.value.Rewritten (Product matrix source state.heap) {coordinates | ∃ row < rows,
      coordinates = [row]} state.heap heap
  obtain ⟨layout, shaped, -⟩ := layout_vector source
  obtain ⟨layout', shaped', -⟩ := layout_vector target
  unfold Matrix.multiply
  rw [checks_passed conforms]
  refine (@yields_forRange _ _ _ _ done ?_ ?_ ?_).mono fun _ after rewritten => ?_
  · exact fun _ heap later rewritten growing => rewritten.grows stands'' growing
  · intro row below index middle rewritten reads
    have named := Scalar.at_of_reads reads (below.trans_le counts)
    obtain ⟨pairs, sum, factors, -, summed, typed⟩ :=
      exists_product stands stands' conforms numeric below
    obtain ⟨vector, entered, done₁, growing₁, ⟨_, _, stands₁⟩, sized, typed₁, same⟩ :=
      row_yields (stands.keeps rewritten.keeps) named below fun none => by
        rw [rewritten.keeps.size name stands.known]
        exact lines row below none
    have rewritten₁ := rewritten.grows stands'' growing₁
    have factors₁ : Literal.Factors (fun column => vector.value.get [column] entered.heap)
        (fun column => source.value.get [column] entered.heap) vector.size pairs := by
      rw [sized]
      refine factors.congr (fun column below' element read => ?_)
        fun column below' element read => ?_
      · rw [same column below']
        have lies := (stands.lies_iff matrix.placed).mpr
          ⟨inside_matrix.mpr ⟨below, below'⟩, rfl, rfl⟩
        exact rewritten₁.get_beside stands lies (fun other _ lies' => apart _ _ _ _ lies' lies) read
      · have lies := (stands'.lies_iff shaped).mpr
          ⟨vector_inside shaped (below'.trans_eq conforms.sized.symm), rfl, rfl⟩
        exact rewritten₁.get_beside stands' lies
          (fun other _ lies' => apart' _ _ _ _ lies' lies) read
    refine .behind done₁ ((dot_yields stands₁ (stands'.keeps rewritten₁.keeps)
      (conforms.sized.trans sized.symm) (conforms.typed.trans typed₁.symm) (typed₁ ▸ numeric)
      (sized ▸ counts') factors₁ (typed₁ ▸ summed)).bind fun total middle₁ sums => ?_)
    have rewritten₂ := rewritten₁.grows stands'' sums.growing
    have here := stands''.keeps rewritten₂.keeps
    have within := below.trans_eq conforms.sized'.symm
    have inside := vector_inside shaped' within
    have named₂ := named.grows (growing₁.trans sums.growing)
    refine .behind ((bind_of_ok (checkBelow_done named₂ within)).trans
      (element_done here shaped' (.cons named₂ .nil) inside)) ?_
    have lies := (here.lies_iff shaped').mpr ⟨inside, rfl, rfl⟩
    have kind : sum.dtype = (middle₁.heap.storage name'').dtype := by
      have kind := here.typed
      rw [target.typed, conforms.typed'] at kind
      exact typed.trans (Option.some.inj kind)
    refine (assign_written here.known (here.lies_lt lies).2 sums.reads kind).mono
      fun _ after written => ?_
    have extended := rewritten₂.extend stands'' lies ⟨row, pairs, rfl, factors, summed⟩ written
    rwa [insert_row] at extended
  · change target.value.Rewritten _ {coordinates | ∃ row < 0, coordinates = [row]} _ _
    simp only [Nat.not_lt_zero, false_and, exists_false, Set.ofPred_false]
    exact .start state.heap
  · refine rewritten.whole fun coordinates storage place lies => ?_
    obtain ⟨position, below, rfl⟩ := vector_coordinates lies
    exact ⟨position, below.trans_eq conforms.sized', rfl⟩

/-- Sizes that do not match are refused first, then types. -/
theorem multiply_refuses (matrix : Matrix) (source target : Vector) (state : HostState ρ) :
    (source.size ≠ matrix.columns ∨ target.size ≠ matrix.rows →
      Refuses (matrix.multiply source target : Host ρ Unit) state
        (.sizeMismatch [matrix.rows, matrix.columns] [target.size, source.size])) ∧
    (source.size = matrix.columns → target.size = matrix.rows →
      (source.dtype ≠ matrix.dtype →
        Refuses (matrix.multiply source target : Host ρ Unit) state
          (.dtypes matrix.dtype source.dtype)) ∧
      (source.dtype = matrix.dtype → target.dtype ≠ matrix.dtype →
        Refuses (matrix.multiply source target : Host ρ Unit) state
          (.dtypes matrix.dtype target.dtype))) := by
  unfold Matrix.multiply
  dsimp only
  refine ⟨fun wrong => ?_, fun sized sized' => ⟨fun wrong => ?_, fun typed wrong => ?_⟩⟩
  · rw [if_pos (by simpa using wrong)]
    exact Action.bind_of_error rfl
  · rw [if_neg (by simp [sized, sized']), if_pos wrong]
    exact Action.bind_of_error rfl
  · rw [if_neg (by simp [sized, sized']), if_neg (not_not.mpr typed), if_pos wrong]
    exact Action.bind_of_error rfl

end Multiply

end Host

/-! ### Values that were reached -/

/-- What the dot product of two vectors comes to. -/
structure Vector.Dots {ρ : Type} (state : HostState ρ) (left right : Vector) : Prop where
  accepted : right.size = left.size → right.dtype = left.dtype → left.dtype ≠ .bool →
    ∃ pairs sum total after,
      Literal.Factors (fun index => left.value.get [index] state.heap)
        (fun index => right.value.get [index] state.heap) left.size pairs ∧
      Literal.Summed left.dtype pairs sum ∧
      (left.dot right : Host ρ Scalar) state = .ok total after ∧
      state.heap.Grows after.heap ∧ Host.literal total.value after.heap = .ok sum
  sizes : left.size ≠ right.size →
    Host.Refuses (left.dot right : Host ρ Scalar) state (.sizeMismatch [left.size] [right.size])
  types : left.size = right.size → left.dtype ≠ right.dtype →
    Host.Refuses (left.dot right : Host ρ Scalar) state (.dtypes left.dtype right.dtype)

/-- What the product of a matrix and a vector comes to. -/
structure Matrix.Multiplies {ρ : Type} (state : HostState ρ) (matrix : Matrix)
    (source target : Vector) : Prop where
  ok_iff : (∃ after, (matrix.multiply source target : Host ρ Unit) state = .ok () after) ↔
    matrix.Conforms source target
  product : ∀ after, (matrix.multiply source target : Host ρ Unit) state = .ok () after →
    ∀ row < matrix.rows, ∃ pairs sum, Host.RowFactors matrix source state.heap row pairs ∧
      Literal.Summed matrix.dtype pairs sum ∧ target.value.get [row] after.heap = .ok sum
  kept : ∀ after, (matrix.multiply source target : Host ρ Unit) state = .ok () after →
    (∀ row < matrix.rows, ∀ column < matrix.columns,
      matrix.get row column after.heap = matrix.get row column state.heap) ∧
    ∀ index < source.size,
      source.value.get [index] after.heap = source.value.get [index] state.heap
  /-- Storages may be added; of those that were there, the cells of the target are written. -/
  beside : ∀ after, (matrix.multiply source target : Host ρ Unit) state = .ok () after →
    state.heap.Keeps after.heap ∧ ∀ name < state.heap.next, ∀ index,
      (∀ row, ¬ target.value.Lies [row] name index) →
        (after.heap.storage name).cells[index]? = (state.heap.storage name).cells[index]?
  sizes : source.size ≠ matrix.columns ∨ target.size ≠ matrix.rows →
    Host.Refuses (matrix.multiply source target : Host ρ Unit) state
      (.sizeMismatch [matrix.rows, matrix.columns] [target.size, source.size])
  types : source.size = matrix.columns → target.size = matrix.rows →
    (source.dtype ≠ matrix.dtype →
      Host.Refuses (matrix.multiply source target : Host ρ Unit) state
        (.dtypes matrix.dtype source.dtype)) ∧
    (source.dtype = matrix.dtype → target.dtype ≠ matrix.dtype →
      Host.Refuses (matrix.multiply source target : Host ρ Unit) state
        (.dtypes matrix.dtype target.dtype))

namespace Host

variable {ρ : Type} {state : HostState ρ} {matrix : Matrix} {left right source target : Vector}
  {name name' name'' base base' base'' : Nat}

theorem dots (stands : left.value.Stands state.heap name base)
    (stands' : right.value.Stands state.heap name' base') (counts : left.size ≤ Nat.pow 2 63) :
    left.Dots state right := by
  obtain ⟨layout, shaped, -, sizes⟩ := layout_vector left
  obtain ⟨layout', shaped', -, sizes'⟩ := layout_vector right
  have ready := stands.ready_iff.mpr shaped
  have ready' := stands'.ready_iff.mpr shaped'
  have stopped : ∀ {cause}, Kernel.checkCompatible left.value right.value = .error cause →
      Refuses (left.dot right : Host ρ Scalar) state cause := fun failed =>
    Action.bind_of_error (ofExcept_error.mpr ⟨_, failed, rfl, rfl⟩)
  refine ⟨fun sized typed numeric => ?_, fun different => ?_, fun same different => ?_⟩
  · obtain ⟨pairs, factors⟩ : ∃ pairs, Literal.Factors
        (fun index => left.value.get [index] state.heap)
        (fun index => right.value.get [index] state.heap) left.size pairs := by
      refine Literal.Factors.exists_of_read (fun index below => ?_) fun index below => ?_
      · obtain ⟨element, read, -⟩ := stands.get_inside shaped (vector_inside shaped below)
        exact ⟨element, read⟩
      · obtain ⟨element, read, -⟩ :=
          stands'.get_inside shaped' (vector_inside shaped' (below.trans_eq sized.symm))
        exact ⟨element, read⟩
    have alike := vector_factors_typed stands stands' typed factors
    obtain ⟨sum, done, -⟩ := Literal.sumOfProducts_done numeric alike
    obtain ⟨total, after, ran, sums⟩ :=
      dot_yields stands stands' sized typed numeric counts factors done
    exact ⟨pairs, sum, total, after, factors,
      ⟨done, fun whole => Literal.integer_sumOfProducts whole alike done⟩, ran, sums.growing,
      sums.reads.literal⟩
  · have refused := checkCompatible_sizes ready ready' (by
      rw [sizes, sizes']
      exact fun same => different (List.singleton_inj.mp same))
    rw [sizes, sizes'] at refused
    exact stopped refused
  · exact stopped (checkCompatible_types ready ready' (by rw [sizes, sizes', same])
      (Value.dtype_ok.mpr left.typed) (Value.dtype_ok.mpr right.typed) different)

theorem conforms_of_multiplied {after : HostState ρ}
    (done : (matrix.multiply source target : Host ρ Unit) state = .ok () after) :
    matrix.Conforms source target := by
  obtain ⟨sizes, types⟩ := multiply_refuses matrix source target state
  have sized : source.size = matrix.columns ∧ target.size = matrix.rows := by
    by_contra wrong
    cases done.symm.trans (sizes (not_and_or.mp wrong))
  have typed : source.dtype = matrix.dtype := by
    by_contra wrong
    cases done.symm.trans ((types sized.1 sized.2).1 wrong)
  refine ⟨sized.1, sized.2, typed, ?_⟩
  by_contra wrong
  cases done.symm.trans ((types sized.1 sized.2).2 typed wrong)

theorem multiplies (stands : matrix.value.Stands state.heap name base)
    (stands' : source.value.Stands state.heap name' base')
    (stands'' : target.value.Stands state.heap name'' base'') (numeric : matrix.dtype ≠ .bool)
    (some : matrix.columns ≠ 0) (counts : matrix.rows ≤ Nat.pow 2 63)
    (counts' : matrix.columns ≤ Nat.pow 2 63) (apart : target.value.Apart matrix.value)
    (apart' : target.value.Apart source.value) : matrix.Multiplies state source target := by
  obtain ⟨layout, shaped, -⟩ := layout_vector source
  obtain ⟨layout', shaped', -⟩ := layout_vector target
  have yields (conforms : matrix.Conforms source target) :=
    multiply_yields stands stands' stands'' conforms numeric counts counts' apart apart'
      fun _ _ none => (some none).elim
  have written : ∀ after, (matrix.multiply source target : Host ρ Unit) state = .ok () after →
      matrix.Conforms source target ∧ target.value.Rewritten (Product matrix source state.heap)
        Set.univ state.heap after.heap := by
    intro after done
    have conforms := conforms_of_multiplied done
    obtain ⟨_, _, done', rewritten⟩ := yields conforms
    cases done.symm.trans done'
    exact ⟨conforms, rewritten⟩
  obtain ⟨sizes, types⟩ := multiply_refuses matrix source target state
  refine ⟨⟨?_, fun conforms => ?_⟩, fun after done row below => ?_,
    fun after done => ⟨fun row below column below' => ?_, fun index below => ?_⟩,
    fun after done => ?_, sizes, types⟩
  · rintro ⟨_, done⟩
    exact conforms_of_multiplied done
  · obtain ⟨_, after, done, -⟩ := yields conforms
    exact ⟨after, done⟩
  · obtain ⟨conforms, rewritten⟩ := written after done
    have lies := (stands''.lies_iff shaped').mpr
      ⟨vector_inside shaped' (below.trans_eq conforms.sized'.symm), rfl, rfl⟩
    obtain ⟨sum, ⟨_, pairs, ⟨⟩, factors, summed⟩, read⟩ :=
      rewritten.each [row] (Set.mem_univ _) _ _ lies
    obtain ⟨pairs', _, factors', typed, -⟩ :=
      exists_product stands stands' conforms numeric below
    cases factors.unique factors'
    exact ⟨pairs, sum, factors,
      ⟨summed, fun whole => Literal.integer_sumOfProducts whole typed summed⟩,
      (lies.get after.heap).trans read⟩
  · obtain ⟨element, read, -⟩ :=
      stands.get_inside matrix.placed (inside_matrix.mpr ⟨below, below'⟩)
    have lies := (stands.lies_iff matrix.placed).mpr
      ⟨inside_matrix.mpr ⟨below, below'⟩, rfl, rfl⟩
    exact ((written after done).2.get_beside stands lies
      (fun _ _ lies' => apart _ _ _ _ lies' lies) read).trans read.symm
  · obtain ⟨element, read, -⟩ := stands'.get_inside shaped (vector_inside shaped below)
    have lies := (stands'.lies_iff shaped).mpr ⟨vector_inside shaped below, rfl, rfl⟩
    exact ((written after done).2.get_beside stands' lies
      (fun _ _ lies' => apart' _ _ _ _ lies' lies) read).trans read.symm
  · obtain ⟨-, rewritten⟩ := written after done
    refine ⟨rewritten.keeps, fun name known index apart => ?_⟩
    refine rewritten.beside name known index fun coordinates _ lies => ?_
    obtain ⟨position, -, rfl⟩ := vector_coordinates lies
    exact apart position lies

end Host

namespace Value

variable {ρ : Type} {values : List Value} {heap : Heap} {name base : Nat} {layout : Layout}

/-- No value has more elements than its storage. -/
theorem Stands.elementCount_le {value : Value} (stands : value.Stands heap name base)
    (shaped : value.layout? = some layout) : layout.elementCount ≤ (heap.storage name).size := by
  obtain ⟨built, fits⟩ := stands.fits layout shaped
  have enough := built.spaced.elementCount_le_span
  omega

/-- Products of matrices and vectors that were made, of numbers, are the sums of the products of
their elements, however these lie in memory. -/
theorem Reached.products {state : HostState ρ} (reached : Reached state.heap values)
    (counts : ∀ name, (state.heap.storage name).size < Nat.pow 2 63) :
    (∀ left right : Vector, left.value ∈ values → right.value ∈ values →
      left.Dots state right) ∧
    ∀ (matrix : Matrix) (source target : Vector), matrix.value ∈ values →
      source.value ∈ values → target.value ∈ values → 0 < matrix.rows → 0 < matrix.columns →
        matrix.dtype ≠ .bool → target.value.Apart matrix.value →
          target.value.Apart source.value → matrix.Multiplies state source target := by
  refine ⟨fun left right member member' => ?_, fun matrix source target member member' member''
    some some' numeric apart apart' => ?_⟩
  · obtain ⟨name, base, stands⟩ := reached.stands _ member
    obtain ⟨name', base', stands'⟩ := reached.stands _ member'
    obtain ⟨layout, shaped, -, sizes⟩ := Host.layout_vector left
    have counted := layout.elementCount_logicalSizes
    rw [sizes, Layout.elementCount_single] at counted
    have enough := stands.elementCount_le shaped
    exact Host.dots stands stands' (by have := counts name; omega)
  · obtain ⟨name, base, stands⟩ := reached.stands _ member
    obtain ⟨_, _, stands'⟩ := reached.stands _ member'
    obtain ⟨_, _, stands''⟩ := reached.stands _ member''
    have last : matrix.rows - 1 + 1 ≤ matrix.rows := by omega
    have last' : matrix.columns - 1 + 1 ≤ matrix.columns := by omega
    have below := stands.counts (counts name) last last' one_pos one_pos
    exact Host.multiplies stands stands' stands'' numeric some'.ne' (by omega) (by omega) apart
      apart'

/-- A padded matrix that is stored column by column, times a packed vector, into a padded one. -/
theorem Reached.products_padded : ∃ (state after : HostState Unit) (matrix : Matrix)
    (source target : Vector), Reached state.heap [target.value, source.value, matrix.value] ∧
      matrix.Multiplies state source target ∧
        (matrix.multiply source target : Host Unit Unit) state = .ok () after ∧
          target.value.get [0] after.heap = .ok (.i32 70) ∧
            target.value.get [1] after.heap = .ok (.i32 100) := by
  have made : ∃ (layout layout' : Layout) (data data' data'' : Storage) (heap heap' heap'' : Heap)
      (value value' value'' : Value) (matrix : Matrix) (source target : Vector),
      (Layout.reordered [2, 2] [2, 3] [0, 1] [1, 0] = .ok layout ∧
        Layout.padded [2] [3] [1] = .ok layout' ∧
        Storage.ofLiterals? .i32 #[.i32 9, .i32 1, .i32 2, .i32 9, .i32 3, .i32 4] = some data ∧
        Storage.ofLiterals? .i32 #[.i32 10, .i32 20] = some data' ∧
        Storage.ofLiterals? .i32 #[.i32 7, .i32 0, .i32 0] = some data'') ∧
      (Value.ofStorage data layout Heap.empty = .ok value heap ∧
        Value.ofStorage data' (Layout.packed [2]) heap = .ok value' heap' ∧
        Value.ofStorage data'' layout' heap' = .ok value'' heap'') ∧
      (Matrix.ofValue value = .ok matrix ∧ Vector.ofValue value' = .ok source ∧
        Vector.ofValue value'' = .ok target) ∧
      (matrix.value = value ∧ source.value = value' ∧ target.value = value'') ∧
      (matrix.rows = 2 ∧ matrix.columns = 2 ∧ matrix.dtype = .i32 ∧
        matrix.Conforms source target) ∧
      (value.place = .host 0 0 ∧ value'.place = .host 1 0 ∧ value''.place = .host 2 0) ∧
      (∀ name, (heap''.storage name).size ≤ 6) ∧
      Host.RowFactors matrix source heap'' 0 [(.i32 1, .i32 10), (.i32 3, .i32 20)] ∧
      Host.RowFactors matrix source heap'' 1 [(.i32 2, .i32 10), (.i32 4, .i32 20)] := by
    refine ⟨_, _, _, _, _, _, _, _, _, _, _, _, _, _, ⟨rfl, rfl, rfl, rfl, rfl⟩, ⟨rfl, rfl, rfl⟩,
      ⟨rfl, rfl, rfl⟩, ⟨rfl, rfl, rfl⟩, ⟨rfl, rfl, rfl, ⟨rfl, rfl, rfl, rfl⟩⟩, ⟨rfl, rfl, rfl⟩,
      fun name => ?_, .cons ⟨rfl, rfl⟩ (.cons ⟨rfl, rfl⟩ .nil),
      .cons ⟨rfl, rfl⟩ (.cons ⟨rfl, rfl⟩ .nil)⟩
    rcases name with _ | _ | _ | name
    · decide
    · decide
    · decide
    · exact Nat.zero_le 6
  obtain ⟨layout, layout', data, data', data'', heap, heap', heap'', _, _, _, matrix, source,
    target, ⟨reordered, padded, -⟩, ⟨stored, stored', stored''⟩, -, ⟨rfl, rfl, rfl⟩,
    ⟨rows, columns, dtype, conforms⟩, ⟨place, place', place''⟩, sizes, first, second⟩ := made
  let state : HostState Unit := ⟨heap'', 0, ()⟩
  have reached : Reached state.heap [target.value, source.value, matrix.value] :=
    .stored (.stored (.stored .start data (.reordered reordered) stored) data' (.packed _) stored')
      data'' (.padded padded) stored''
  have counts : ∀ name, (state.heap.storage name).size < Nat.pow 2 63 := fun name =>
    (sizes name).trans_lt (by decide)
  have multiplies : matrix.Multiplies state source target :=
    (Reached.products reached counts).2 matrix source target (by simp) (by simp) (by simp)
      (by omega) (by omega) (by rw [dtype]; decide) (.of_places place'' place (by decide))
      (.of_places place'' place' (by decide))
  obtain ⟨after, done⟩ := multiplies.ok_iff.mpr conforms
  have rows_product (row : Nat) (below : row < matrix.rows) (pairs : List (Literal × Literal))
      (factors : Host.RowFactors matrix source state.heap row pairs) (sum : Literal)
      (summed : Literal.sumOfProducts .i32 pairs = .ok sum) :
      target.value.get [row] after.heap = .ok sum := by
    obtain ⟨pairs', sum', factors', summed', read⟩ := multiplies.product after done row below
    cases factors.unique factors'
    rw [read, ← summed'.done, dtype, summed]
  exact ⟨state, after, matrix, source, target, reached, multiplies, done,
    rows_product 0 (by omega) _ first _ rfl, rows_product 1 (by omega) _ second _ rfl⟩

end Value
end TensorGraph

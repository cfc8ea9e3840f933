/-
Elementwise kernels, element by element.

An elementwise kernel replaces the elements of its target one after the other.
No two of them are the same cell, and a source is either the target itself or has
no cell of it, so each new element is made of the elements as they were before
the kernel ran, in whatever order the elements are visited.
-/

import TensorGraph.Proofs.Kernel.Visiting

namespace TensorGraph

namespace Value

variable {value target source : Value} {heap middle after : Heap} {name base index : Nat}
  {makes : List Nat → Literal → Prop} {visited : Set (List Nat)} {coordinates : List Nat}
  {element : Literal} {layout : Layout}

/-! ### Elements that are replaced -/

/-- The elements at some coordinates of a value were replaced, each by one that `makes` allows,
and no other cell was; storages may have been added. -/
structure Rewritten (value : Value) (makes : List Nat → Literal → Prop)
    (visited : Set (List Nat)) (heap after : Heap) : Prop where
  keeps : heap.Keeps after
  each : ∀ coordinates ∈ visited, ∀ name index, value.Lies coordinates name index →
    ∃ element, makes coordinates element ∧ after.cell name index = .ok element
  beside : ∀ name < heap.next, ∀ index,
    (∀ coordinates ∈ visited, ¬ value.Lies coordinates name index) →
      (after.storage name).cells[index]? = (heap.storage name).cells[index]?

namespace Rewritten

theorem start (heap : Heap) : Rewritten value makes ∅ heap heap :=
  ⟨.refl heap, fun _ absurd => absurd.elim, fun _ _ _ _ => rfl⟩

/-- What was not replaced reads as before. -/
theorem unread (rewritten : Rewritten value makes visited heap middle) (known : name < heap.next)
    (apart : ∀ coordinates ∈ visited, ¬ value.Lies coordinates name index)
    (read : middle.cell name index = .ok element) : heap.cell name index = .ok element :=
  Heap.cell_eq_ok.mpr
    ((rewritten.beside name known index apart).symm.trans (Heap.cell_eq_ok.mp read))

/-- An element that is not replaced reads as before. -/
theorem get_beside {storage : Nat} (rewritten : target.Rewritten makes visited heap after)
    (stands : value.Stands heap name base) (lies : value.Lies coordinates storage index)
    (apart : ∀ other ∈ visited, ¬ target.Lies other storage index)
    (read : value.get coordinates heap = .ok element) :
    value.get coordinates after = .ok element := by
  rw [lies.get] at read ⊢
  obtain ⟨rfl, -⟩ := stands.lies_lt lies
  rw [Heap.cell_eq_ok, rewritten.beside storage stands.known index apart]
  exact Heap.cell_eq_ok.mp read

theorem grows (rewritten : Rewritten value makes visited heap middle)
    (stands : value.Stands heap name base) (growing : middle.Grows after) :
    Rewritten value makes visited heap after where
  keeps := rewritten.keeps.trans (.of_grows growing)
  each := by
    intro coordinates member storage place lies
    obtain ⟨element, made, read⟩ := rewritten.each coordinates member storage place lies
    obtain ⟨rfl, -⟩ := stands.lies_lt lies
    refine ⟨element, made, ?_⟩
    rw [Heap.cell, growing.kept storage (stands.known.trans_le rewritten.keeps.next)]
    exact read
  beside := by
    intro storage known place apart
    rw [growing.kept storage (known.trans_le rewritten.keeps.next)]
    exact rewritten.beside storage known place apart

/-- One more element is replaced. -/
theorem extend (rewritten : Rewritten value makes visited heap middle)
    (stands : value.Stands heap name base) (lies : value.Lies coordinates name index)
    (made : makes coordinates element) (one : middle.Written after name index [(0, element)]) :
    Rewritten value makes (insert coordinates visited) heap after := by
  have new := one.written (0, element) List.mem_cons_self
  refine ⟨rewritten.keeps.trans one.keeps, ?_, ?_⟩
  · intro other member storage place lies'
    by_cases same : other = coordinates
    · subst same
      obtain ⟨rfl, rfl⟩ := lies.unique lies'
      exact ⟨element, made, Heap.cell_eq_ok.mpr new⟩
    · obtain ⟨rfl, -⟩ := stands.lies_lt lies'
      have apart : place ≠ index := by
        rintro rfl
        exact same (stands.lies_inj lies' lies)
      obtain ⟨old, made', read⟩ :=
        rewritten.each other ((Set.mem_insert_iff.mp member).resolve_left same) storage place lies'
      refine ⟨old, made', Heap.cell_eq_ok.mpr ?_⟩
      rw [one.beside place (by simpa using apart)]
      exact Heap.cell_eq_ok.mp read
  · intro storage known place apart
    have others := rewritten.beside storage known place fun other member =>
      apart other (Set.mem_insert_of_mem _ member)
    rw [← others]
    by_cases here : storage = name
    · subst here
      refine one.beside place ?_
      rw [List.forall_mem_singleton]
      rintro rfl
      exact apart coordinates (Set.mem_insert _ _) lies
    · rw [one.others storage here]

theorem step (rewritten : Rewritten value makes visited heap middle)
    (stands : value.Stands heap name base) (lies : value.Lies coordinates name index)
    (made : makes coordinates element)
    (written : Heap.setCell name index element middle = .ok () after) :
    Rewritten value makes (insert coordinates visited) heap after :=
  rewritten.extend stands lies made
    (Heap.written_of_setCell (stands.keeps rewritten.keeps).known written)

/-- A value all of whose elements were visited. -/
theorem whole (rewritten : Rewritten value makes visited heap after)
    (all : ∀ coordinates name index, value.Lies coordinates name index → coordinates ∈ visited) :
    Rewritten value makes Set.univ heap after where
  keeps := rewritten.keeps
  each := fun coordinates _ name index lies =>
    rewritten.each coordinates (all coordinates name index lies) name index lies
  beside := fun name known index apart =>
    rewritten.beside name known index fun coordinates _ => apart coordinates (Set.mem_univ _)

end Rewritten

/-- A storage without elements of the value is as it was. -/
theorem Rewritten.storage_eq (rewritten : Rewritten value makes visited heap after)
    (stands : value.Stands heap name base) {other : Nat} (known : other < heap.next)
    (different : other ≠ name) : after.storage other = heap.storage other := by
  refine Storage.ext_cells (rewritten.keeps.dtype other known) (Array.ext_getElem? fun place => ?_)
  exact rewritten.beside other known place fun _ _ lies => different (stands.lies_lt lies).1

/-- Only the storage of the value is written. -/
theorem Rewritten.sparing (rewritten : Rewritten value makes visited heap after)
    (stands : value.Stands heap name base) : heap.Spares name after :=
  ⟨rewritten.keeps, fun _ known => rewritten.storage_eq stands known⟩

/-- No active element of one value is one of the other. -/
def Apart (value other : Value) : Prop :=
  ∀ coordinates coordinates' name index, value.Lies coordinates name index →
    ¬ other.Lies coordinates' name index

theorem Apart.of_places {value other : Value} {name base name' base' : Nat}
    (placed : value.place = .host name base) (placed' : other.place = .host name' base')
    (different : name ≠ name') : value.Apart other := by
  intro coordinates coordinates' storage index lies lies'
  obtain ⟨_, _, -, here, -⟩ := lies
  obtain ⟨_, _, -, there, -⟩ := lies'
  cases placed.symm.trans here
  cases placed'.symm.trans there
  exact different rfl

/-- The source has no cell of the target, or it is the same view. -/
def Separate (target source : Value) : Prop :=
  (∀ coordinates other name index, target.Lies coordinates name index →
    ¬ source.Lies other name index) ∨
  source.layout? = target.layout? ∧ source.place = target.place

theorem Separate.of_places {name' base' : Nat} (placed : target.place = .host name base)
    (placed' : source.place = .host name' base') (different : name ≠ name') :
    target.Separate source := by
  refine .inl fun coordinates other storage index lies lies' => ?_
  obtain ⟨_, _, -, here, -⟩ := lies
  obtain ⟨_, _, -, there, -⟩ := lies'
  cases placed.symm.trans here
  cases placed'.symm.trans there
  exact different rfl

/-- What is replaced is not yet what the source shows at coordinates that are still to come. -/
theorem Separate.unvisited (separate : Separate target source)
    (stands : target.Stands heap name base) {storage : Nat}
    (lies : source.Lies coordinates storage index) (fresh : coordinates ∉ visited) :
    ∀ other ∈ visited, ¬ target.Lies other storage index := by
  intro other member lies'
  rcases separate with apart | ⟨shape, place⟩
  · exact apart other coordinates storage index lies' lies
  · have same : target.Lies coordinates storage index := by
      obtain ⟨layout, base, shaped, placed, inside, rfl⟩ := lies
      exact ⟨layout, base, shape.symm.trans shaped, place.symm.trans placed, inside, rfl⟩
    exact fresh (stands.lies_inj same lies' ▸ member)

end Value

namespace Host

variable {ρ : Type} {state middle after : HostState ρ} {target source : Value}
  {name base index : Nat} {layout shape : Layout} {makes : List Nat → Literal → Prop}
  {visited : Set (List Nat)} {body : List Scalar → Host ρ Unit}
  {compute : Scalar → List Scalar → Host ρ Scalar} {coordinates : List Nat}

/-! ### Loops that replace elements -/

/-- A body that replaces the element at its coordinates by one that it computes first. -/
def Replaces (target : Value) (compute : Scalar → List Scalar → Host ρ Scalar)
    (body : List Scalar → Host ρ Unit) : Prop :=
  ∀ scalars (state after : HostState ρ), body scalars state = .ok () after →
    ∃ old new entered middle, (Kernel.element target scalars : Host ρ Scalar) state =
      .ok old entered ∧ compute old scalars entered = .ok new middle ∧
        (old.assign new : Host ρ Unit) middle = .ok () after

/-- What is computed, of the elements as they were before any of them was replaced. -/
structure Computes (state : HostState ρ) (target : Value)
    (makes : List Nat → Literal → Prop) (compute : Scalar → List Scalar → Host ρ Scalar) :
    Prop where
  grows : ∀ old scalars (entered next : HostState ρ) new,
    compute old scalars entered = .ok new next → entered.heap.Grows next.heap
  makes : ∀ visited coordinates old scalars (entered next : HostState ρ) new element name index,
    target.Rewritten makes visited state.heap entered.heap → coordinates ∉ visited →
      List.Forall₂ (Scalar.At entered.heap) scalars coordinates →
        target.Lies coordinates name index → old.value.place = .host name index →
          compute old scalars entered = .ok new next →
            literal new.value next.heap = .ok element → makes coordinates element

theorem replaces_bind (target : Value) (compute : Scalar → List Scalar → Host ρ Scalar) :
    Replaces target compute fun scalars => (do
      let old ← Kernel.element target scalars
      old.assign (← compute old scalars)) := by
  intro scalars state after done
  obtain ⟨old, entered, first, done⟩ := bind_ok.mp done
  obtain ⟨new, middle, second, last⟩ := bind_ok.mp done
  exact ⟨old, new, entered, middle, first, second, last⟩

theorem sparing_of_replaces (placed : target.place = .host name base)
    (replaces : Replaces target compute body) (computes : Computes state target makes compute) :
    Sparing name body := by
  intro scalars entered next done
  obtain ⟨old, new, _, middle, first, second, third⟩ := replaces scalars entered next done
  obtain ⟨rfl, -, index, here⟩ := element_ok placed first
  obtain ⟨element, -, written⟩ := assign_ok here third
  exact (Heap.Spares.of_grows (computes.grows _ _ _ _ _ second)).trans (.of_setCell written)

/-- One turn replaces one element. -/
theorem rewritten_turn (stands : target.Stands state.heap name base)
    (shaped : target.layout? = some layout) (replaces : Replaces target compute body)
    (computes : Computes state target makes compute)
    (rewritten : target.Rewritten makes visited state.heap middle.heap)
    (fresh : coordinates ∉ visited) (inside : layout.Inside coordinates) {scalars : List Scalar}
    (named : List.Forall₂ (Scalar.At middle.heap) scalars coordinates)
    (done : body scalars middle = .ok () after) :
    target.Rewritten makes (insert coordinates visited) state.heap after.heap := by
  obtain ⟨old, new, _, next, first, second, third⟩ := replaces scalars middle after done
  have found := element_done (stands.keeps rewritten.keeps) shaped named inside
  cases first.symm.trans found
  have lies := (stands.lies_iff shaped).mpr ⟨inside, rfl, rfl⟩
  obtain ⟨element, read, written⟩ := assign_ok rfl third
  have made := computes.makes visited coordinates _ scalars middle next new element name _ rewritten
    fresh named lies rfl second read
  exact (rewritten.grows stands (computes.grows _ _ _ _ _ second)).step stands lies made written

theorem rewritten_of_ran (stands : target.Stands state.heap name base)
    (shaped : target.layout? = some layout) (replaces : Replaces target compute body)
    (computes : Computes state target makes compute) {list : List (List Nat)}
    (ran : Ran name body list middle after)
    (rewritten : target.Rewritten makes visited state.heap middle.heap) (distinct : list.Nodup)
    (each : ∀ coordinates ∈ list, coordinates ∉ visited ∧ layout.Inside coordinates ∧
      ∀ coordinate ∈ coordinates, coordinate < Nat.pow 2 63) :
    target.Rewritten makes (visited ∪ {coordinates | coordinates ∈ list}) state.heap
      after.heap := by
  induction ran generalizing visited with
  | nil growing =>
      have none : {coordinates : List Nat | coordinates ∈ []} = ∅ := by simp
      rw [none, Set.union_empty]
      exact rewritten.grows stands growing
  | @cons _ entered next _ scalars coordinates rest growing counts done _ inductionHypothesis =>
      obtain ⟨⟨fresh, inside, below⟩, others⟩ := List.forall_mem_cons.mp each
      obtain ⟨absent, distinct⟩ := List.nodup_cons.mp distinct
      have turned := rewritten_turn stands shaped replaces computes
        (rewritten.grows stands growing) fresh inside (named_of_counts counts below) done
      have more := inductionHypothesis turned distinct fun other member => by
        obtain ⟨fresh', rest⟩ := others other member
        refine ⟨fun visited => ?_, rest⟩
        rcases Set.mem_insert_iff.mp visited with rfl | visited
        · exact absent member
        · exact fresh' visited
      have all : insert coordinates visited ∪ {other | other ∈ rest} =
          visited ∪ {other | other ∈ coordinates :: rest} := by
        ext other
        simp only [Set.mem_union, Set.mem_insert_iff, Set.mem_ofPred_eq, List.mem_cons]
        tauto
      rwa [all] at more

/-- A loop over a value replaces all its elements, by what is computed of the elements as they
were. -/
theorem rewritten_of_forEach (stands : target.Stands state.heap name base)
    (shaped : target.layout? = some layout) (replaces : Replaces target compute body)
    (computes : Computes state target makes compute)
    (done : (Kernel.forEach layout body : Host ρ Unit) state = .ok () after) :
    target.Rewritten makes Set.univ state.heap after.heap := by
  have ran := ran_of_forEach (sparing_of_replaces stands.place replaces computes) stands.known done
  have reading : ∀ scalars (state after : HostState ρ), body scalars state = .ok () after →
      ∃ positions, List.Forall₂ (Scalar.At state.heap) scalars positions := by
    intro scalars entered next done
    obtain ⟨_, _, _, _, first, -, -⟩ := replaces scalars entered next done
    exact (element_ok stands.place first).2.1
  have rewritten := rewritten_of_ran stands shaped replaces computes ran (.start state.heap)
    (Layout.rowMajor_nodup _) fun coordinates member =>
      ⟨Set.notMem_empty _, Layout.mem_rowMajor.mp member, ran.coordinates_below reading member⟩
  refine rewritten.whole fun coordinates storage index lies => .inr ?_
  exact Layout.mem_rowMajor.mpr ((stands.lies_iff shaped).mp lies).1

/-! ### What the kernels compute -/

section Kernels

variable {name' base' : Nat} {scalar old other new : Scalar} {scalars : List Scalar}
  {element : Literal} {op : BinaryOp} {function : UnaryOp}

theorem literal_before (rewritten : target.Rewritten makes visited state.heap middle.heap)
    (placed : scalar.value.place = .host name index) (known : name < state.heap.next)
    (apart : ∀ coordinates ∈ visited, ¬ target.Lies coordinates name index)
    (read : literal scalar.value middle.heap = .ok element) :
    state.heap.cell name index = .ok element := by
  obtain ⟨_, _, placed', found⟩ := Scalar.literal_eq_ok.mp read
  cases placed.symm.trans placed'
  exact rewritten.unread known apart (Heap.cell_eq_ok.mpr found)

/-- The element that is replaced next is still the old one. -/
theorem old_before (stands : target.Stands state.heap name base)
    (rewritten : target.Rewritten makes visited state.heap middle.heap)
    (fresh : coordinates ∉ visited) {storage : Nat} (lies : target.Lies coordinates storage index)
    (placed : old.value.place = .host storage index)
    (read : literal old.value middle.heap = .ok element) :
    target.get coordinates state.heap = .ok element := by
  obtain ⟨rfl, -⟩ := stands.lies_lt lies
  rw [lies.get]
  refine literal_before rewritten placed stands.known (fun other member lies' => ?_) read
  exact fresh (stands.lies_inj lies lies' ▸ member)

/-- The source still has its old element at the coordinates. -/
theorem source_before (stands : target.Stands state.heap name base)
    (stands' : source.Stands state.heap name' base') (shaped : source.layout? = some shape)
    (separate : target.Separate source)
    (rewritten : target.Rewritten makes visited state.heap middle.heap)
    (fresh : coordinates ∉ visited) (inside : shape.Inside coordinates)
    (named : List.Forall₂ (Scalar.At middle.heap) scalars coordinates)
    (done : (Kernel.element source scalars : Host ρ Scalar) middle = .ok other after) :
    middle = after ∧ ∀ element, literal other.value middle.heap = .ok element →
      source.get coordinates state.heap = .ok element := by
  have found := element_done (stands'.keeps rewritten.keeps) shaped named inside
  cases done.symm.trans found
  have lies := (stands'.lies_iff shaped).mpr ⟨inside, rfl, rfl⟩
  refine ⟨rfl, fun element read => ?_⟩
  rw [lies.get]
  exact literal_before rewritten rfl stands'.known (separate.unvisited stands lies fresh) read

/-- The sizes of two values are the same, and so are the coordinates of their elements. -/
theorem inside_of_lies (stands : target.Stands state.heap name base)
    (shaped : target.layout? = some layout) (same : layout.logicalSizes = shape.logicalSizes)
    {storage : Nat} (lies : target.Lies coordinates storage index) : shape.Inside coordinates := by
  have inside := ((stands.lies_iff shaped).mp lies).1
  unfold Layout.Inside at inside ⊢
  rwa [← same]

variable (stands : target.Stands state.heap name base)

include stands

theorem computes_elementwise (shaped : target.layout? = some layout)
    (stands' : source.Stands state.heap name' base') (shaped' : source.layout? = some shape)
    (same : layout.logicalSizes = shape.logicalSizes) (separate : target.Separate source) :
    Computes state target
      (fun coordinates element => ∃ first second, target.get coordinates state.heap = .ok first ∧
        source.get coordinates state.heap = .ok second ∧ first.binary op second = .ok element)
      fun old scalars => do old.binary op (← Kernel.element source scalars) where
  grows := by
    intro old scalars entered next new done
    obtain ⟨other, _, found, computed⟩ := bind_ok.mp done
    obtain ⟨rfl, -, -⟩ := element_ok stands'.place found
    exact (binary_ok computed).1
  makes := by
    intro visited coordinates old scalars entered next new element storage index rewritten fresh
      named lies placed done read
    obtain ⟨other, _, found, computed⟩ := bind_ok.mp done
    obtain ⟨rfl, before⟩ := source_before stands stands' shaped' separate rewritten fresh
      (inside_of_lies stands shaped same lies) named found
    obtain ⟨-, first, second, result, left, right, evaluated, made⟩ := binary_ok computed
    cases made.symm.trans read
    exact ⟨first, second, old_before stands rewritten fresh lies placed left, before second right,
      evaluated⟩

theorem computes_assign (shaped : target.layout? = some layout)
    (stands' : source.Stands state.heap name' base') (shaped' : source.layout? = some shape)
    (same : layout.logicalSizes = shape.logicalSizes) (separate : target.Separate source) :
    Computes state target
      (fun coordinates element => source.get coordinates state.heap = .ok element)
      fun _ scalars => (Kernel.element source scalars : Host ρ Scalar) where
  grows := by
    intro old scalars entered next new done
    obtain ⟨rfl, -, -⟩ := element_ok stands'.place done
    exact .refl _
  makes := by
    intro visited coordinates old scalars entered next new element storage index rewritten fresh
      named lies placed done read
    obtain ⟨rfl, before⟩ := source_before stands stands' shaped' separate rewritten fresh
      (inside_of_lies stands shaped same lies) named done
    exact before element read

theorem computes_scalar (stands' : scalar.value.Stands state.heap name' base')
    (apart : ∀ coordinates storage index, target.Lies coordinates storage index →
      ¬ scalar.value.Lies [] storage index) :
    Computes state target
      (fun coordinates element => ∃ first second, target.get coordinates state.heap = .ok first ∧
        literal scalar.value state.heap = .ok second ∧ first.binary op second = .ok element)
      fun old _ => (old.binary op scalar : Host ρ Scalar) where
  grows := fun _ _ _ _ _ done => (binary_ok done).1
  makes := by
    intro visited coordinates old scalars entered next new element storage index rewritten fresh
      named lies placed done read
    obtain ⟨-, first, second, result, left, right, evaluated, made⟩ := binary_ok done
    cases made.symm.trans read
    refine ⟨first, second, old_before stands rewritten fresh lies placed left, ?_, evaluated⟩
    have kept := literal_before rewritten stands'.place stands'.known (fun other _ lies' =>
      apart other _ _ lies' (Scalar.lies_of_place stands'.place)) right
    exact Scalar.literal_eq_ok.mpr ⟨_, _, stands'.place, Heap.cell_eq_ok.mp kept⟩

theorem computes_unary :
    Computes state target
      (fun coordinates element => ∃ first, target.get coordinates state.heap = .ok first ∧
        first.unary function = .ok element)
      fun old _ => (old.unary function : Host ρ Scalar) where
  grows := fun _ _ _ _ _ done => (unary_ok done).1
  makes := by
    intro visited coordinates old scalars entered next new element storage index rewritten fresh
      named lies placed done read
    obtain ⟨-, first, result, operand, evaluated, made⟩ := unary_ok done
    cases made.symm.trans read
    exact ⟨first, old_before stands rewritten fresh lies placed operand, evaluated⟩

omit stands in
/-- A scalar that is written over itself stays what it is. -/
theorem computes_fill (stands' : scalar.value.Stands state.heap name' base') :
    Computes state target (fun _ element => literal scalar.value state.heap = .ok element)
      fun _ _ => (pure scalar : Host ρ Scalar) where
  grows := by
    intro old scalars entered next new done
    obtain ⟨-, rfl⟩ := pure_ok.mp done
    exact .refl _
  makes := by
    intro visited coordinates old scalars entered next new element storage index rewritten fresh
      named lies placed done read
    obtain ⟨rfl, rfl⟩ := pure_ok.mp done
    by_cases replaced : ∃ other ∈ visited, target.Lies other name' base'
    · obtain ⟨other, member, lies'⟩ := replaced
      obtain ⟨element', made, read'⟩ := rewritten.each other member _ _ lies'
      obtain ⟨_, _, placed', found⟩ := Scalar.literal_eq_ok.mp read
      cases stands'.place.symm.trans placed'
      cases read'.symm.trans (Heap.cell_eq_ok.mpr found)
      exact made
    · have kept := literal_before rewritten stands'.place stands'.known
        (fun other member lies' => replaced ⟨other, member, lies'⟩) read
      exact Scalar.literal_eq_ok.mpr ⟨_, _, stands'.place, Heap.cell_eq_ok.mp kept⟩

end Kernels

/-! ### The kernels -/

section Kernels

variable {name' base' : Nat} {op : BinaryOp} {answer : Value}

theorem checkCompatible_ok (done : Kernel.checkCompatible target source = .ok ()) :
    ∃ layout shape, target.ready = .ok layout ∧ source.ready = .ok shape ∧
      layout.logicalSizes = shape.logicalSizes := by
  unfold Kernel.checkCompatible at done
  obtain ⟨layout, ready, done⟩ := bind_eq_ok.mp done
  obtain ⟨shape, ready', done⟩ := bind_eq_ok.mp done
  dsimp only at done
  split at done
  · cases done
  · rename_i same
    exact ⟨layout, shape, ready, ready', not_not.mp same⟩

theorem checkCompatible_sizes (ready : target.ready = .ok layout) (ready' : source.ready = .ok shape)
    (different : layout.logicalSizes ≠ shape.logicalSizes) :
    Kernel.checkCompatible target source =
      .error (.sizeMismatch layout.logicalSizes shape.logicalSizes) := by
  simp only [Kernel.checkCompatible, ready, ready', bind, Except.bind]
  rw [if_pos different]
  rfl

theorem checkCompatible_types (ready : target.ready = .ok layout) (ready' : source.ready = .ok shape)
    (same : layout.logicalSizes = shape.logicalSizes) {dtype dtype' : DType}
    (typed : target.dtype = .ok dtype) (typed' : source.dtype = .ok dtype')
    (different : dtype ≠ dtype') :
    Kernel.checkCompatible target source = .error (.dtypes dtype dtype') := by
  simp only [Kernel.checkCompatible, ready, ready', typed, typed', bind, Except.bind]
  rw [if_neg (not_not.mpr same)]
  exact if_pos different

/-- A kernel over two values starts its loop when they have the same coordinates. -/
theorem compatible_ok (stands : target.Stands state.heap name base)
    (stands' : source.Stands state.heap name' base') {loop : Layout → Host ρ Unit}
    (done : (do
        Kernel.ofExcept (Kernel.checkCompatible target source)
        loop (← Kernel.ofExcept target.layout) : Host ρ Unit) state = .ok () after) :
    ∃ layout shape, target.layout? = some layout ∧ source.layout? = some shape ∧
      layout.logicalSizes = shape.logicalSizes ∧ loop layout state = .ok () after := by
  obtain ⟨_, _, checked, done⟩ := bind_ok.mp done
  obtain ⟨compatible, rfl⟩ := ofExcept_ok.mp checked
  obtain ⟨layout, shape, ready, ready', same⟩ := checkCompatible_ok compatible
  have shaped := stands.ready_iff.mp ready
  obtain ⟨layout', _, found, done⟩ := bind_ok.mp done
  obtain ⟨found', rfl⟩ := ofExcept_ok.mp found
  rw [Value.layout, shaped] at found'
  cases found'
  exact ⟨layout, shape, shaped, stands'.ready_iff.mp ready', same, done⟩

theorem elementwise_rewrites (stands : target.Stands state.heap name base)
    (stands' : source.Stands state.heap name' base') (separate : target.Separate source)
    (done : (Kernel.elementwise target source op : Host ρ Unit) state = .ok () after) :
    target.Rewritten (fun coordinates element => ∃ first second,
      target.get coordinates state.heap = .ok first ∧
        source.get coordinates state.heap = .ok second ∧ first.binary op second = .ok element)
      Set.univ state.heap after.heap := by
  obtain ⟨layout, shape, shaped, shaped', same, done⟩ := compatible_ok stands stands' done
  refine rewritten_of_forEach stands shaped (fun scalars entered next turn => ?_)
    (computes_elementwise stands shaped stands' shaped' same separate) done
  obtain ⟨old, here, first, turn⟩ := bind_ok.mp turn
  obtain ⟨other, there, second, turn⟩ := bind_ok.mp turn
  obtain ⟨new, middle, third, last⟩ := bind_ok.mp turn
  exact ⟨old, new, here, middle, first, bind_ok.mpr ⟨other, there, second, third⟩, last⟩

theorem assign_rewrites (stands : target.Stands state.heap name base)
    (stands' : source.Stands state.heap name' base') (separate : target.Separate source)
    (done : (Kernel.assign target source : Host ρ Unit) state = .ok () after) :
    target.Rewritten (fun coordinates element => source.get coordinates state.heap = .ok element)
      Set.univ state.heap after.heap := by
  obtain ⟨layout, shape, shaped, shaped', same, done⟩ := compatible_ok stands stands' done
  exact rewritten_of_forEach stands shaped (replaces_bind _ _)
    (computes_assign stands shaped stands' shaped' same separate) done

theorem elementwiseScalar_rewrites {scalar : Scalar} (stands : target.Stands state.heap name base)
    (stands' : scalar.value.Stands state.heap name' base')
    (apart : ∀ coordinates storage index, target.Lies coordinates storage index →
      ¬ scalar.value.Lies [] storage index)
    (done : (Kernel.elementwiseScalar target scalar op : Host ρ Unit) state = .ok () after) :
    target.Rewritten (fun coordinates element => ∃ first second,
      target.get coordinates state.heap = .ok first ∧
        literal scalar.value state.heap = .ok second ∧ first.binary op second = .ok element)
      Set.univ state.heap after.heap := by
  obtain ⟨layout, _, ready, done⟩ := bind_ok.mp done
  obtain ⟨ready', rfl⟩ := ofExcept_ok.mp ready
  obtain ⟨dtype, _, typed, done⟩ := bind_ok.mp done
  obtain ⟨-, rfl⟩ := ofExcept_ok.mp typed
  dsimp only at done
  split at done
  · obtain ⟨_, _, failed, -⟩ := bind_ok.mp done
    exact (fail_ok failed).elim
  · exact rewritten_of_forEach stands (stands.ready_iff.mp ready') (replaces_bind _ _)
      (computes_scalar stands stands' apart) done

theorem mapUnary_rewrites {function : UnaryOp} (stands : target.Stands state.heap name base)
    (done : (Kernel.mapUnary target function : Host ρ Unit) state = .ok () after) :
    target.Rewritten (fun coordinates element => ∃ first,
      target.get coordinates state.heap = .ok first ∧ first.unary function = .ok element)
      Set.univ state.heap after.heap := by
  obtain ⟨layout, _, ready, done⟩ := bind_ok.mp done
  obtain ⟨ready', rfl⟩ := ofExcept_ok.mp ready
  exact rewritten_of_forEach stands (stands.ready_iff.mp ready') (replaces_bind _ _)
    (computes_unary stands) done

theorem fill_rewrites {scalar : Scalar} (stands : target.Stands state.heap name base)
    (stands' : scalar.value.Stands state.heap name' base')
    (done : (Kernel.fill target scalar : Host ρ Unit) state = .ok () after) :
    target.Rewritten (fun _ element => literal scalar.value state.heap = .ok element)
      Set.univ state.heap after.heap := by
  obtain ⟨layout, _, ready, done⟩ := bind_ok.mp done
  obtain ⟨ready', rfl⟩ := ofExcept_ok.mp ready
  refine rewritten_of_forEach stands (stands.ready_iff.mp ready')
    (fun scalars entered next turn => ?_) (computes_fill stands') done
  obtain ⟨old, here, first, last⟩ := bind_ok.mp turn
  exact ⟨old, scalar, here, here, first, rfl, last⟩

end Kernels

end Host

/-! ### Copies -/

namespace Value

variable {ρ : Type} {value target source : Value} {heap middle after : Heap}
  {name name' base base' : Nat} {layout : Layout}

/-- The copy is a storage of its own, with the elements of the source one after the other, and
nothing that was there before has changed. -/
structure Copied (source copy : Value) (heap after : Heap) : Prop where
  grows : heap.Grows after
  fresh : copy.place = .host heap.next 0
  typed : copy.dtype? = source.dtype?
  compact : ∃ layout, source.layout? = some layout ∧ copy.layout? = some layout.compact ∧
    (after.storage heap.next).size = layout.elementCount
  same : ∃ data, source.toStorage heap = .ok data ∧ copy.toStorage after = .ok data

/-- Elements that are the same at all coordinates are the same in order. -/
theorem shows_of_same {elements : List Literal} {shape : Layout}
    (shows : Shows heap name base layout elements) (sizes : shape.logicalSizes = layout.logicalSizes)
    (same : ∀ coordinates, layout.Inside coordinates → ∀ element,
      heap.cell name (base + layout.place coordinates) = .ok element →
        after.cell name' (base' + shape.place coordinates) = .ok element) :
    Shows after name' base' shape elements := by
  unfold Shows at shows ⊢
  rw [Layout.positions_eq, List.forall₂_map_left_iff] at shows ⊢
  rw [sizes]
  obtain ⟨counted, each⟩ := List.forall₂_iff_zip.mp shows
  refine List.forall₂_iff_zip.mpr ⟨counted, fun {coordinates element} member => ?_⟩
  have inside := Layout.mem_rowMajor_layout.mp (List.of_mem_zip member).1
  exact same coordinates inside element (each member)

theorem copied_of_rewritten (stands : source.Stands heap name base)
    (shaped : source.layout? = some layout) (stands' : value.Stands middle heap.next 0)
    (shaped' : value.layout? = some layout.compact) (typed : value.dtype? = source.dtype?)
    (sized : (middle.storage heap.next).size = layout.elementCount) (growing : heap.Grows middle)
    (rewritten : value.Rewritten
      (fun coordinates element => source.get coordinates middle = .ok element) Set.univ middle
      after) : Copied source value heap after := by
  have sizes : layout.compact.logicalSizes = layout.logicalSizes :=
    Layout.logicalSizes_packed layout.logicalSizes
  have here := stands'.keeps rewritten.keeps
  obtain ⟨elements, shows⟩ := stands.shows shaped
  have shows' : Shows after heap.next 0 layout.compact elements := by
    refine shows_of_same shows sizes fun coordinates inside element read => ?_
    have inside' : layout.compact.Inside coordinates := by
      unfold Layout.Inside at inside ⊢
      rwa [sizes]
    have lies := (stands.lies_iff shaped).mpr ⟨inside, rfl, rfl⟩
    obtain ⟨copied, made, found⟩ := rewritten.each coordinates (Set.mem_univ _) _ _
      ((stands'.lies_iff shaped').mpr ⟨inside', rfl, rfl⟩)
    rw [lies.get, Heap.cell, growing.kept name stands.known] at made
    cases made.symm.trans read
    exact found
  obtain ⟨data, read, typed₁, cells₁⟩ := stands.toStorage shaped shows
  obtain ⟨data', read', typed₂, cells₂⟩ := here.toStorage shaped' shows'
  have same : data' = data := Storage.ext_cells
    (Option.some.inj (typed₂.symm.trans (typed.trans typed₁)))
    (Array.toList_inj.mp (cells₂.trans cells₁.symm))
  refine ⟨⟨growing.next.trans rewritten.keeps.next, fun other known => ?_⟩, stands'.place, typed,
    ⟨layout, shaped, shaped', ?_⟩, data, read, read'.trans (congrArg Except.ok same)⟩
  · rw [rewritten.storage_eq stands' (known.trans_le growing.next) known.ne, growing.kept other known]
  · rw [rewritten.keeps.size heap.next stands'.known, sized]

end Value

theorem Host.copy_copies {ρ : Type} {state after : HostState ρ} {source answer : Value}
    {name base : Nat} (stands : source.Stands state.heap name base)
    (done : (Kernel.copy source : Host ρ Value) state = .ok answer after) :
    source.Copied answer state.heap after.heap := by
  obtain ⟨layout, _, ready, done⟩ := bind_ok.mp done
  obtain ⟨ready', rfl⟩ := ofExcept_ok.mp ready
  obtain ⟨dtype, _, typed, done⟩ := bind_ok.mp done
  obtain ⟨typed', rfl⟩ := ofExcept_ok.mp typed
  obtain ⟨target, entered, allocated, done⟩ := bind_ok.mp done
  obtain ⟨_, last, assigned, done⟩ := bind_ok.mp done
  obtain ⟨rfl, rfl⟩ := pure_ok.mp done
  have shaped := stands.ready_iff.mp ready'
  change (onHeap (Value.allocate dtype layout.compact) : Host ρ Value) state = _ at allocated
  obtain ⟨heap, made, rfl⟩ := onHeap_ok.mp allocated
  have built := (stands.fits layout shaped).1.compact
  obtain ⟨stands', -⟩ := Value.stands_of_allocate built made
  have growing : state.heap.Grows heap := by
    cases made
    exact .add _ _
  have separate : target.Separate source := .of_places stands'.place stands.place stands.known.ne'
  have rewritten := assign_rewrites (stands' : target.Stands (onto state heap).heap _ _)
    (stands.keeps (.of_grows growing)) separate assigned
  cases made
  refine Value.copied_of_rewritten stands shaped stands' rfl (Value.dtype_ok.mp typed').symm ?_
    growing rewritten
  rw [Heap.storage_add_self, Storage.size_zeros, Layout.compact, Layout.memorySize_packed,
    Layout.elementCount_logicalSizes]

/-! ### Values that were reached -/

/-- The run fails with the cause and has changed nothing. -/
def Host.Refuses {ρ α : Type} (run : Host ρ α) (state : HostState ρ) (cause : Error) : Prop :=
  run state = .error (.error cause) state

namespace Value

variable {ρ : Type} {values : List Value} {target source : Value}

/-- What the elementwise kernels make of a target, a source and a scalar. -/
structure Pointwise (state : HostState ρ) (values : List Value) (target source : Value) : Prop where
  elementwise : target.Separate source → ∀ op after,
    (Kernel.elementwise target source op : Host ρ Unit) state = .ok () after →
      target.Rewritten (fun coordinates element => ∃ first second,
        target.get coordinates state.heap = .ok first ∧
          source.get coordinates state.heap = .ok second ∧ first.binary op second = .ok element)
        Set.univ state.heap after.heap
  assign : target.Separate source → ∀ after,
    (Kernel.assign target source : Host ρ Unit) state = .ok () after →
      target.Rewritten (fun coordinates element => source.get coordinates state.heap = .ok element)
        Set.univ state.heap after.heap
  elementwiseScalar : ∀ (scalar : Scalar), scalar.value ∈ values →
    (∀ coordinates name index, target.Lies coordinates name index →
      ¬ scalar.value.Lies [] name index) → ∀ op after,
        (Kernel.elementwiseScalar target scalar op : Host ρ Unit) state = .ok () after →
          target.Rewritten (fun coordinates element => ∃ first second,
            target.get coordinates state.heap = .ok first ∧
              Host.literal scalar.value state.heap = .ok second ∧
                first.binary op second = .ok element) Set.univ state.heap after.heap
  mapUnary : ∀ op after, (Kernel.mapUnary target op : Host ρ Unit) state = .ok () after →
    target.Rewritten (fun coordinates element => ∃ first,
      target.get coordinates state.heap = .ok first ∧ first.unary op = .ok element)
      Set.univ state.heap after.heap
  fill : ∀ (scalar : Scalar), scalar.value ∈ values → ∀ after,
    (Kernel.fill target scalar : Host ρ Unit) state = .ok () after →
      target.Rewritten (fun _ element => Host.literal scalar.value state.heap = .ok element)
        Set.univ state.heap after.heap
  copy : ∀ answer after, (Kernel.copy source : Host ρ Value) state = .ok answer after →
    source.Copied answer state.heap after.heap
  /-- Other sizes are refused before anything else is looked at. -/
  sizes : ∀ layout shape, target.layout? = some layout → source.layout? = some shape →
    layout.logicalSizes ≠ shape.logicalSizes →
      (∀ op, Host.Refuses (Kernel.elementwise target source op : Host ρ Unit) state
        (.sizeMismatch layout.logicalSizes shape.logicalSizes)) ∧
      Host.Refuses (Kernel.assign target source : Host ρ Unit) state
        (.sizeMismatch layout.logicalSizes shape.logicalSizes)
  types : ∀ layout shape, target.layout? = some layout → source.layout? = some shape →
    layout.logicalSizes = shape.logicalSizes → ∀ dtype dtype', target.dtype? = some dtype →
      source.dtype? = some dtype' → dtype ≠ dtype' →
        (∀ op, Host.Refuses (Kernel.elementwise target source op : Host ρ Unit) state
          (.dtypes dtype dtype')) ∧
        Host.Refuses (Kernel.assign target source : Host ρ Unit) state (.dtypes dtype dtype')

/-- Elementwise kernels on values that were made replace each element of the target by the one
that is made of the old elements at its coordinates, and no other cell of host memory. -/
theorem Reached.kernels_pointwise {state : HostState ρ} (reached : Reached state.heap values)
    (member : target ∈ values) (member' : source ∈ values) :
    Pointwise state values target source := by
  obtain ⟨name, base, stands⟩ := reached.stands target member
  obtain ⟨name', base', stands'⟩ := reached.stands source member'
  have refused : ∀ cause, Kernel.checkCompatible target source = .error cause →
      (∀ op, Host.Refuses (Kernel.elementwise target source op : Host ρ Unit) state cause) ∧
        Host.Refuses (Kernel.assign target source : Host ρ Unit) state cause := by
    intro cause failed
    have stopped : Host.Refuses (Kernel.ofExcept (Kernel.checkCompatible target source) :
        Host ρ Unit) state cause := Host.ofExcept_error.mpr ⟨cause, failed, rfl, rfl⟩
    exact ⟨fun op => Action.bind_of_error stopped, Action.bind_of_error stopped⟩
  constructor
  · exact fun separate op after done => Host.elementwise_rewrites stands stands' separate done
  · exact fun separate after done => Host.assign_rewrites stands stands' separate done
  · intro scalar known apart op after done
    obtain ⟨_, _, stands''⟩ := reached.stands scalar.value known
    exact Host.elementwiseScalar_rewrites stands stands'' apart done
  · exact fun op after done => Host.mapUnary_rewrites stands done
  · intro scalar known after done
    obtain ⟨_, _, stands''⟩ := reached.stands scalar.value known
    exact Host.fill_rewrites stands stands'' done
  · exact fun answer after done => Host.copy_copies stands' done
  · intro layout shape shaped shaped' different
    exact refused _ (Host.checkCompatible_sizes (stands.ready_iff.mpr shaped)
      (stands'.ready_iff.mpr shaped') different)
  · intro layout shape shaped shaped' same dtype dtype' typed typed' different
    exact refused _ (Host.checkCompatible_types (stands.ready_iff.mpr shaped)
      (stands'.ready_iff.mpr shaped') same (dtype_ok.mpr typed) (dtype_ok.mpr typed') different)

/-- A packed row added to one behind padding, in place. -/
theorem Reached.kernels_pointwise_padded : ∃ (state after : HostState Unit)
    (target source : Value), Reached state.heap [source, target] ∧
      (Kernel.elementwise target source .add : Host Unit Unit) state = .ok () after ∧
        (after.heap.storage 0).cells.toList = [1, 12, 23].map Literal.i32 ∧
          target.Rewritten (fun coordinates element => ∃ first second,
            target.get coordinates state.heap = .ok first ∧
              source.get coordinates state.heap = .ok second ∧
                first.binary .add second = .ok element) Set.univ state.heap after.heap := by
  have made : ∃ (layout : Layout) (data data' : Storage) (heap heap' : Heap)
      (target source : Value) (after : HostState Unit),
      Layout.padded [2] [3] [1] = .ok layout ∧
        Storage.ofLiterals? .i32 #[.i32 1, .i32 2, .i32 3] = some data ∧
          Storage.ofLiterals? .i32 #[.i32 10, .i32 20] = some data' ∧
            Value.ofStorage data layout Heap.empty = .ok target heap ∧
              Value.ofStorage data' (Layout.packed [2]) heap = .ok source heap' ∧
                target.place = .host 0 0 ∧ source.place = .host 1 0 ∧
                  (Kernel.elementwise target source .add : Host Unit Unit) ⟨heap', 0, ()⟩ =
                    .ok () after ∧
                  (after.heap.storage 0).cells.toList = [1, 12, 23].map Literal.i32 :=
    ⟨_, _, _, _, _, _, _, _, rfl, rfl, rfl, rfl, rfl, rfl, rfl, rfl, rfl⟩
  obtain ⟨layout, data, data', heap, heap', target, source, after, padded, -, -, stored, stored',
    place, place', done, cells⟩ := made
  have reached : Reached heap' [source, target] :=
    .stored (.stored .start data (.padded padded) stored) data' (.packed _) stored'
  have separate : target.Separate source := .of_places place place' Nat.zero_ne_one
  exact ⟨⟨heap', 0, ()⟩, after, target, source, reached, done, cells,
    (Reached.kernels_pointwise reached (by simp) (by simp)).elementwise separate .add after done⟩

end Value
end TensorGraph

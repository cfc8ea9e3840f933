/-
Access to host values.

The active positions of a layout are pairwise distinct and inside its span.  So
a value that fits its storage is read without an error, writing its active
elements cannot fail half way, and what was written is what is read.

Each active element of a host value is one cell of a storage, and no two are the
same one.  What is known of a value through another one that shares its storage
is known through these cells.
-/

import TensorGraph.Proofs.Layout.Views
import TensorGraph.Proofs.Value.Handles

namespace TensorGraph

/-! ### Reading -/

namespace Storage

variable {source target : Storage} {index : Nat} {element : Literal}

theorem cells_set {after : Storage} (changed : target.set index element = .ok after) :
    after.cells.toList = target.cells.toList.set index element := by
  unfold Storage.set at changed
  split at changed
  · split at changed
    · cases changed
      simp only [Array.toList_set]
    · cases changed
  · cases changed

theorem cell_set {after : Storage} (changed : target.set index element = .ok after)
    (within : index < target.size) : after.cells[index]? = some element := by
  rw [← Array.getElem?_toList, cells_set changed, List.getElem?_set_self]
  exact within

theorem cell_set_of_ne {after : Storage} (changed : target.set index element = .ok after)
    {other : Nat} (different : other ≠ index) : after.cells[other]? = target.cells[other]? := by
  rw [← Array.getElem?_toList, cells_set changed, List.getElem?_set_ne different.symm,
    Array.getElem?_toList]

/-- Elements that can be read are gathered behind those that were gathered before. -/
theorem gather_ok {places : List Nat} {front elements back : List Literal}
    (read : List.Forall₂ (fun place element => source.get place = .ok element) places elements)
    (typed : target.dtype = source.dtype) (cells : target.cells.toList = front ++ back)
    (room : back.length = places.length) :
    ∃ gathered, source.gather front.length places target = .ok gathered ∧
      gathered.dtype = source.dtype ∧ gathered.cells.toList = front ++ elements := by
  induction read generalizing target front back with
  | nil =>
      rw [List.length_eq_zero_iff.mp room] at cells
      exact ⟨target, rfl, typed, cells⟩
  | @cons place element places elements found _ inductionHypothesis =>
      obtain ⟨old, back, rfl⟩ := List.exists_cons_of_length_eq_add_one room
      have within : front.length < target.size := by
        have counted := congrArg List.length cells
        rw [Array.length_toList, List.length_append, List.length_cons] at counted
        rw [Storage.size, counted]
        omega
      obtain ⟨changed, set⟩ := set_done within ((dtype_of_get found).trans typed.symm)
      have kept := (set_keeps set).1.trans typed
      have cells' : changed.cells.toList = (front ++ [element]) ++ back := by
        rw [cells_set set, cells, List.set_append_right _ _ (Nat.le_refl _), Nat.sub_self,
          List.set_cons_zero, List.append_assoc, List.singleton_append]
      obtain ⟨gathered, done, sameType, gatheredCells⟩ :=
        inductionHypothesis kept cells' (Nat.succ.inj room)
      rw [List.length_append, List.length_singleton] at done
      refine ⟨gathered, ?_, sameType, ?_⟩
      · simp only [gather, found, set, bind, Except.bind]
        exact done
      · rw [gatheredCells, List.append_assoc, List.singleton_append]

end Storage

/-! ### Writing -/

/-- Some cells of a storage were written, and no other cell of any storage was. -/
structure Heap.Written (heap after : Heap) (name base : Nat) (cells : List (Nat × Literal)) :
    Prop where
  keeps : heap.Keeps after
  others : ∀ other ≠ name, after.storage other = heap.storage other
  beside : ∀ index, (∀ cell ∈ cells, index ≠ base + cell.1) →
    (after.storage name).cells[index]? = (heap.storage name).cells[index]?
  written : ∀ cell ∈ cells, (after.storage name).cells[base + cell.1]? = some cell.2

namespace Heap

variable {heap middle after : Heap} {name base : Nat} {cell : Nat × Literal}
  {cells : List (Nat × Literal)}

theorem Written.refl (heap : Heap) (name base : Nat) : heap.Written heap name base [] :=
  ⟨.refl heap, fun _ _ => rfl, fun _ _ => rfl, by simp⟩

/-- A cell that is not written again keeps what was written to it. -/
theorem Written.cons (one : heap.Written middle name base [cell])
    (two : middle.Written after name base cells) (fresh : cell.1 ∉ cells.map Prod.fst) :
    heap.Written after name base (cell :: cells) where
  keeps := one.keeps.trans two.keeps
  others := fun other different =>
    (two.others other different).trans (one.others other different)
  beside := by
    intro index apart
    obtain ⟨first, rest⟩ := List.forall_mem_cons.mp apart
    exact (two.beside index rest).trans (one.beside index (by simpa using first))
  written := by
    have untouched : ∀ other ∈ cells, base + cell.1 ≠ base + other.1 := by
      intro other member same
      exact fresh (Nat.add_left_cancel same ▸ List.mem_map_of_mem member)
    refine List.forall_mem_cons.mpr ⟨?_, two.written⟩
    exact (two.beside _ untouched).trans (one.written cell List.mem_cons_self)

theorem setCell_written (known : name < heap.next)
    (inside : base + cell.1 < (heap.storage name).size)
    (typed : cell.2.dtype = (heap.storage name).dtype) :
    ∃ after, Heap.setCell name (base + cell.1) cell.2 heap = .ok () after ∧
      heap.Written after name base [cell] := by
  obtain ⟨storage, changed⟩ := Storage.set_done inside typed
  obtain ⟨sameType, sameSize⟩ := Storage.set_keeps changed
  refine ⟨heap.replace name storage, ?_, .replace sameType sameSize, ?_, ?_, ?_⟩
  · simp only [Heap.setCell, Heap.update, changed]
  · exact fun other different => storage_replace_of_ne different storage
  · intro index apart
    rw [storage_replace_self known]
    exact Storage.cell_set_of_ne changed (apart cell List.mem_cons_self)
  · rw [storage_replace_self known]
    simpa using Storage.cell_set changed inside

/-- Cells at distinct positions of a storage are all written. -/
theorem setCells_written (known : name < heap.next)
    (inside : ∀ cell ∈ cells, base + cell.1 < (heap.storage name).size)
    (typed : ∀ cell ∈ cells, cell.2.dtype = (heap.storage name).dtype)
    (distinct : (cells.map Prod.fst).Nodup) :
    ∃ after, Heap.setCells name base cells heap = .ok () after ∧
      heap.Written after name base cells := by
  induction cells generalizing heap with
  | nil => exact ⟨heap, rfl, .refl heap name base⟩
  | cons cell cells inductionHypothesis =>
      obtain ⟨within, inside⟩ := List.forall_mem_cons.mp inside
      obtain ⟨sameType, typed⟩ := List.forall_mem_cons.mp typed
      obtain ⟨fresh, distinct⟩ := List.nodup_cons.mp distinct
      obtain ⟨middle, done, one⟩ := setCell_written known within sameType
      rw [← one.keeps.size name known] at inside
      rw [← one.keeps.dtype name known] at typed
      obtain ⟨after, rest, two⟩ :=
        inductionHypothesis (known.trans_le one.keeps.next) inside typed distinct
      exact ⟨after, (Action.bind_of_ok done).trans rest, one.cons two fresh⟩

end Heap

/-! ### Values -/

namespace Value

variable {value : Value} {heap after : Heap} {name base : Nat} {layout : Layout}

theorem Stands.host (stands : value.Stands heap name base) : value.host = .ok (name, base) := by
  rw [Value.host, stands.place]

theorem dtype_ok {dtype : DType} : value.dtype = .ok dtype ↔ value.dtype? = some dtype := by
  rw [Value.dtype]
  cases value.dtype? with
  | none => exact ⟨nofun, nofun⟩
  | some known => rw [Except.ok.injEq, Option.some.injEq]

theorem Stands.ready_iff (stands : value.Stands heap name base) :
    value.ready = .ok layout ↔ value.layout? = some layout := by
  have isDefined : value.isDefined = true := by
    rw [Value.isDefined, stands.typed, stands.place]
    rfl
  rw [Value.ready, if_pos isDefined, Value.layout]
  cases value.layout? with
  | none => exact ⟨nofun, nofun⟩
  | some shape => rw [Except.ok.injEq, Option.some.injEq]

theorem Stands.inside (stands : value.Stands heap name base) (shaped : value.layout? = some layout)
    {position : Nat} (member : position ∈ layout.positions) :
    base + position < (heap.storage name).size := by
  have below := Layout.lt_span_of_mem_positions member
  have fits := (stands.fits layout shaped).2
  omega

/-- The elements that a layout shows of a storage, in order. -/
def Shows (heap : Heap) (name base : Nat) (layout : Layout) (elements : List Literal) : Prop :=
  List.Forall₂ (fun position element => heap.cell name (base + position) = .ok element)
    layout.positions elements

theorem Stands.shows (stands : value.Stands heap name base)
    (shaped : value.layout? = some layout) :
    ∃ elements, Shows heap name base layout elements := by
  have found : ∀ position ∈ layout.positions,
      ∃ element, heap.cell name (base + position) = .ok element :=
    fun position member => Storage.exists_get (stands.inside shaped member)
  have : Nonempty Literal := ⟨.zero .bool⟩
  choose! element shown using found
  exact ⟨layout.positions.map element,
    List.forall₂_map_right_iff.mpr (List.forall₂_same.mpr shown)⟩

/-- What was written to the active positions is what they show. -/
theorem shows_of_written {elements : List Literal}
    (counted : elements.length = layout.elementCount)
    (written : heap.Written after name base (layout.positions.zip elements)) :
    Shows after name base layout elements := by
  have same : layout.positions.length = elements.length :=
    layout.length_positions.trans counted.symm
  refine List.forall₂_iff_zip.mpr ⟨same, fun {position element} member => ?_⟩
  exact Storage.get_eq_ok.mpr (written.written (position, element) member)

/-! ### Reading a value -/

theorem Stands.literals (stands : value.Stands heap name base)
    (shaped : value.layout? = some layout) {elements : List Literal}
    (shows : Shows heap name base layout elements) : value.literals heap = .ok elements := by
  simp only [Value.literals, stands.ready_iff.mpr shaped, stands.host, bind, Except.bind]
  exact mapM_forall₂.mpr shows

theorem Stands.toStorage (stands : value.Stands heap name base)
    (shaped : value.layout? = some layout) {elements : List Literal}
    (shows : Shows heap name base layout elements) :
    ∃ storage, value.toStorage heap = .ok storage ∧ value.dtype? = some storage.dtype ∧
      storage.cells.toList = elements := by
  let fresh := Storage.zeros (heap.storage name).dtype layout.elementCount
  have zeros : fresh.cells.toList = [] ++
      List.replicate layout.elementCount (.zero (heap.storage name).dtype) :=
    Array.toList_replicate
  have sameType : fresh.dtype = (heap.storage name).dtype := rfl
  have room : (List.replicate layout.elementCount
      (Literal.zero (heap.storage name).dtype)).length =
        (layout.positions.map (base + ·)).length := by
    rw [List.length_replicate, List.length_map, layout.length_positions]
  obtain ⟨storage, done, typed, cells⟩ :=
    Storage.gather_ok (List.forall₂_map_left_iff.mpr shows) sameType zeros room
  refine ⟨storage, ?_, ?_, cells⟩
  · simp only [Value.toStorage, stands.ready_iff.mpr shaped, stands.host, bind, Except.bind]
    exact done
  · rw [typed]
    exact stands.typed

/-! ### Writing a value -/

/-- As many elements of the type as there are active positions are written one after the
other, and none of the writes fails. -/
theorem Stands.overwrite (stands : value.Stands heap name base)
    (shaped : value.layout? = some layout) {elements : List Literal}
    (counted : elements.length = layout.elementCount)
    (typed : ∀ element ∈ elements, element.dtype = (heap.storage name).dtype) :
    ∃ after, value.overwrite layout elements heap = .ok () after ∧
      heap.Written after name base (layout.positions.zip elements) := by
  have same : layout.positions.length ≤ elements.length :=
    (layout.length_positions.trans counted.symm).le
  have distinct : ((layout.positions.zip elements).map Prod.fst).Nodup := by
    rw [List.map_fst_zip same]
    exact (stands.fits layout shaped).1.spaced.nodup_positions
  obtain ⟨after, done, written⟩ := Heap.setCells_written stands.known
    (fun cell member => stands.inside shaped (List.of_mem_zip member).1)
    (fun cell member => typed cell.2 (List.of_mem_zip member).2) distinct
  refine ⟨after, ?_, written⟩
  simp only [Value.overwrite, stands.host]
  exact done

theorem checkCount_ok {count : Nat} :
    checkCount layout count = .ok () ↔ count = layout.elementCount := by
  unfold checkCount
  split
  · rename_i counted
    exact iff_of_true rfl counted
  · rename_i uncounted
    exact iff_of_false nofun uncounted

theorem checkCount_cases (layout : Layout) (count : Nat) :
    count = layout.elementCount ∨ ∃ cause, checkCount layout count = .error cause := by
  cases checked : checkCount layout count with
  | ok _ => exact .inl (checkCount_ok.mp checked)
  | error cause => exact .inr ⟨cause, rfl⟩

theorem copyFromStorage_eq {data : Storage} (heap : Heap) (ready : value.ready = .ok layout)
    (typed : value.dtype = .ok data.dtype) (counted : data.size = layout.elementCount) :
    value.copyFromStorage data heap = value.overwrite layout data.cells.toList heap := by
  refine (Action.bind_of_ok (Action.ofExcept_ok.mpr ⟨ready, rfl⟩)).trans ?_
  refine (Action.bind_of_ok (Action.ofExcept_ok.mpr ⟨typed, rfl⟩)).trans ?_
  dsimp only
  rw [if_neg (not_not.mpr rfl)]
  exact Action.bind_of_ok (Action.ofExcept_ok.mpr ⟨checkCount_ok.mpr counted, rfl⟩)

/-- What is refused is refused before anything is written. -/
theorem copyFromStorage_cases (value : Value) (data : Storage) (heap : Heap) :
    (∃ layout, value.ready = .ok layout ∧ value.dtype = .ok data.dtype ∧
      data.size = layout.elementCount) ∨
    ∃ cause, value.copyFromStorage data heap = .error (.error cause) heap := by
  cases ready : value.ready with
  | error cause =>
      exact .inr ⟨cause, Action.bind_of_error (Action.ofExcept_error.mpr ⟨cause, ready, rfl, rfl⟩)⟩
  | ok layout =>
      have first := Action.ofExcept_ok.mpr ⟨ready, Eq.refl heap⟩
      cases typed : value.dtype with
      | error cause =>
          exact .inr ⟨cause, (Action.bind_of_ok first).trans
            (Action.bind_of_error (Action.ofExcept_error.mpr ⟨cause, typed, rfl, rfl⟩))⟩
      | ok dtype =>
          have second := Action.ofExcept_ok.mpr ⟨typed, Eq.refl heap⟩
          have begun : value.copyFromStorage data heap = _ :=
            (Action.bind_of_ok first).trans (Action.bind_of_ok second)
          dsimp only at begun
          split at begun
          · exact .inr ⟨_, begun.trans (Action.bind_of_error rfl)⟩
          · rename_i same
            rcases checkCount_cases layout data.size with counted | ⟨cause, refused⟩
            · exact .inl ⟨layout, rfl, congrArg Except.ok (not_not.mp same).symm, counted⟩
            · exact .inr ⟨cause, begun.trans
                (Action.bind_of_error (Action.ofExcept_error.mpr ⟨cause, refused, rfl, rfl⟩))⟩

theorem copyFromFloats_eq {dtype : DType} {data : List Float} (heap : Heap)
    (ready : value.ready = .ok layout) (counted : data.length = layout.elementCount)
    (typed : value.dtype = .ok dtype) :
    value.copyFromFloats data heap =
      value.overwrite layout (data.map (Literal.ofFloat dtype)) heap := by
  refine (Action.bind_of_ok (Action.ofExcept_ok.mpr ⟨ready, rfl⟩)).trans ?_
  refine (Action.bind_of_ok (Action.ofExcept_ok.mpr ⟨checkCount_ok.mpr counted, rfl⟩)).trans ?_
  exact Action.bind_of_ok (Action.ofExcept_ok.mpr ⟨typed, rfl⟩)

theorem Stands.dtype (stands : value.Stands heap name base) :
    value.dtype = .ok (heap.storage name).dtype := by
  rw [Value.dtype, stands.typed]

theorem Stands.copyFromStorage (stands : value.Stands heap name base)
    (shaped : value.layout? = some layout) {data : Storage}
    (typed : value.dtype? = some data.dtype) (counted : data.size = layout.elementCount) :
    ∃ after, value.copyFromStorage data heap = .ok () after ∧
      heap.Written after name base (layout.positions.zip data.cells.toList) := by
  have sameType : (heap.storage name).dtype = data.dtype :=
    Option.some.inj (stands.typed.symm.trans typed)
  obtain ⟨after, done, written⟩ := stands.overwrite shaped (Array.length_toList.trans counted)
    fun element member => (data.typed element (Array.mem_toList_iff.mp member)).trans sameType.symm
  have eq := copyFromStorage_eq heap (stands.ready_iff.mpr shaped)
    (stands.dtype.trans (congrArg Except.ok sameType)) counted
  exact ⟨after, eq.trans done, written⟩

theorem Stands.copyFromStorage_ok_iff (stands : value.Stands heap name base)
    (shaped : value.layout? = some layout) {data : Storage} :
    (∃ after, value.copyFromStorage data heap = .ok () after) ↔
      value.dtype? = some data.dtype ∧ data.size = layout.elementCount := by
  constructor
  · rintro ⟨after, done⟩
    rcases copyFromStorage_cases value data heap with accepted | ⟨cause, refused⟩
    · obtain ⟨shape, ready, typed, counted⟩ := accepted
      cases shaped.symm.trans (stands.ready_iff.mp ready)
      have sameType := Except.ok.inj (stands.dtype.symm.trans typed)
      exact ⟨stands.typed.trans (congrArg some sameType), counted⟩
    · rw [refused] at done
      cases done
  · rintro ⟨typed, counted⟩
    obtain ⟨after, done, _⟩ := stands.copyFromStorage shaped typed counted
    exact ⟨after, done⟩

theorem Stands.copyFromFloats (stands : value.Stands heap name base)
    (shaped : value.layout? = some layout) {data : List Float}
    (counted : data.length = layout.elementCount) :
    ∃ after, value.copyFromFloats data heap = .ok () after ∧
      heap.Written after name base
        (layout.positions.zip (data.map (Literal.ofFloat (heap.storage name).dtype))) := by
  obtain ⟨after, done, written⟩ := stands.overwrite shaped ((data.length_map _).trans counted)
    (List.forall_mem_map.mpr fun number _ =>
      Literal.dtype_ofFloat (heap.storage name).dtype number)
  have eq := copyFromFloats_eq heap (stands.ready_iff.mpr shaped) counted stands.dtype
  exact ⟨after, eq.trans done, written⟩

/-! ### Values that were reached -/

/-- What bulk access does with a value in a layout. -/
structure Exact (value : Value) (heap : Heap) (name base : Nat) (layout : Layout) : Prop where
  /-- The value is read in every form, and each form holds what the layout shows. -/
  read : ∃ data, value.toStorage heap = .ok data ∧
    Shows heap name base layout data.cells.toList ∧
    (∀ dtype, value.toElements dtype heap =
      .ok (data.cells.toList.map fun element => element.cast dtype)) ∧
    value.toFloats heap = .ok (data.cells.toList.map Literal.toFloat)
  accepts : ∀ data, (∃ after, value.copyFromStorage data heap = .ok () after) ↔
    value.dtype? = some data.dtype ∧ data.size = layout.elementCount
  copied : ∀ data after, value.copyFromStorage data heap = .ok () after →
    value.toStorage after = .ok data ∧
      heap.Written after name base (layout.positions.zip data.cells.toList)

theorem Stands.exact (stands : value.Stands heap name base)
    (shaped : value.layout? = some layout) : value.Exact heap name base layout where
  read := by
    obtain ⟨elements, shows⟩ := stands.shows shaped
    obtain ⟨data, read, _, rfl⟩ := stands.toStorage shaped shows
    have listed := stands.literals shaped shows
    refine ⟨data, read, shows, fun dtype => ?_, ?_⟩
    · rw [Value.toElements, listed]
      rfl
    · rw [Value.toFloats, listed]
      rfl
  accepts := fun _ => stands.copyFromStorage_ok_iff shaped
  copied := by
    intro data after done
    obtain ⟨typed, counted⟩ := (stands.copyFromStorage_ok_iff shaped).mp ⟨after, done⟩
    obtain ⟨final, done', written⟩ := stands.copyFromStorage shaped typed counted
    cases done.symm.trans done'
    have shows := shows_of_written (Array.length_toList.trans counted) written
    obtain ⟨storage, read, typed', cells⟩ :=
      (stands.keeps written.keeps).toStorage shaped shows
    have same : storage = data :=
      Storage.ext_cells (Option.some.inj (typed'.symm.trans typed)) (Array.toList_inj.mp cells)
    exact ⟨read.trans (congrArg Except.ok same), written⟩

end Value
namespace Heap

variable {heap after : Heap} {name index : Nat} {element : Literal}

/-- Only storages of the heap have cells. -/
theorem known_of_cell (found : (heap.storage name).cells[index]? = some element) :
    name < heap.next := by
  by_contra unknown
  have outside : heap.storages.size ≤ name := Nat.le_of_not_lt unknown
  have empty : heap.storage name = default := by
    rw [Heap.storage, Array.getD_eq_getD_getElem?, Array.getElem?_eq_none outside]
    rfl
  rw [empty] at found
  cases found

theorem cell_eq_ok : heap.cell name index = .ok element ↔
    (heap.storage name).cells[index]? = some element :=
  Storage.get_eq_ok

/-- What a write that was done has written. -/
theorem written_of_setCell (known : name < heap.next)
    (done : Heap.setCell name index element heap = .ok () after) :
    heap.Written after name index [(0, element)] := by
  obtain ⟨within, typed⟩ : index < (heap.storage name).size ∧
      element.dtype = (heap.storage name).dtype := by
    simp only [Heap.setCell, Heap.update, Storage.set] at done
    split at done
    · rename_i changed
      split at changed
      · split at changed
        · exact ⟨‹_›, ‹_›⟩
        · cases changed
      · cases changed
    · cases done
  let cell : Nat × Literal := (0, element)
  have within : index + cell.1 < (heap.storage name).size := within
  have typed : cell.2.dtype = (heap.storage name).dtype := typed
  obtain ⟨final, done', written⟩ := setCell_written known within typed
  cases done.symm.trans done'
  exact written

end Heap

namespace Value

variable {value view : Value} {heap after : Heap} {name base index : Nat} {layout : Layout}
  {coordinates other : List Nat} {element : Literal}

/-- The active element at some coordinates is a cell of a storage. -/
def Lies (value : Value) (coordinates : List Nat) (name index : Nat) : Prop :=
  ∃ layout base, value.layout? = some layout ∧ value.place = .host name base ∧
    layout.Inside coordinates ∧ index = base + layout.place coordinates

theorem Lies.shaped (lies : value.Lies coordinates name index) :
    ∃ layout, value.layout? = some layout := by
  obtain ⟨layout, _, shaped, -⟩ := lies
  exact ⟨layout, shaped⟩

theorem Lies.unique {name' index' : Nat} (lies : value.Lies coordinates name index)
    (lies' : value.Lies coordinates name' index') : name' = name ∧ index' = index := by
  obtain ⟨layout, base, shaped, place, -, rfl⟩ := lies
  obtain ⟨layout', base', shaped', place', -, rfl⟩ := lies'
  cases shaped.symm.trans shaped'
  cases place.symm.trans place'
  exact ⟨rfl, rfl⟩

namespace Stands

theorem lies_iff (stands : value.Stands heap name base) (shaped : value.layout? = some layout)
    {storage : Nat} : value.Lies coordinates storage index ↔
      layout.Inside coordinates ∧ storage = name ∧ index = base + layout.place coordinates := by
  constructor
  · rintro ⟨layout', base', shaped', place, inside, rfl⟩
    cases shaped.symm.trans shaped'
    cases stands.place.symm.trans place
    exact ⟨inside, rfl, rfl⟩
  · rintro ⟨inside, rfl, rfl⟩
    exact ⟨layout, base, shaped, stands.place, inside, rfl⟩

/-- Different elements are different cells. -/
theorem lies_inj (stands : value.Stands heap name base) {storage : Nat}
    (lies : value.Lies coordinates storage index) (lies' : value.Lies other storage index) :
    coordinates = other := by
  obtain ⟨layout, shaped⟩ := lies.shaped
  have spaced := (stands.fits layout shaped).1.spaced
  obtain ⟨inside, -, same⟩ := (stands.lies_iff shaped).mp lies
  obtain ⟨inside', -, same'⟩ := (stands.lies_iff shaped).mp lies'
  exact spaced.place_inj inside inside' (Nat.add_left_cancel (same.symm.trans same'))

/-- Every element is a cell that is there. -/
theorem lies_lt (stands : value.Stands heap name base) {storage : Nat}
    (lies : value.Lies coordinates storage index) :
    storage = name ∧ index < (heap.storage name).size := by
  obtain ⟨layout, shaped⟩ := lies.shaped
  obtain ⟨inside, rfl, rfl⟩ := (stands.lies_iff shaped).mp lies
  have below := inside.place_lt
  have room := (stands.fits layout shaped).2
  exact ⟨rfl, by omega⟩

end Stands

theorem Lies.get (lies : value.Lies coordinates name index) (heap : Heap) :
    value.get coordinates heap = heap.cell name index := by
  obtain ⟨layout, base, shaped, place, inside, rfl⟩ := lies
  simp only [Value.get, Value.layout, shaped, inside.flatOffset, getFlat, Value.host, place, bind,
    Except.bind]

theorem Lies.set (lies : value.Lies coordinates name index) (element : Literal) :
    value.set coordinates element = Heap.setCell name index element := by
  obtain ⟨layout, base, shaped, place, inside, rfl⟩ := lies
  simp only [Value.set, Value.layout, shaped, setFlat, Value.host, place]
  change (Action.ofExcept (layout.flatOffset coordinates) >>= fun position =>
    Heap.setCell name (base + position) element) = _
  rw [inside.flatOffset]
  rfl

/-! ### One element overwritten -/

/-- One active element of a value was overwritten, and no other cell of host memory was. -/
structure Overwritten (value : Value) (heap after : Heap) (coordinates : List Nat)
    (element : Literal) : Prop where
  keeps : heap.Keeps after
  new : value.get coordinates after = .ok element
  /-- The other active elements read as before. -/
  others : ∀ other name index, value.Lies other name index → other ≠ coordinates →
    value.get other after = value.get other heap
  beside : ∀ name index, ¬ value.Lies coordinates name index →
    (after.storage name).cells[index]? = (heap.storage name).cells[index]?

theorem Stands.overwritten (stands : value.Stands heap name base)
    (lies : value.Lies coordinates name index)
    (written : heap.Written after name index [(0, element)]) :
    value.Overwritten heap after coordinates element where
  keeps := written.keeps
  new := by
    rw [lies.get]
    exact Heap.cell_eq_ok.mpr (written.written (0, element) List.mem_cons_self)
  others := by
    intro other storage place lies' different
    obtain ⟨rfl, -⟩ := stands.lies_lt lies'
    have apart : place ≠ index := by
      rintro rfl
      exact different (stands.lies_inj lies' lies)
    have same := written.beside place (by simpa using apart)
    rw [lies'.get, lies'.get]
    cases found : heap.cell storage place with
    | ok old => exact Heap.cell_eq_ok.mpr (same.trans (Heap.cell_eq_ok.mp found))
    | error cause =>
        have within := (stands.lies_lt lies').2
        obtain ⟨old, read⟩ := Storage.exists_get within
        cases found.symm.trans read
  beside := by
    intro storage place apart
    by_cases here : storage = name
    · subst here
      refine written.beside place ?_
      rw [List.forall_mem_singleton]
      rintro rfl
      exact apart lies
    · rw [written.others storage here]

/-- A write of an element of the type succeeds. -/
theorem Stands.set_overwrites (stands : value.Stands heap name base)
    (lies : value.Lies coordinates name index) (typed : value.dtype? = some element.dtype) :
    ∃ after, value.set coordinates element heap = .ok () after ∧
      value.Overwritten heap after coordinates element := by
  let cell : Nat × Literal := (0, element)
  have sameType : cell.2.dtype = (heap.storage name).dtype :=
    Option.some.inj (typed.symm.trans stands.typed)
  have inside : index + cell.1 < (heap.storage name).size := (stands.lies_lt lies).2
  obtain ⟨after, done, written⟩ := Heap.setCell_written stands.known inside sameType
  refine ⟨after, ?_, stands.overwritten lies written⟩
  rw [lies.set]
  exact done

end Value
end TensorGraph

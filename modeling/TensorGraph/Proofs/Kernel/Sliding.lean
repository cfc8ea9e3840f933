/-
Windows that slide.

A block move reads all its elements before it writes the first one, so its
ranges may overlap.  A shift makes three of them.  The vectors that it works on
have no cell in common, so no move changes what a later one reads but where it
is meant to, and what is left is the window without its oldest elements, with
the new ones behind.
-/

import TensorGraph.Kernel.Window
import TensorGraph.Proofs.Kernel.Pointwise
import TensorGraph.Proofs.Kernel.Views

namespace TensorGraph

/-! ### Moves -/

namespace Storage

variable {storage other after : Storage} {source target count : Nat}

/-- A block that is put into a row of cells. -/
theorem cells_overwritten {cells items : Array Literal} (room : target + items.size ≤ cells.size)
    (index : Nat) : (overwritten cells items target)[index]? =
      if target ≤ index ∧ index < target + items.size then items[index - target]?
      else cells[index]? := by
  have front : (cells.extract 0 target).size = target := by
    rw [Array.size_extract]
    omega
  unfold overwritten
  rcases Nat.lt_or_ge index target with before | behind
  · rw [if_neg (by omega), Array.append_assoc, Array.getElem?_append_left (by omega),
      Array.getElem?_extract, if_pos (by omega), Nat.zero_add]
  · rcases Nat.lt_or_ge index (target + items.size) with within | beyond
    · rw [if_pos ⟨behind, within⟩, Array.getElem?_append_left (by rw [Array.size_append]; omega),
        Array.getElem?_append_right (by omega), front]
    · rw [if_neg (by omega), Array.getElem?_append_right (by rw [Array.size_append]; omega),
        Array.size_append, front, Array.getElem?_extract, Nat.min_self]
      have place : target + items.size + (index - (target + items.size)) = index := by omega
      rw [place]
      split
      · rfl
      · exact (Array.getElem?_eq_none (by omega)).symm

/-- A block that was taken from another row of cells. -/
theorem cells_moved {cells others : Array Literal} (read : source + count ≤ others.size)
    (room : target + count ≤ cells.size) (index : Nat) :
    (overwritten cells (others.extract source (source + count)) target)[index]? =
      if target ≤ index ∧ index < target + count then others[source + (index - target)]?
      else cells[index]? := by
  have counted : (others.extract source (source + count)).size = count := by
    rw [Array.size_extract]
    omega
  rw [cells_overwritten (by omega), counted]
  split
  · rw [Array.getElem?_extract, if_pos (by omega)]
  · rfl

end Storage

namespace Heap

variable {heap middle after : Heap} {target start source first count : Nat}

/-- A block was moved, and no other cell was written. -/
structure Moved (heap after : Heap) (target start source first count : Nat) : Prop where
  keeps : heap.Keeps after
  moved : ∀ index < count, (after.storage target).cells[start + index]? =
    (heap.storage source).cells[first + index]?
  beside : ∀ name index, (name = target → ∀ offset < count, index ≠ start + offset) →
    (after.storage name).cells[index]? = (heap.storage name).cells[index]?

theorem Moved.none (heap : Heap) (target start source first : Nat) :
    heap.Moved heap target start source first 0 :=
  ⟨.refl heap, fun _ absurd => (Nat.not_lt_zero _ absurd).elim, fun _ _ _ => rfl⟩

/-- What a storage that takes the place of the target has to hold. -/
theorem moved_of_replaced (known : target < heap.next) {storage : Storage}
    (typed : storage.dtype = (heap.storage target).dtype)
    (sized : storage.size = (heap.storage target).size)
    (cells : ∀ index, storage.cells[index]? =
      if start ≤ index ∧ index < start + count then
        (heap.storage source).cells[first + (index - start)]?
      else (heap.storage target).cells[index]?) :
    heap.Moved (heap.replace target storage) target start source first count := by
  refine ⟨.replace typed sized, fun index below => ?_, fun name index apart => ?_⟩
  · rw [storage_replace_self known, cells, if_pos (by omega), Nat.add_sub_cancel_left]
  · by_cases here : name = target
    · subst here
      rw [storage_replace_self known, cells, if_neg]
      rintro ⟨behind, within⟩
      exact apart rfl (index - start) (by omega) (by omega)
    · rw [storage_replace_of_ne here]

/-- A move between places that are there, of elements of one type. -/
theorem move_moves (known : target < heap.next)
    (typed : (heap.storage source).dtype = (heap.storage target).dtype)
    (read : first + count ≤ (heap.storage source).size)
    (room : start + count ≤ (heap.storage target).size) :
    ∃ after, Heap.move target start source first count heap = .ok () after ∧
      heap.Moved after target start source first count := by
  unfold Heap.move
  split
  · rename_i same
    subst same
    obtain ⟨storage, changed⟩ := Storage.copyWithin_done read room
    obtain ⟨typed', sized⟩ := Storage.copyWithin_keeps changed
    refine ⟨heap.replace target storage, ?_, moved_of_replaced known typed' sized fun index => ?_⟩
    · simp only [Heap.update, changed]
    · unfold Storage.copyWithin at changed
      split at changed
      · cases changed
      · cases changed
        exact Storage.cells_moved read room index
  · obtain ⟨storage, changed⟩ := Storage.copyFrom_done typed read room
    obtain ⟨typed', sized⟩ := Storage.copyFrom_keeps changed
    refine ⟨heap.replace target storage, ?_, moved_of_replaced known typed' sized fun index => ?_⟩
    · refine (Action.bind_of_ok (Action.get_ok.mpr ⟨rfl, rfl⟩)).trans ?_
      simp only [Heap.update, changed]
    · unfold Storage.copyFrom at changed
      rw [dif_pos typed] at changed
      split at changed
      · cases changed
      · cases changed
        exact Storage.cells_moved read room index

end Heap

namespace Host

variable {ρ : Type} {state : HostState ρ} {target source : Value}
  {name base name' base' start first count : Nat}

/-- Moves of values that were placed; when there is nothing to move, no place is looked at. -/
theorem move_yields (placed : target.place = .host name base)
    (placed' : source.place = .host name' base') (known : name < state.heap.next)
    (typed : (state.heap.storage name').dtype = (state.heap.storage name).dtype)
    (read : 0 < count → base' + first + count ≤ (state.heap.storage name').size)
    (room : 0 < count → base + start + count ≤ (state.heap.storage name).size) :
    Yields (Kernel.move target start source first count : Host ρ Unit) state fun _ after =>
      state.heap.Moved after.heap name (base + start) name' (base' + first) count := by
  have here : movable target "destination" = .ok (name, base) := by
    rw [movable, placed]
  have there : movable source "source" = .ok (name', base') := by
    rw [movable, placed']
  refine .behind (ofExcept_ok.mpr ⟨here, rfl⟩) (.behind (ofExcept_ok.mpr ⟨there, rfl⟩) ?_)
  dsimp only
  split
  · rename_i nothing
    subst nothing
    exact .of_done rfl (.none _ _ _ _ _)
  · rename_i some
    have positive := Nat.pos_of_ne_zero some
    obtain ⟨heap, done, moved⟩ := Heap.move_moves known typed (read positive) (room positive)
    exact .behind rfl (.of_done (onHeap_ok.mpr ⟨heap, done, rfl⟩) moved)

end Host

/-! ### Packed vectors -/

namespace Vector

variable {vector target source : Vector} {heap after : Heap} {name first name' first' : Nat}
  {index storage : Nat} {layout : Layout} {coordinates : List Nat} {elements : List Literal}

theorem axes_of_shaped (shaped : vector.value.layout? = some layout) :
    layout.axes = [vector.axis] := by
  have axes := vector.rankOne
  rw [shaped] at axes
  exact Option.some.inj axes

theorem logical_axis (vector : Vector) : vector.axis.logical = 0 := by
  obtain ⟨layout, shaped, rankOne, -⟩ := Host.layout_vector vector
  have member : vector.axis ∈ layout.axes := by
    rw [axes_of_shaped shaped]
    exact List.mem_singleton_self _
  have below := Layout.logical_lt member
  omega

/-- The elements of a packed vector lie one after the other, behind its padding. -/
theorem place_packed (packed : vector.increment = 1) (shaped : vector.value.layout? = some layout)
    (index : Nat) : layout.place [index] = vector.axis.offset + index := by
  have step : vector.axis.increment = 1 := packed
  unfold Layout.place
  rw [axes_of_shaped shaped, List.foldl_cons, List.foldl_nil, vector.logical_axis, step]
  change 0 + (index + vector.axis.offset) * 1 = _
  omega

theorem positions_packed (packed : vector.increment = 1)
    (shaped : vector.value.layout? = some layout) :
    layout.positions = (List.range vector.size).map (vector.axis.offset + ·) := by
  obtain ⟨layout', shaped', -, sizes⟩ := Host.layout_vector vector
  cases shaped.symm.trans shaped'
  rw [Layout.positions_eq, sizes, Layout.rowMajor_single, List.map_map]
  exact List.map_congr_left fun index _ => place_packed packed shaped index

/-- The vector is a row of successive cells of a storage, of which `first` is the first. -/
structure Packed (vector : Vector) (heap : Heap) (name first : Nat) : Prop where
  stands : ∃ base, vector.value.Stands heap name base ∧ first = base + vector.axis.offset
  packed : vector.increment = 1

namespace Packed

theorem typed (row : vector.Packed heap name first) : (heap.storage name).dtype = vector.dtype := by
  obtain ⟨_, stands, -⟩ := row.stands
  exact Option.some.inj (stands.typed.symm.trans vector.typed)

theorem keeps (row : vector.Packed heap name first) (keeps : heap.Keeps after) :
    vector.Packed after name first where
  stands := by
    obtain ⟨base, stands, same⟩ := row.stands
    exact ⟨base, stands.keeps keeps, same⟩
  packed := row.packed

theorem lies_iff (row : vector.Packed heap name first) :
    vector.value.Lies coordinates storage index ↔ ∃ position < vector.size,
      coordinates = [position] ∧ storage = name ∧ index = first + position := by
  obtain ⟨base, stands, rfl⟩ := row.stands
  obtain ⟨layout, shaped, -⟩ := Host.layout_vector vector
  have place := place_packed row.packed shaped
  constructor
  · intro lies
    obtain ⟨position, below, rfl⟩ := Host.vector_coordinates lies
    obtain ⟨-, rfl, rfl⟩ := (stands.lies_iff shaped).mp lies
    exact ⟨position, below, rfl, rfl, by rw [place, Nat.add_assoc]⟩
  · rintro ⟨position, below, rfl, rfl, rfl⟩
    exact (stands.lies_iff shaped).mpr
      ⟨Host.vector_inside shaped below, rfl, by rw [place, Nat.add_assoc]⟩

theorem lies (row : vector.Packed heap name first) {position : Nat}
    (below : position < vector.size) :
    vector.value.Lies [position] name (first + position) :=
  row.lies_iff.mpr ⟨position, below, rfl, rfl, rfl⟩

/-- A part of the row is in the storage. -/
theorem fits (row : vector.Packed heap name first) {start count : Nat}
    (within : start + count ≤ vector.size) (some : 0 < count) :
    first + start + count ≤ (heap.storage name).size := by
  obtain ⟨_, stands, -⟩ := row.stands
  have below : start + count - 1 < vector.size := by omega
  have last := (stands.lies_lt (row.lies below)).2
  omega

/-- What the row shows is what stands in its cells. -/
theorem literals_iff (row : vector.Packed heap name first) :
    vector.value.literals heap = .ok elements ↔ elements.length = vector.size ∧
      ∀ position < vector.size,
        (heap.storage name).cells[first + position]? = elements[position]? := by
  obtain ⟨base, stands, rfl⟩ := row.stands
  obtain ⟨layout, shaped, -⟩ := Host.layout_vector vector
  simp only [Value.literals, stands.ready_iff.mpr shaped, stands.host, bind, Except.bind]
  rw [mapM_forall₂, positions_packed row.packed shaped, List.forall₂_map_left_iff]
  constructor
  · intro read
    have counted := read.length_eq
    rw [List.length_range] at counted
    refine ⟨counted.symm, fun position below => ?_⟩
    have here := List.Forall₂.get read (by rwa [List.length_range]) (counted ▸ below)
    rw [List.get_eq_getElem, List.getElem_range, List.get_eq_getElem, Heap.cell_eq_ok] at here
    rw [Nat.add_assoc, here, List.getElem?_eq_getElem]
  · rintro ⟨counted, read⟩
    refine List.forall₂_iff_get.mpr ⟨by rw [List.length_range, counted],
      fun position below below' => ?_⟩
    rw [List.length_range] at below
    rw [List.get_eq_getElem, List.getElem_range, List.get_eq_getElem, Heap.cell_eq_ok,
      ← Nat.add_assoc, read position below, List.getElem?_eq_getElem]

theorem exists_literals (row : vector.Packed heap name first) :
    ∃ elements, vector.value.literals heap = .ok elements := by
  obtain ⟨_, stands, -⟩ := row.stands
  obtain ⟨layout, shaped, -⟩ := Host.layout_vector vector
  obtain ⟨elements, shows⟩ := stands.shows shaped
  exact ⟨elements, stands.literals shaped shows⟩

end Packed

end Vector

namespace Host

variable {ρ : Type} {state : HostState ρ} {target source : Vector}
  {name first name' first' : Nat}

theorem firstPosition_done (packed : target.increment = 1) (state : HostState ρ) :
    (Kernel.firstPosition target : Host ρ Nat) state = .ok target.axis.offset state := by
  obtain ⟨layout, shaped, rankOne, -⟩ := layout_vector target
  have place : layout.flatOffset [0] = .ok target.axis.offset := by
    rw [Layout.flatOffset_ok (by rw [rankOne]; rfl), Vector.place_packed packed shaped,
      Nat.add_zero]
  have found : (do (← target.value.layout).flatOffset [0]) = Except.ok target.axis.offset := by
    rw [Value.layout, shaped]
    exact place
  exact ofExcept_ok.mpr ⟨found, rfl⟩

/-- A part of a row is moved to a part of a row. -/
theorem move_rows (start start' count : Nat) (row : target.Packed state.heap name first)
    (row' : source.Packed state.heap name' first') (typed : source.dtype = target.dtype)
    (room : start + count ≤ target.size) (read : start' + count ≤ source.size) :
    Yields (Kernel.move target.value (target.axis.offset + start) source.value
        (source.axis.offset + start') count : Host ρ Unit) state fun _ after =>
      state.heap.Moved after.heap name (first + start) name' (first' + start') count := by
  have fits := row.fits room
  have fits' := row'.fits read
  have typed' := row'.typed.trans (typed.trans row.typed.symm)
  obtain ⟨base, stands, rfl⟩ := row.stands
  obtain ⟨base', stands', rfl⟩ := row'.stands
  have yields : Yields (Kernel.move target.value (target.axis.offset + start) source.value
      (source.axis.offset + start') count : Host ρ Unit) state fun _ after =>
        state.heap.Moved after.heap name (base + (target.axis.offset + start)) name'
          (base' + (source.axis.offset + start')) count :=
    move_yields stands.place stands'.place stands.known typed' (by omega) (by omega)
  simpa only [Nat.add_assoc] using yields

end Host

/-! ### Shifts -/

/-- What a shift asks for. -/
structure Vector.Shifts (buffer newest : Vector) (dropped? : Option Vector) : Prop where
  fits : newest.size ≤ buffer.size
  typed : newest.dtype = buffer.dtype
  packed : buffer.increment = 1
  packed' : newest.increment = 1
  dropped : ∀ dropped, dropped? = some dropped → dropped.dtype = buffer.dtype ∧
    newest.size ≤ dropped.size ∧ dropped.increment = 1

namespace Host

variable {ρ : Type} {state : HostState ρ} {buffer newest : Vector} {dropped? : Option Vector}
  {name first name' first' : Nat}

theorem checkPacked_done (role : String) (packed : buffer.increment = 1) (state : HostState ρ) :
    (Kernel.checkPacked role buffer : Host ρ Unit) state = .ok () state := by
  unfold Kernel.checkPacked
  rw [if_neg (not_not.mpr packed)]
  rfl

theorem checkPacked_fails (role : String) (unpacked : buffer.increment ≠ 1)
    (state : HostState ρ) :
    ∃ cause, Refuses (Kernel.checkPacked role buffer : Host ρ Unit) state cause := by
  unfold Kernel.checkPacked
  rw [if_pos unpacked]
  exact ⟨_, rfl⟩

/-- The moves of a shift, one after the other. -/
structure Shifted (heap after : Heap) (buffer newest : Vector) (dropped? : Option Vector)
    (name first name' first' : Nat) : Prop where
  moves : ∃ one two,
    (dropped? = none → one = heap) ∧
    (∀ dropped, dropped? = some dropped → ∃ target start, dropped.Packed heap target start ∧
      heap.Moved one target start name first newest.size) ∧
    one.Moved two name first name (first + newest.size) (buffer.size - newest.size) ∧
    two.Moved after name (first + (buffer.size - newest.size)) name' first' newest.size

/-- The rest slides to the front, and the new elements are moved in behind. -/
theorem slide_yields (fits : newest.size ≤ buffer.size) (typed : newest.dtype = buffer.dtype)
    (row : buffer.Packed state.heap name first) (row' : newest.Packed state.heap name' first') :
    Yields (do
      Kernel.move buffer.value buffer.axis.offset buffer.value
        (buffer.axis.offset + newest.size) (buffer.size - newest.size)
      Kernel.move buffer.value (buffer.axis.offset + buffer.size - newest.size) newest.value
        newest.axis.offset newest.size : Host ρ Unit) state fun _ after => ∃ middle,
          state.heap.Moved middle name first name (first + newest.size)
            (buffer.size - newest.size) ∧
          middle.Moved after.heap name (first + (buffer.size - newest.size)) name' first'
            newest.size := by
  refine (move_rows 0 newest.size (buffer.size - newest.size) row row rfl (by omega)
    (by omega)).bind fun _ middle moved => ?_
  rw [Nat.add_sub_assoc fits]
  refine (move_rows (buffer.size - newest.size) 0 newest.size (row.keeps moved.keeps)
    (row'.keeps moved.keeps) typed (by omega) (by omega)).mono fun _ after moved' => ?_
  exact ⟨middle.heap, moved, moved'⟩

theorem shift_yields (shifts : buffer.Shifts newest dropped?)
    (row : buffer.Packed state.heap name first) (row' : newest.Packed state.heap name' first')
    (stands : ∀ dropped, dropped? = some dropped →
      ∃ name base, dropped.value.Stands state.heap name base) :
    Yields (Kernel.shift buffer newest dropped? : Host ρ Unit) state fun _ after =>
      Shifted state.heap after.heap buffer newest dropped? name first name' first' := by
  unfold Kernel.shift
  dsimp only
  rw [if_neg (Nat.not_lt.mpr shifts.fits), if_neg (not_not.mpr shifts.typed)]
  refine .behind (checkPacked_done _ shifts.packed state)
    (.behind (checkPacked_done _ shifts.packed' state)
      (.behind (firstPosition_done shifts.packed state)
        (.behind (firstPosition_done shifts.packed' state) ?_)))
  cases dropped? with
  | none =>
      refine (slide_yields shifts.fits shifts.typed row row').mono fun _ after slid => ?_
      obtain ⟨two, moved, moved'⟩ := slid
      exact ⟨state.heap, two, fun _ => rfl, nofun, moved, moved'⟩
  | some dropped =>
      obtain ⟨typed, enough, packed⟩ := shifts.dropped dropped rfl
      obtain ⟨target, base, stands⟩ := stands dropped rfl
      have row'' : dropped.Packed state.heap target (base + dropped.axis.offset) :=
        ⟨⟨base, stands, rfl⟩, packed⟩
      dsimp only
      rw [if_neg (not_not.mpr typed), if_neg (Nat.not_lt.mpr enough)]
      refine .behind (checkPacked_done _ packed state)
        (.behind (firstPosition_done packed state) ?_)
      have fits := shifts.fits
      refine (move_rows 0 0 newest.size row'' row typed.symm (by omega) (by omega)).bind
        fun _ one moved => ?_
      refine (slide_yields shifts.fits shifts.typed (row.keeps moved.keeps)
        (row'.keeps moved.keeps)).mono fun _ after slid => ?_
      obtain ⟨two, moved', moved''⟩ := slid
      refine ⟨one.heap, two, nofun, ?_, moved', moved''⟩
      rintro _ ⟨⟩
      exact ⟨target, _, row'', moved⟩

/-- A window that is too short for the new elements ends the run, and nothing else does. -/
theorem shift_aborts (long : buffer.size < newest.size) (state : HostState ρ) :
    ∃ message, (Kernel.shift buffer newest dropped? : Host ρ Unit) state =
      .error (.abort message) state := by
  unfold Kernel.shift
  dsimp only
  rw [if_pos long]
  exact ⟨_, rfl⟩

/-- Whatever else is wrong is refused before the first move. -/
theorem shift_refuses (fits : newest.size ≤ buffer.size)
    (wrong : ¬ buffer.Shifts newest dropped?) (state : HostState ρ) :
    ∃ cause, Refuses (Kernel.shift buffer newest dropped? : Host ρ Unit) state cause := by
  have behind {α β : Type} {first : Host ρ α} {rest : α → Host ρ β} {answer : α}
      (done : first state = .ok answer state)
      (refused : ∃ cause, Refuses (rest answer) state cause) :
      ∃ cause, Refuses (first >>= rest) state cause := by
    obtain ⟨cause, failed⟩ := refused
    exact ⟨cause, (bind_of_ok done).trans failed⟩
  have stops {α β : Type} {first : Host ρ α} {rest : α → Host ρ β}
      (refused : ∃ cause, Refuses first state cause) :
      ∃ cause, Refuses (first >>= rest) state cause := by
    obtain ⟨cause, failed⟩ := refused
    exact ⟨cause, Action.bind_of_error failed⟩
  unfold Kernel.shift
  dsimp only
  rw [if_neg (Nat.not_lt.mpr fits)]
  split
  · exact stops ⟨_, rfl⟩
  rename_i typed
  by_cases packed : buffer.increment = 1
  · refine behind (checkPacked_done _ packed state) ?_
    by_cases packed' : newest.increment = 1
    · refine behind (checkPacked_done _ packed' state) (behind (firstPosition_done packed state)
        (behind (firstPosition_done packed' state) ?_))
      cases dropped? with
      | none => exact (wrong ⟨fits, not_not.mp typed, packed, packed', nofun⟩).elim
      | some dropped =>
          dsimp only
          split
          · exact stops ⟨_, rfl⟩
          rename_i typed'
          split
          · exact stops ⟨_, rfl⟩
          rename_i enough
          by_cases packed'' : dropped.increment = 1
          · refine (wrong ⟨fits, not_not.mp typed, packed, packed', ?_⟩).elim
            rintro _ ⟨⟩
            exact ⟨not_not.mp typed', Nat.not_lt.mp enough, packed''⟩
          · exact stops (checkPacked_fails _ packed'' state)
    · exact stops (checkPacked_fails _ packed' state)
  · exact stops (checkPacked_fails _ packed state)

end Host

/-! ### What a shift leaves -/

/-- No two of the vectors of a shift have a cell in common. -/
structure Vector.Disjoint (buffer newest : Vector) (dropped? : Option Vector) : Prop where
  window : buffer.value.Apart newest.value
  dropped : ∀ dropped, dropped? = some dropped →
    dropped.value.Apart buffer.value ∧ dropped.value.Apart newest.value

/-- The window without its oldest elements, with the new ones behind; the oldest are at the
front of what they were moved to, and no other cell was written. -/
structure Vector.Slid (heap after : Heap) (buffer newest : Vector) (dropped? : Option Vector) :
    Prop where
  keeps : heap.Keeps after
  window : ∃ old new, buffer.value.literals heap = .ok old ∧
    newest.value.literals heap = .ok new ∧
      buffer.value.literals after = .ok (old.drop newest.size ++ new)
  dropped : ∀ dropped, dropped? = some dropped → ∃ old rest,
    buffer.value.literals heap = .ok old ∧ dropped.value.literals heap = .ok rest ∧
      dropped.value.literals after = .ok (old.take newest.size ++ rest.drop newest.size)
  beside : ∀ name index, (∀ position, ¬ buffer.value.Lies [position] name index) →
    (∀ dropped, dropped? = some dropped → ∀ position < newest.size,
      ¬ dropped.value.Lies [position] name index) →
        (after.storage name).cells[index]? = (heap.storage name).cells[index]?

namespace Host

variable {heap one two after : Heap} {buffer newest target : Vector} {dropped? : Option Vector}
  {name first name' first' storage index start source count : Nat}

/-- A move into a row writes cells of the row. -/
theorem outside_moved (start : Nat) (row : target.Packed heap name first)
    (moved : one.Moved two name (first + start) source first' count)
    (room : start + count ≤ target.size)
    (apart : ∀ position, start ≤ position → position < start + count →
      ¬ target.value.Lies [position] storage index) :
    (two.storage storage).cells[index]? = (one.storage storage).cells[index]? := by
  refine moved.beside storage index fun here offset below same => ?_
  refine apart (start + offset) (by omega) (by omega) ?_
  rw [row.lies_iff]
  exact ⟨start + offset, by omega, rfl, here, by omega⟩

/-- The first of the moves writes the front of what the oldest elements are moved to. -/
theorem dropped_beside (shifts : buffer.Shifts newest dropped?)
    (without : dropped? = none → one = heap)
    (given : ∀ dropped, dropped? = some dropped → ∃ target start, dropped.Packed heap target start ∧
      heap.Moved one target start name first newest.size) :
    heap.Keeps one ∧ ∀ storage index, (∀ dropped, dropped? = some dropped →
      ∀ position < newest.size, ¬ dropped.value.Lies [position] storage index) →
        (one.storage storage).cells[index]? = (heap.storage storage).cells[index]? := by
  cases dropped? with
  | none =>
      obtain rfl := without rfl
      exact ⟨.refl _, fun _ _ _ => rfl⟩
  | some dropped =>
      obtain ⟨target, start, row, moved⟩ := given dropped rfl
      obtain ⟨-, enough, -⟩ := shifts.dropped dropped rfl
      refine ⟨moved.keeps, fun storage index apart => ?_⟩
      exact outside_moved 0 row moved (by omega) fun position _ below =>
        apart dropped rfl position (by omega)

/-- The other two slide the window, when the first one has left it and the new elements as they
were. -/
theorem window_slid (fits : newest.size ≤ buffer.size) (apart : buffer.value.Apart newest.value)
    (row : buffer.Packed one name first) (row' : newest.Packed one name' first')
    (moved : one.Moved two name first name (first + newest.size) (buffer.size - newest.size))
    (moved' : two.Moved after name (first + (buffer.size - newest.size)) name' first' newest.size)
    {old new : List Literal} (read : buffer.value.literals one = .ok old)
    (read' : newest.value.literals one = .ok new) :
    buffer.value.literals after = .ok (old.drop newest.size ++ new) := by
  obtain ⟨counted, cells⟩ := row.literals_iff.mp read
  obtain ⟨counted', cells'⟩ := row'.literals_iff.mp read'
  refine (row.keeps (moved.keeps.trans moved'.keeps)).literals_iff.mpr
    ⟨?_, fun position below => ?_⟩
  · rw [List.length_append, List.length_drop, counted, counted']
    omega
  rcases Nat.lt_or_ge position (buffer.size - newest.size) with before | behind
  · have kept := moved'.beside name (first + position) fun _ offset within => by omega
    rw [List.getElem?_append_left (by rw [List.length_drop, counted]; exact before),
      List.getElem?_drop, kept, moved.moved position before, Nat.add_assoc]
    exact cells _ (by omega)
  · obtain ⟨offset, rfl⟩ := Nat.exists_eq_add_of_le behind
    have within : offset < newest.size := by omega
    have kept := outside_moved 0 row moved (by omega) fun position _ _ lies =>
      apart _ _ _ _ lies (row'.lies within)
    rw [List.getElem?_append_right (by rw [List.length_drop, counted]; omega), List.length_drop,
      counted, Nat.add_sub_cancel_left, ← Nat.add_assoc, moved'.moved offset within, kept]
    exact cells' offset within

/-- The oldest elements are at the front of what they were moved to, and stay there. -/
theorem dropped_filled (enough : newest.size ≤ target.size) (fits : newest.size ≤ buffer.size)
    (row : buffer.Packed heap name first) (row' : target.Packed heap name' first')
    (moved : heap.Moved one name' first' name first newest.size)
    (keeps : one.Keeps after) (kept : ∀ position < target.size,
      (after.storage name').cells[first' + position]? =
        (one.storage name').cells[first' + position]?)
    {old rest : List Literal} (read : buffer.value.literals heap = .ok old)
    (read' : target.value.literals heap = .ok rest) :
    target.value.literals after = .ok (old.take newest.size ++ rest.drop newest.size) := by
  obtain ⟨counted, cells⟩ := row.literals_iff.mp read
  obtain ⟨counted', cells'⟩ := row'.literals_iff.mp read'
  refine (row'.keeps (moved.keeps.trans keeps)).literals_iff.mpr ⟨?_, fun position below => ?_⟩
  · rw [List.length_append, List.length_take, List.length_drop, counted, counted']
    omega
  have taken : (old.take newest.size).length = newest.size := by
    rw [List.length_take, counted, min_eq_left fits]
  rw [kept position below]
  rcases Nat.lt_or_ge position newest.size with before | behind
  · rw [List.getElem?_append_left (by omega), List.getElem?_take_of_lt before,
      moved.moved position before]
    exact cells position (by omega)
  · rw [List.getElem?_append_right (by omega), List.getElem?_drop, taken,
      Nat.add_sub_cancel' behind, moved.beside name' _ fun _ offset within => by omega]
    exact cells' position below

theorem slid_of_shifted (shifts : buffer.Shifts newest dropped?)
    (disjoint : buffer.Disjoint newest dropped?) (row : buffer.Packed heap name first)
    (row' : newest.Packed heap name' first')
    (shifted : Shifted heap after buffer newest dropped? name first name' first') :
    buffer.Slid heap after newest dropped? := by
  obtain ⟨one, two, without, given, moved, moved'⟩ := shifted
  obtain ⟨keeps, kept⟩ := dropped_beside shifts without given
  have fits := shifts.fits
  have same {vector : Vector} {name first : Nat} (row : vector.Packed heap name first)
      (apart : ∀ dropped, dropped? = some dropped → dropped.value.Apart vector.value)
      (elements : List Literal) (read : vector.value.literals heap = .ok elements) :
      vector.value.literals one = .ok elements := by
    obtain ⟨counted, cells⟩ := row.literals_iff.mp read
    refine (row.keeps keeps).literals_iff.mpr ⟨counted, fun position below => ?_⟩
    rw [kept _ _ fun dropped wanted _ _ lies => apart dropped wanted _ _ _ _ lies (row.lies below)]
    exact cells position below
  obtain ⟨old, read⟩ := row.exists_literals
  obtain ⟨new, read'⟩ := row'.exists_literals
  refine ⟨keeps.trans (moved.keeps.trans moved'.keeps), ⟨old, new, read, read', ?_⟩,
    fun dropped wanted => ?_, fun storage index apart apart' => ?_⟩
  · exact window_slid fits disjoint.window (row.keeps keeps) (row'.keeps keeps) moved moved'
      (same row (fun dropped wanted => (disjoint.dropped dropped wanted).1) old read)
      (same row' (fun dropped wanted => (disjoint.dropped dropped wanted).2) new read')
  · obtain ⟨target, start, row'', moved₀⟩ := given dropped wanted
    obtain ⟨rest, read''⟩ := row''.exists_literals
    obtain ⟨-, enough, -⟩ := shifts.dropped dropped wanted
    have apart := (disjoint.dropped dropped wanted).1
    refine ⟨old, rest, read, read'', dropped_filled enough fits row row'' moved₀
      (moved.keeps.trans moved'.keeps) (fun position below => ?_) read read''⟩
    rw [outside_moved _ row moved' (by omega) fun _ _ _ lies =>
        apart _ _ _ _ (row''.lies below) lies,
      outside_moved 0 row moved (by omega) fun _ _ _ lies =>
        apart _ _ _ _ (row''.lies below) lies]
  · rw [outside_moved _ row moved' (by omega) fun position _ _ => apart position,
      outside_moved 0 row moved (by omega) fun position _ _ => apart position]
    exact kept storage index apart'

end Host

/-! ### Values that were reached -/

/-- What a shift comes to. -/
structure Vector.Shifting {ρ : Type} (state : HostState ρ) (buffer newest : Vector)
    (dropped? : Option Vector) : Prop where
  slides : buffer.Shifts newest dropped? → buffer.Disjoint newest dropped? →
    ∃ after, (Kernel.shift buffer newest dropped? : Host ρ Unit) state = .ok () after ∧
      buffer.Slid state.heap after.heap newest dropped?
  unchanged : ∀ cause after, (Kernel.shift buffer newest dropped? : Host ρ Unit) state =
    .error (.error cause) after → after = state
  aborts : (∃ message after, (Kernel.shift buffer newest dropped? : Host ρ Unit) state =
    .error (.abort message) after) ↔ buffer.size < newest.size
  ok_iff : (∃ after, (Kernel.shift buffer newest dropped? : Host ρ Unit) state = .ok () after) ↔
    buffer.Shifts newest dropped?

namespace Value

variable {ρ : Type} {values : List Value}

/-- A shift of vectors that were made drops the oldest elements of a window and appends new ones.
It is refused before anything is moved, and ends the run just when there are more new elements
than the window has. -/
theorem Reached.shifting {state : HostState ρ} (reached : Reached state.heap values)
    {buffer newest : Vector} {dropped? : Option Vector} (member : buffer.value ∈ values)
    (member' : newest.value ∈ values)
    (members : ∀ dropped, dropped? = some dropped → dropped.value ∈ values) :
    buffer.Shifting state newest dropped? := by
  obtain ⟨name, base, stands⟩ := reached.stands _ member
  obtain ⟨name', base', stands'⟩ := reached.stands _ member'
  have yields (shifts : buffer.Shifts newest dropped?) :=
    Host.shift_yields (ρ := ρ) shifts ⟨⟨base, stands, rfl⟩, shifts.packed⟩
      ⟨⟨base', stands', rfl⟩, shifts.packed'⟩
      fun dropped wanted => reached.stands _ (members dropped wanted)
  by_cases long : buffer.size < newest.size
  · obtain ⟨message, aborted⟩ : ∃ message, (Kernel.shift buffer newest dropped? : Host ρ Unit)
        state = .error (.abort message) state := Host.shift_aborts long state
    refine ⟨fun shifts => (long.not_ge shifts.fits).elim, fun cause after failed => ?_,
      ⟨fun _ => long, fun _ => ⟨message, state, aborted⟩⟩, ⟨?_, fun shifts =>
        (long.not_ge shifts.fits).elim⟩⟩
    · cases aborted.symm.trans failed
    · rintro ⟨after, done⟩
      cases aborted.symm.trans done
  have fits := Nat.not_lt.mp long
  by_cases shifts : buffer.Shifts newest dropped?
  · obtain ⟨_, after, done, shifted⟩ := yields shifts
    refine ⟨fun _ disjoint => ⟨after, done, ?_⟩, fun cause after failed => ?_, ⟨?_, fun absurd =>
      (long absurd).elim⟩, ⟨fun _ => shifts, fun _ => ⟨after, done⟩⟩⟩
    · exact Host.slid_of_shifted shifts disjoint ⟨⟨base, stands, rfl⟩, shifts.packed⟩
        ⟨⟨base', stands', rfl⟩, shifts.packed'⟩ shifted
    · cases done.symm.trans failed
    · rintro ⟨message, after, failed⟩
      cases done.symm.trans failed
  · obtain ⟨cause, refused⟩ := Host.shift_refuses fits shifts state
    refine ⟨fun absurd => (shifts absurd).elim, fun cause after failed => ?_, ⟨?_, fun absurd =>
      (long absurd).elim⟩, ⟨?_, fun absurd => (shifts absurd).elim⟩⟩
    · cases refused.symm.trans failed
      rfl
    · rintro ⟨message, after, failed⟩
      cases refused.symm.trans failed
    · rintro ⟨after, done⟩
      cases refused.symm.trans done

/-- Three vectors of one storage, the window behind padding. -/
theorem Reached.shifting_shared : ∃ (state after : HostState Unit) (buffer newest dropped : Vector),
    Reached state.heap [dropped.value, newest.value, buffer.value] ∧
      buffer.value.place = .host 0 0 ∧ newest.value.place = .host 0 5 ∧
        dropped.value.place = .host 0 7 ∧
      (Kernel.shift buffer newest (some dropped) : Host Unit Unit) state = .ok () after ∧
        buffer.value.literals after.heap = .ok ([3, 4, 7, 8].map Literal.i32) ∧
          dropped.value.literals after.heap = .ok ([1, 2, 9].map Literal.i32) := by
  have made : ∃ (layout : Layout) (data : Storage) (value value' value'' : Value)
      (buffer newest dropped : Vector),
      (Layout.padded [4] [5] [1] = .ok layout ∧
        Storage.ofLiterals? .i32 #[.i32 0, .i32 1, .i32 2, .i32 3, .i32 4, .i32 7, .i32 8, .i32 9,
          .i32 9, .i32 9] = some data) ∧
      (Value.ofShared 0 0 layout (Heap.empty.add data) = .ok value ∧
        Value.ofShared 0 5 (Layout.packed [2]) (Heap.empty.add data) = .ok value' ∧
        Value.ofShared 0 7 (Layout.packed [3]) (Heap.empty.add data) = .ok value'') ∧
      (Vector.ofValue value = .ok buffer ∧ Vector.ofValue value' = .ok newest ∧
        Vector.ofValue value'' = .ok dropped) ∧
      (buffer.value = value ∧ newest.value = value' ∧ dropped.value = value'') ∧
      (value.place = .host 0 0 ∧ value'.place = .host 0 5 ∧ value''.place = .host 0 7) ∧
      (buffer.axis.offset = 1 ∧ newest.axis.offset = 0 ∧ dropped.axis.offset = 0) ∧
      (buffer.size = 4 ∧ newest.size = 2 ∧ dropped.size = 3) ∧
      (buffer.dtype = .i32 ∧ newest.dtype = .i32 ∧ dropped.dtype = .i32) ∧
      (buffer.increment = 1 ∧ newest.increment = 1 ∧ dropped.increment = 1) ∧
      (buffer.value.literals (Heap.empty.add data) = .ok ([1, 2, 3, 4].map Literal.i32) ∧
        newest.value.literals (Heap.empty.add data) = .ok ([7, 8].map Literal.i32) ∧
          dropped.value.literals (Heap.empty.add data) = .ok ([9, 9, 9].map Literal.i32)) :=
    ⟨_, _, _, _, _, _, _, _, ⟨rfl, rfl⟩, ⟨rfl, rfl, rfl⟩, ⟨rfl, rfl, rfl⟩, ⟨rfl, rfl, rfl⟩,
      ⟨rfl, rfl, rfl⟩, ⟨rfl, rfl, rfl⟩, ⟨rfl, rfl, rfl⟩, ⟨rfl, rfl, rfl⟩, ⟨rfl, rfl, rfl⟩,
      ⟨rfl, rfl, rfl⟩⟩
  obtain ⟨layout, data, _, _, _, buffer, newest, dropped, ⟨padded, -⟩, ⟨shared, shared', shared''⟩,
    -, ⟨rfl, rfl, rfl⟩, ⟨place, place', place''⟩, ⟨offset, offset', offset''⟩,
    ⟨size, size', size''⟩, ⟨dtype, dtype', dtype''⟩, ⟨packed, packed', packed''⟩,
    read, read', read''⟩ := made
  let state : HostState Unit := ⟨Heap.empty.add data, 0, ()⟩
  have reached : Reached state.heap [dropped.value, newest.value, buffer.value] :=
    .viewed (.viewed (.viewed (.shared .start data) Nat.one_pos (.padded padded) shared) Nat.one_pos
      (.packed _) shared') Nat.one_pos (.packed _) shared''
  have row : buffer.Packed state.heap 0 1 :=
    ⟨⟨0, stands_of_ofShared Nat.one_pos (.padded padded) shared, by omega⟩, packed⟩
  have row' : newest.Packed state.heap 0 5 :=
    ⟨⟨5, stands_of_ofShared Nat.one_pos (.packed _) shared', by omega⟩, packed'⟩
  have row'' : dropped.Packed state.heap 0 7 :=
    ⟨⟨7, stands_of_ofShared Nat.one_pos (.packed _) shared'', by omega⟩, packed''⟩
  have apart {one two : Vector} {first first' : Nat} (row : one.Packed state.heap 0 first)
      (row' : two.Packed state.heap 0 first')
      (apart : first + one.size ≤ first' ∨ first' + two.size ≤ first) :
      one.value.Apart two.value := by
    intro coordinates coordinates' name index lies lies'
    obtain ⟨position, below, -, -, rfl⟩ := row.lies_iff.mp lies
    obtain ⟨position', below', -, -, same⟩ := row'.lies_iff.mp lies'
    omega
  have wanted {other : Vector} (same : some dropped = some other) : dropped = other :=
    Option.some.inj same
  have shifting : buffer.Shifting state newest (some dropped) := by
    refine Reached.shifting reached (by simp) (by simp) fun other same => ?_
    obtain rfl := wanted same
    exact List.mem_cons_self
  have shifts : buffer.Shifts newest (some dropped) := by
    refine ⟨by omega, by rw [dtype, dtype'], packed, packed', fun other same => ?_⟩
    obtain rfl := wanted same
    exact ⟨by rw [dtype, dtype''], by omega, packed''⟩
  have disjoint : buffer.Disjoint newest (some dropped) := by
    refine ⟨apart row row' (by omega), fun other same => ?_⟩
    obtain rfl := wanted same
    exact ⟨apart row'' row (by omega), apart row'' row' (by omega)⟩
  obtain ⟨after, done, slid⟩ := shifting.slides shifts disjoint
  obtain ⟨_, _, old, new, kept⟩ := slid.window
  obtain ⟨_, _, old', rest, kept'⟩ := slid.dropped dropped rfl
  cases read.symm.trans old
  cases read'.symm.trans new
  cases read.symm.trans old'
  cases read''.symm.trans rest
  rw [size'] at kept kept'
  exact ⟨state, after, buffer, newest, dropped, reached, place, place', place'', done, kept, kept'⟩

end Value
end TensorGraph

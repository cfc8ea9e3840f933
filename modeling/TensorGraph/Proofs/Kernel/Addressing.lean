/-
Addresses on the host.

The host reads an index where it is used.  What an index names is known as long
as its cell is not written, so the element that a kernel addresses is known
before the kernel runs, and so is whether the address is refused.
-/

import TensorGraph.Kernel.Matrix
import TensorGraph.Proofs.Kernel.Rows
import TensorGraph.Proofs.Value.Access

namespace TensorGraph

namespace Scalar

variable {heap later : Heap} {scalar : Scalar} {name index position : Nat} {element : Literal}

/-- A scalar is the only element of its value. -/
theorem lies_of_place (placed : scalar.value.place = .host name index) :
    scalar.value.Lies [] name index := by
  obtain ⟨layout, shaped, rankZero⟩ := Option.map_eq_some_iff.mp scalar.rankZero
  have axes : layout.axes = [] := List.length_eq_zero_iff.mp rankZero
  have sizes : layout.logicalSizes = [] := by
    rw [← List.length_eq_zero_iff, layout.length_logicalSizes]
    exact rankZero
  refine ⟨layout, index, shaped, placed, ?_, ?_⟩
  · rw [Layout.Inside, sizes]
    exact .nil
  · rw [Layout.place, axes]
    rfl

theorem literal_eq_ok : Host.literal scalar.value heap = .ok element ↔
    ∃ name index, scalar.value.place = .host name index ∧
      (heap.storage name).cells[index]? = some element := by
  cases placed : scalar.value.place with
  | host name index =>
      have isHost : scalar.value.isHost = true := by
        rw [Value.isHost, placed]
      have read : Host.literal scalar.value heap = heap.cell name index := by
        rw [Host.literal, if_pos isHost]
        exact (lies_of_place placed).get heap
      rw [read, Heap.cell_eq_ok]
      constructor
      · exact fun found => ⟨name, index, rfl, found⟩
      · rintro ⟨_, _, ⟨⟩, found⟩
        exact found
  | unbound | emitted register =>
      rw [Host.literal, Value.isHost, placed]
      exact ⟨nofun, nofun⟩

/-- What a scalar stands for stays as long as its cell does. -/
theorem literal_kept (read : Host.literal scalar.value heap = .ok element)
    (kept : ∀ name index, scalar.value.place = .host name index → name < heap.next →
      (later.storage name).cells[index]? = (heap.storage name).cells[index]?) :
    Host.literal scalar.value later = .ok element := by
  obtain ⟨name, index, placed, found⟩ := literal_eq_ok.mp read
  refine literal_eq_ok.mpr ⟨name, index, placed, ?_⟩
  rw [kept name index placed (Heap.known_of_cell found)]
  exact found

theorem literal_grows (read : Host.literal scalar.value heap = .ok element)
    (growing : heap.Grows later) : Host.literal scalar.value later = .ok element :=
  literal_kept read fun name _ _ known => by rw [growing.kept name known]

/-- The scalar is known to name a position. -/
def At (heap : Heap) (scalar : Scalar) (position : Nat) : Prop :=
  ∃ element, Host.literal scalar.value heap = .ok element ∧ Scalar.position element = .ok position

theorem At.grows (named : At heap scalar position) (growing : heap.Grows later) :
    At later scalar position := by
  obtain ⟨element, read, placed⟩ := named
  exact ⟨element, literal_grows read growing, placed⟩

theorem at_of_reads {number : Nat}
    (reads : Host.Reads heap scalar (.i64 (Int64.ofNat number))) (counts : number < Nat.pow 2 63) :
    At heap scalar number :=
  ⟨_, reads.literal, Host.position_ofNat counts⟩

end Scalar

namespace Value

variable {value : Value} {heap : Heap} {name base index : Nat} {view : Layout}

/-- The handle without a layout, at another cell. -/
def moved (value : Value) (name index : Nat) : Value :=
  { value with
    layout? := none
    place := .host name index }

/-- The handle in another layout, at another cell. -/
def shown (value : Value) (name index : Nat) (view : Layout) : Value :=
  { value with
    layout? := some view
    place := .host name index }

theorem Stands.advanced_done (stands : value.Stands heap name base) {elements : Nat}
    (within : base + elements ≤ (heap.storage name).size) :
    value.advanced elements heap = .ok (value.moved name (base + elements)) := by
  simp only [Value.advanced, stands.host, bind, Except.bind]
  rw [if_neg (Nat.not_lt.mpr within)]
  rfl

theorem Stands.advanced_refused (stands : value.Stands heap name base) {elements : Nat}
    (outside : (heap.storage name).size < base + elements) :
    value.advanced elements heap =
      .error (.indexOutOfRange (base + elements) (heap.storage name).size) := by
  simp only [Value.advanced, stands.host, bind, Except.bind]
  rw [if_pos outside]
  rfl

theorem eq_of_advanced {answer : Value} {elements : Nat} (placed : value.place = .host name base)
    (made : value.advanced elements heap = .ok answer) :
    answer = value.moved name (base + elements) := by
  simp only [Value.advanced, host, placed, bind, Except.bind] at made
  split at made
  · cases made
  · cases made
    rfl

theorem place_of_advanced {answer : Value} {elements : Nat} (placed : value.place = .host name base)
    (made : value.advanced elements heap = .ok answer) :
    answer.place = .host name (base + elements) := by
  rw [eq_of_advanced placed made]
  rfl

theorem place_of_withLayout {answer : Value} (made : value.withLayout view heap = .ok answer) :
    answer.place = value.place := by
  unfold Value.withLayout at made
  split at made
  · obtain ⟨_, -, same⟩ := bind_eq_ok.mp made
    rw [← Except.ok.inj same]
  · cases made
    rfl

theorem withLayout_done (placed : value.place = .host name index)
    (room : index + view.span ≤ (heap.storage name).size) :
    value.withLayout view heap = .ok (value.shown name index view) := by
  have fits : checkFits view index (heap.storage name).size = .ok () :=
    if_neg (Nat.not_lt.mpr room)
  simp only [Value.withLayout, placed, fits, bind, Except.bind]
  rw [shown, ← placed]
  rfl

theorem Stands.shown (stands : value.Stands heap name base) (built : view.Built)
    (room : index + view.span ≤ (heap.storage name).size) :
    (value.shown name index view).Stands heap name index where
  place := rfl
  known := stands.known
  typed := stands.typed
  within := (Nat.le_add_right _ _).trans room
  fits := by
    rintro _ ⟨⟩
    exact ⟨built, room⟩

end Value

namespace Host

variable {ρ : Type} {state after : HostState ρ} {scalar : Scalar} {indices : List Scalar}
  {value : Value} {name base index position size : Nat} {layout view : Layout}
  {coordinates : List Nat}

/-! ### Indices -/

theorem knownPosition_done (named : scalar.At state.heap position) :
    (scalar.knownPosition : Host ρ (Option Nat)) state = .ok (some position) state := by
  obtain ⟨element, read, placed⟩ := named
  refine bind_ok.mpr ⟨some element, state, ?_, ?_⟩
  · change EStateM.Result.ok (literal scalar.value state.heap).toOption state = _
    rw [read]
    rfl
  · exact map_ok.mpr ⟨position, ofExcept_ok.mpr ⟨placed, rfl⟩, rfl⟩

theorem checkBelow_done (named : scalar.At state.heap position) (below : position < size) :
    (scalar.checkBelow size : Host ρ Unit) state = .ok () state := by
  refine (bind_of_ok (knownPosition_done named)).trans ?_
  dsimp only
  rw [if_neg (Nat.not_le.mpr below)]
  rfl

theorem checkBelow_fails (named : scalar.At state.heap position) (above : size ≤ position) :
    (scalar.checkBelow size : Host ρ Unit) state =
      .error (.error (.indexOutOfRange position size)) state := by
  refine (bind_of_ok (knownPosition_done named)).trans ?_
  dsimp only
  rw [if_pos above]
  rfl

/-- The words of the upper half are taken for negative numbers. -/
theorem counts_of_at {number : Nat} (reads : Reads state.heap scalar (.i64 (Int64.ofNat number)))
    (named : scalar.At state.heap position) (word : number < Nat.pow 2 64) :
    number < Nat.pow 2 63 := by
  obtain ⟨element, read, placed⟩ := named
  cases reads.literal.symm.trans read
  by_contra large
  have negative : ¬ 0 ≤ (Int64.ofNat number).toInt := by
    have words : Int64.size = 2 ^ 64 := rfl
    rw [Nat.pow_eq] at word large
    rw [Int64.toInt_ofNat', Int.bmod_def, words]
    omega
  unfold Scalar.position Literal.toInt64 at placed
  dsimp only at placed
  rw [if_neg negative] at placed
  cases placed

theorem reads_of_index {number : Nat}
    (made : (Scalar.index number : Host ρ Scalar) state = .ok scalar after) :
    state.heap.Grows after.heap ∧ Reads after.heap scalar (.i64 (Int64.ofNat number)) := by
  obtain ⟨scalar', after', made', growing, reads⟩ :=
    gives_constant (.i64 (Int64.ofNat number)) state
  cases made.symm.trans made'
  exact ⟨growing, reads⟩

/-- An index of a number that a machine counts to. -/
theorem index_done (number : Nat) (counts : number < Nat.pow 2 63) (state : HostState ρ) :
    ∃ scalar after, (Scalar.index number : Host ρ Scalar) state = .ok scalar after ∧
      state.heap.Grows after.heap ∧ scalar.At after.heap number := by
  obtain ⟨scalar, after, done, growing, reads⟩ :=
    gives_constant (.i64 (Int64.ofNat number)) state
  exact ⟨scalar, after, done, growing, Scalar.at_of_reads reads counts⟩

/-- The indices are read when each of them names a position. -/
theorem positions_eq_ok {positions : List Nat} :
    (indices.mapM fun index => do
      ofExcept (Scalar.position (← readLiteral index.value)) : Host ρ (List Nat)) state =
        .ok positions after ↔
      List.Forall₂ (Scalar.At state.heap) indices positions ∧ state = after := by
  induction indices generalizing positions after with
  | nil =>
      rw [List.mapM_nil, List.forall₂_nil_left_iff]
      exact pure_ok.trans (and_congr_left fun _ => eq_comm)
  | cons scalar rest inductionHypothesis =>
      rw [List.mapM_cons, List.forall₂_cons_left_iff]
      constructor
      · intro done
        obtain ⟨position, _, first, done⟩ := bind_ok.mp done
        obtain ⟨element, _, seen, found⟩ := bind_ok.mp first
        obtain ⟨read, rfl⟩ := readLiteral_ok.mp seen
        obtain ⟨placed, rfl⟩ := ofExcept_ok.mp found
        obtain ⟨others, _, more, done⟩ := bind_ok.mp done
        obtain ⟨named, rfl⟩ := inductionHypothesis.mp more
        obtain ⟨rfl, rfl⟩ := pure_ok.mp done
        exact ⟨⟨position, others, ⟨element, read, placed⟩, named, rfl⟩, rfl⟩
      · rintro ⟨⟨position, others, ⟨element, read, placed⟩, named, rfl⟩, rfl⟩
        refine bind_ok.mpr ⟨position, state, ?_, ?_⟩
        · exact bind_ok.mpr ⟨element, state, readLiteral_ok.mpr ⟨read, rfl⟩,
            ofExcept_ok.mpr ⟨placed, rfl⟩⟩
        · exact bind_ok.mpr ⟨others, state, inductionHypothesis.mpr ⟨named, rfl⟩, rfl⟩

/-- All indices of an address that was found name positions, and nothing was written. -/
theorem offset_ok {answer : Value}
    (done : (offset value indices : Host ρ Value) state = .ok answer after) :
    state = after ∧ ∃ elements positions,
      List.Forall₂ (Scalar.At state.heap) indices positions ∧
        value.advanced elements state.heap = .ok answer := by
  obtain ⟨layout, _, ready, done⟩ := bind_ok.mp done
  obtain ⟨-, rfl⟩ := ofExcept_ok.mp ready
  dsimp only at done
  split at done
  · obtain ⟨_, _, failed, -⟩ := bind_ok.mp done
    exact (fail_ok failed).elim
  · obtain ⟨positions, _, read, done⟩ := bind_ok.mp done
    obtain ⟨named, rfl⟩ := positions_eq_ok.mp read
    obtain ⟨place, _, placed, done⟩ := bind_ok.mp done
    obtain ⟨-, rfl⟩ := ofExcept_ok.mp placed
    obtain ⟨found, rfl⟩ := look_ok.mp done
    exact ⟨rfl, place, positions, named, found⟩

/-! ### Elements -/

/-- An address is found as soon as its position is. -/
theorem offset_advances (ready : value.ready = .ok layout)
    (named : List.Forall₂ (Scalar.At state.heap) indices coordinates)
    (flat : layout.flatOffset coordinates = .ok position) :
    (offset value indices : Host ρ Value) state =
      onHeap (Action.ofExcept (value.advanced position state.heap)) state := by
  have counted := (Layout.flatOffset_eq_ok.mp flat).1
  refine (bind_of_ok (ofExcept_ok.mpr ⟨ready, rfl⟩)).trans ?_
  have same : ¬ indices.length ≠ layout.rank := not_not.mpr (named.length_eq.trans counted)
  rw [if_neg same]
  refine (bind_of_ok (positions_eq_ok.mpr ⟨named, rfl⟩)).trans ?_
  exact (bind_of_ok (ofExcept_ok.mpr ⟨flat, rfl⟩)).trans (onHeap_get _ _)

theorem offset_eq (stands : value.Stands state.heap name base)
    (shaped : value.layout? = some layout)
    (named : List.Forall₂ (Scalar.At state.heap) indices coordinates)
    (counted : coordinates.length = layout.rank) :
    (offset value indices : Host ρ Value) state =
      onHeap (Action.ofExcept (value.advanced (layout.place coordinates) state.heap)) state :=
  offset_advances (stands.ready_iff.mpr shaped) named (Layout.flatOffset_ok counted)

theorem offset_done (stands : value.Stands state.heap name base)
    (shaped : value.layout? = some layout)
    (named : List.Forall₂ (Scalar.At state.heap) indices coordinates)
    (counted : coordinates.length = layout.rank)
    (within : base + layout.place coordinates ≤ (state.heap.storage name).size) :
    (offset value indices : Host ρ Value) state =
      .ok (value.moved name (base + layout.place coordinates)) state := by
  rw [offset_eq stands shaped named counted, stands.advanced_done within]
  rfl

theorem offset_refused (stands : value.Stands state.heap name base)
    (shaped : value.layout? = some layout)
    (named : List.Forall₂ (Scalar.At state.heap) indices coordinates)
    (counted : coordinates.length = layout.rank)
    (outside : (state.heap.storage name).size < base + layout.place coordinates) :
    (offset value indices : Host ρ Value) state =
      .error (.error (.indexOutOfRange (base + layout.place coordinates)
        (state.heap.storage name).size)) state := by
  rw [offset_eq stands shaped named counted, stands.advanced_refused outside]
  rfl

theorem withLayout_done (placed : value.place = .host name index)
    (room : index + view.span ≤ (state.heap.storage name).size) :
    (Kernel.withLayout value view : Host ρ Value) state = .ok (value.shown name index view) state :=
  look_ok.mpr ⟨Value.withLayout_done placed room, rfl⟩

/-- The element at coordinates that are inside is found, and nothing is written. -/
theorem element_done (stands : value.Stands state.heap name base)
    (shaped : value.layout? = some layout)
    (named : List.Forall₂ (Scalar.At state.heap) indices coordinates)
    (inside : layout.Inside coordinates) :
    (Kernel.element value indices : Host ρ Scalar) state =
      .ok (item (state.heap.storage name).dtype name (base + layout.place coordinates)) state := by
  have counted := inside.length_eq.trans layout.length_logicalSizes
  have below := inside.place_lt
  have room := (stands.fits layout shaped).2
  have one : Layout.scalar.span = 1 := rfl
  refine (bind_of_ok (offset_done stands shaped named counted (by omega))).trans ?_
  refine (bind_of_ok (withLayout_done rfl (by omega))).trans ?_
  refine ofExcept_ok.mpr ⟨?_, rfl⟩
  obtain ⟨dtype?, layout?, place⟩ := value
  cases stands.typed
  rfl

theorem scalar_of_value (done : Scalar.ofValue value = .ok scalar) : scalar.value = value := by
  obtain ⟨dtype?, layout?, place⟩ := value
  unfold Scalar.ofValue at done
  split at done
  · cases done
  split at done
  · dsimp only at done
    split at done
    · cases done
      rfl
    · cases done
  · cases done

/-- An element that was found, at whatever indices, is in the storage of the value. -/
theorem element_ok (placed : value.place = .host name base)
    (done : (Kernel.element value indices : Host ρ Scalar) state = .ok scalar after) :
    state = after ∧ (∃ positions, List.Forall₂ (Scalar.At state.heap) indices positions) ∧
      ∃ index, scalar.value.place = .host name index := by
  obtain ⟨addressed, _, first, done⟩ := bind_ok.mp done
  obtain ⟨rfl, elements, positions, named, advanced⟩ := offset_ok first
  obtain ⟨answer, _, second, done⟩ := bind_ok.mp done
  obtain ⟨made, rfl⟩ := look_ok.mp second
  obtain ⟨taken, rfl⟩ := ofExcept_ok.mp done
  refine ⟨rfl, ⟨positions, named⟩, base + elements, ?_⟩
  rw [scalar_of_value taken, Value.place_of_withLayout made]
  exact Value.place_of_advanced placed advanced

/-! ### Scalars that were computed -/

theorem checkType_ok {left right : Scalar}
    (done : (Scalar.checkType left right : Host ρ Unit) state = .ok () after) : state = after := by
  unfold Scalar.checkType at done
  split at done
  · exact (pure_ok.mp done).2
  · exact (fail_ok done).elim

/-- What was computed stands in a storage of its own. -/
theorem literal_of_made {element : Literal} {answer : Value}
    (made : (onHeap (Value.ofLiteral element) : Host ρ Value) state = .ok answer after)
    (taken : Scalar.ofValue answer = .ok scalar) :
    state.heap.Grows after.heap ∧ literal scalar.value after.heap = .ok element := by
  have same := scalar_of_value taken
  cases made
  refine ⟨.add _ _, Scalar.literal_eq_ok.mpr ⟨state.heap.next, 0, ?_, ?_⟩⟩
  · rw [same]
  · change ((state.heap.add _).storage state.heap.next).cells[0]? = _
    rw [Heap.storage_add_self]
    rfl

theorem binary_ok {op : BinaryOp} {left right : Scalar}
    (done : (left.binary op right : Host ρ Scalar) state = .ok scalar after) :
    state.heap.Grows after.heap ∧ ∃ first second result,
      literal left.value state.heap = .ok first ∧ literal right.value state.heap = .ok second ∧
        first.binary op second = .ok result ∧ literal scalar.value after.heap = .ok result := by
  obtain ⟨_, _, checked, done⟩ := bind_ok.mp done
  obtain rfl := checkType_ok checked
  obtain ⟨answer, _, computed, done⟩ := bind_ok.mp done
  obtain ⟨taken, rfl⟩ := ofExcept_ok.mp done
  change Host.binary op left.value right.value state = _ at computed
  unfold Host.binary at computed
  obtain ⟨_, counted, one, computed⟩ := bind_ok.mp computed
  have same : counted.heap = state.heap := by
    rw [← count_ok.mp one]
  obtain ⟨first, _, read, computed⟩ := bind_ok.mp computed
  obtain ⟨found, rfl⟩ := readLiteral_ok.mp read
  obtain ⟨second, _, read', computed⟩ := bind_ok.mp computed
  obtain ⟨found', rfl⟩ := readLiteral_ok.mp read'
  obtain ⟨result, _, evaluated, made⟩ := bind_ok.mp computed
  obtain ⟨evaluated', rfl⟩ := ofExcept_ok.mp evaluated
  obtain ⟨growing, stored⟩ := literal_of_made made taken
  rw [same] at growing found found'
  exact ⟨growing, first, second, result, found, found', evaluated', stored⟩

theorem unary_ok {op : UnaryOp} {operand : Scalar}
    (done : (operand.unary op : Host ρ Scalar) state = .ok scalar after) :
    state.heap.Grows after.heap ∧ ∃ element result, literal operand.value state.heap = .ok element ∧
      element.unary op = .ok result ∧ literal scalar.value after.heap = .ok result := by
  obtain ⟨answer, _, computed, done⟩ := bind_ok.mp done
  obtain ⟨taken, rfl⟩ := ofExcept_ok.mp done
  change Host.unary op operand.value state = _ at computed
  unfold Host.unary at computed
  obtain ⟨_, counted, one, computed⟩ := bind_ok.mp computed
  have same : counted.heap = state.heap := by
    rw [← count_ok.mp one]
  obtain ⟨element, _, read, computed⟩ := bind_ok.mp computed
  obtain ⟨found, rfl⟩ := readLiteral_ok.mp read
  obtain ⟨result, _, evaluated, made⟩ := bind_ok.mp computed
  obtain ⟨evaluated', rfl⟩ := ofExcept_ok.mp evaluated
  obtain ⟨growing, stored⟩ := literal_of_made made taken
  rw [same] at growing found
  exact ⟨growing, element, result, found, evaluated', stored⟩

/-! ### Stores -/

/-- A store writes what it has read. -/
theorem store_ok {target source : Value}
    (done : (store target source : Host ρ Unit) state = .ok () after) :
    ∃ element, literal source state.heap = .ok element ∧ target.dtype? = some element.dtype ∧
      target.set [] element state.heap = .ok () after.heap := by
  obtain ⟨element, _, read, done⟩ := bind_ok.mp done
  obtain ⟨found, rfl⟩ := readLiteral_ok.mp read
  obtain ⟨dtype, _, typed, done⟩ := bind_ok.mp done
  obtain ⟨typed', rfl⟩ := ofExcept_ok.mp typed
  dsimp only at done
  split at done
  · obtain ⟨_, _, failed, -⟩ := bind_ok.mp done
    exact (fail_ok failed).elim
  · rename_i same
    obtain ⟨_, _, counted, done⟩ := bind_ok.mp done
    obtain rfl := count_ok.mp counted
    obtain ⟨heap, written, rfl⟩ := onHeap_ok.mp done
    refine ⟨element, found, ?_, written⟩
    rw [Value.dtype_ok.mp typed', not_not.mp same]

theorem assign_ok {target source : Scalar} (placed : target.value.place = .host name index)
    (done : (target.assign source : Host ρ Unit) state = .ok () after) :
    ∃ element, literal source.value state.heap = .ok element ∧
      Heap.setCell name index element state.heap = .ok () after.heap := by
  obtain ⟨_, _, checked, done⟩ := bind_ok.mp done
  obtain rfl := checkType_ok checked
  obtain ⟨element, read, -, written⟩ := store_ok done
  rw [(Scalar.lies_of_place placed).set] at written
  exact ⟨element, read, written⟩

end Host
/-! ### Elements -/

namespace Value

variable {value : Value} {heap after : Heap} {name base : Nat} {layout : Layout}
  {coordinates : List Nat} {element : Literal}

theorem Stands.get_grows (stands : value.Stands heap name base) (growing : heap.Grows after)
    (coordinates : List Nat) : value.get coordinates after = value.get coordinates heap := by
  simp only [Value.get, getFlat, stands.host, bind, Except.bind, Heap.cell,
    growing.kept name stands.known]

/-- What is read has the type of its value. -/
theorem Stands.dtype_of_get (stands : value.Stands heap name base)
    (read : value.get coordinates heap = .ok element) : value.dtype? = some element.dtype := by
  obtain ⟨layout, -, read⟩ := bind_eq_ok.mp read
  obtain ⟨position, -, read⟩ := bind_eq_ok.mp read
  simp only [getFlat, stands.host, bind, Except.bind] at read
  rw [stands.typed, Storage.dtype_of_get read]

/-- Every active element is read, and it has the type of its value. -/
theorem Stands.get_inside (stands : value.Stands heap name base)
    (shaped : value.layout? = some layout) (inside : layout.Inside coordinates) :
    ∃ element, value.get coordinates heap = .ok element ∧ value.dtype? = some element.dtype := by
  have lies := (stands.lies_iff shaped).mpr ⟨inside, rfl, rfl⟩
  obtain ⟨element, read⟩ := Storage.exists_get (stands.lies_lt lies).2
  rw [lies.get, stands.typed]
  exact ⟨element, read, congrArg some (Storage.dtype_of_get read).symm⟩

end Value

namespace Host

variable {ρ : Type} {state : HostState ρ} {value : Value} {heap : Heap} {name base index : Nat}
  {layout : Layout} {coordinates : List Nat} {indices : List Scalar} {element : Literal}
  {scalar : Scalar}

theorem reads_cell (known : name < heap.next)
    (held : (heap.storage name).cells[index]? = some element) :
    Reads heap (item (heap.storage name).dtype name index) element :=
  ⟨((heap.storage name).typed element (Array.mem_of_getElem? held)).symm, rfl, name, index, rfl,
    known, held⟩

/-- An element at known indices is a scalar that stands for it. -/
theorem element_reads (stands : value.Stands state.heap name base)
    (shaped : value.layout? = some layout)
    (named : List.Forall₂ (Scalar.At state.heap) indices coordinates)
    (inside : layout.Inside coordinates) (read : value.get coordinates state.heap = .ok element) :
    ∃ scalar, (Kernel.element value indices : Host ρ Scalar) state = .ok scalar state ∧
      Reads state.heap scalar element := by
  have lies := (stands.lies_iff shaped).mpr ⟨inside, rfl, rfl⟩
  rw [lies.get] at read
  exact ⟨_, element_done stands shaped named inside,
    reads_cell stands.known (Heap.cell_eq_ok.mp read)⟩

/-- One cell is overwritten by what a scalar stands for. -/
theorem assign_written (known : name < state.heap.next)
    (within : index < (state.heap.storage name).size) (reads : Reads state.heap scalar element)
    (typed : element.dtype = (state.heap.storage name).dtype) :
    Yields ((item (state.heap.storage name).dtype name index).assign scalar : Host ρ Unit) state
      fun _ after => state.heap.Written after.heap name index [(0, element)] := by
  let cell : Nat × Literal := (0, element)
  have inside : index + cell.1 < (state.heap.storage name).size := within
  have sameType : cell.2.dtype = (state.heap.storage name).dtype := typed
  obtain ⟨heap, done, written⟩ := Heap.setCell_written known inside sameType
  refine .behind (checkType_done (typed.symm.trans reads.dtype.symm)) ?_
  refine .behind (readLiteral_reads reads) (.behind (ofExcept_ok.mpr ⟨rfl, rfl⟩) ?_)
  dsimp only
  rw [if_neg (not_not.mpr typed.symm)]
  have set : (item (state.heap.storage name).dtype name index).value.set [] element state.heap =
      .ok () heap := by
    rw [(Scalar.lies_of_place rfl).set]
    exact done
  exact .behind rfl (.of_done (onHeap_ok.mpr ⟨heap, set, rfl⟩) written)

theorem checkCompatible_done {target source : Value} {layout shape : Layout} {dtype : DType}
    (ready : target.ready = .ok layout) (ready' : source.ready = .ok shape)
    (same : layout.logicalSizes = shape.logicalSizes) (typed : target.dtype = .ok dtype)
    (typed' : source.dtype = .ok dtype) : Kernel.checkCompatible target source = .ok () := by
  simp only [Kernel.checkCompatible, ready, ready', typed, typed', bind, Except.bind]
  rw [if_neg (not_not.mpr same), if_neg (not_not.mpr rfl)]
  rfl

theorem cell_done (dtype : DType) (state : HostState ρ) :
    (Kernel.cell dtype : Host ρ Scalar) state =
      .ok (item dtype state.heap.next 0) (onto state (state.heap.add (Storage.zeros dtype 1))) :=
  rfl

theorem reads_zero (dtype : DType) (heap : Heap) :
    Reads (heap.add (Storage.zeros dtype 1)) (item dtype heap.next 0) (.zero dtype) := by
  refine ⟨(Literal.dtype_zero dtype).symm, rfl, heap.next, 0, rfl, ?_, ?_⟩
  · rw [Heap.next_add]
    exact Nat.lt_succ_self _
  · rw [Heap.storage_add_self]
    rfl

end Host
end TensorGraph

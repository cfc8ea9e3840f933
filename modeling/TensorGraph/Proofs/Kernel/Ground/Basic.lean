/-
What a run on the host may stop with.

Which faults a kernel can end in does not depend on the numbers that it works
on, but for the positions that it reads them at.  So it is enough to know of each
storage its type and its size, and of the storages of positions a limit, as these
are never written.  A run is sound on such a ground when each of its faults is
one of those allowed, and when it leaves what was known of the storages true.
-/

import TensorGraph.Proofs.Kernel.Rows
import TensorGraph.Proofs.Layout.Bounds

namespace TensorGraph

/-- What is known of one storage. -/
inductive Room where
  /-- Elements of one type, which may be written. -/
  | row (dtype : DType) (size : Nat)
  /-- One position that is never written, and at most `limit`. -/
  | position (limit : Nat)

def Room.Fits : Room → Storage → Prop
  | row dtype size, storage => storage.dtype = dtype ∧ storage.size = size
  | position limit, storage =>
      ∃ index : Int64, storage = Storage.singleton (.i64 index) ∧ index.toUInt64.toNat ≤ limit

namespace Room

theorem fits_storage (storage : Storage) : Fits (.row storage.dtype storage.size) storage :=
  ⟨rfl, rfl⟩

theorem fits_singleton (element : Literal) :
    Fits (.row element.dtype 1) (Storage.singleton element) :=
  ⟨rfl, rfl⟩

theorem fits_zeros (dtype : DType) (size : Nat) :
    Fits (.row dtype size) (Storage.zeros dtype size) :=
  ⟨rfl, Array.size_replicate⟩

end Room

/-- What is known of all storages, in a run with some allowed faults. -/
structure Ground (allowed : Fault → Prop) where
  room? : Nat → Option Room

namespace Ground

variable {allowed : Fault → Prop} {ground later : Ground allowed} {ρ α β : Type} {heap : Heap}

def Holds (ground : Ground allowed) (heap : Heap) : Prop :=
  ∀ name room, ground.room? name = some room →
    name < heap.next ∧ room.Fits (heap.storage name)

/-- Nothing that was known has changed. -/
def Later (ground later : Ground allowed) : Prop :=
  ∀ name room, ground.room? name = some room → later.room? name = some room

theorem Later.refl (ground : Ground allowed) : ground.Later ground :=
  fun _ _ known => known

theorem Later.trans {middle : Ground allowed} (one : ground.Later middle)
    (two : middle.Later later) : ground.Later later :=
  fun name room known => two name room (one name room known)

/-- One more storage is known. -/
def extended (ground : Ground allowed) (name : Nat) (room : Room) : Ground allowed :=
  { room? := fun other => if other = name then some room else ground.room? other }

theorem room?_extended (ground : Ground allowed) (name : Nat) (room : Room) :
    (ground.extended name room).room? name = some room :=
  if_pos rfl

theorem Holds.later_extended (holds : ground.Holds heap) (room : Room) :
    ground.Later (ground.extended heap.next room) := by
  intro name room' known
  have below := (holds name room' known).1
  exact (if_neg below.ne).trans known

theorem Holds.extended (holds : ground.Holds heap) {room : Room} {storage : Storage}
    (fits : room.Fits storage) : (ground.extended heap.next room).Holds (heap.add storage) := by
  intro name room' known
  by_cases fresh : name = heap.next
  · subst fresh
    cases (room?_extended ground heap.next room).symm.trans known
    rw [Heap.next_add, Heap.storage_add_self]
    exact ⟨Nat.lt_succ_self _, fits⟩
  · obtain ⟨below, fits'⟩ := holds name room' ((if_neg fresh).symm.trans known)
    rw [Heap.next_add, Heap.storage_add_of_lt below]
    exact ⟨below.trans (Nat.lt_succ_self _), fits'⟩

theorem Holds.replace (holds : ground.Holds heap) {name : Nat} {dtype : DType} {size : Nat}
    (known : ground.room? name = some (.row dtype size)) {storage : Storage}
    (typed : storage.dtype = dtype) (sized : storage.size = size) :
    ground.Holds (heap.replace name storage) := by
  intro other room known'
  obtain ⟨below, fits⟩ := holds other room known'
  rw [Heap.next_replace]
  refine ⟨below, ?_⟩
  by_cases same : other = name
  · subst same
    cases known.symm.trans known'
    rw [Heap.storage_replace_self below]
    exact ⟨typed, sized⟩
  · rw [Heap.storage_replace_of_ne same]
    exact fits

/-! ### Sound runs -/

/-- The run stops with allowed faults only, and its answer is of the right kind. -/
def Runs (ground : Ground allowed) (run : Host ρ α) (post : Ground allowed → α → Prop) : Prop :=
  ∀ state, ground.Holds state.heap →
    (∀ answer after, run state = .ok answer after →
      ∃ later, ground.Later later ∧ later.Holds after.heap ∧ post later answer) ∧
    ∀ fault after, run state = .error fault after → allowed fault

namespace Runs

variable {post : Ground allowed → α → Prop}

theorem weaken {run : Host ρ α} {stronger : Ground allowed → α → Prop}
    (sound : ground.Runs run stronger)
    (implies : ∀ later answer, ground.Later later → stronger later answer → post later answer) :
    ground.Runs run post := by
  intro state holds
  refine ⟨fun answer after done => ?_, (sound state holds).2⟩
  obtain ⟨later, growing, holds', found⟩ := (sound state holds).1 answer after done
  exact ⟨later, growing, holds', implies later answer growing found⟩

theorem pure {answer : α} (found : post ground answer) :
    ground.Runs (Pure.pure answer : Host ρ α) post := by
  intro state holds
  refine ⟨fun result after done => ?_, fun fault after failed => ?_⟩
  · obtain ⟨rfl, rfl⟩ := Host.pure_ok.mp done
    exact ⟨ground, .refl ground, holds, found⟩
  · cases failed

theorem bind {first : Host ρ α} {rest : α → Host ρ β} {between : Ground allowed → α → Prop}
    {post : Ground allowed → β → Prop} (one : ground.Runs first between)
    (two : ∀ later answer, ground.Later later → between later answer →
      later.Runs (rest answer) post) : ground.Runs (first >>= rest) post := by
  intro state holds
  refine ⟨fun result after done => ?_, fun fault after failed => ?_⟩
  · obtain ⟨answer, middle, first, second⟩ := Host.bind_ok.mp done
    obtain ⟨later, growing, holds', found⟩ := (one state holds).1 answer middle first
    obtain ⟨last, growing', holds'', found'⟩ :=
      (two later answer growing found middle holds').1 result after second
    exact ⟨last, growing.trans growing', holds'', found'⟩
  · rcases Host.bind_error.mp failed with failed | ⟨answer, middle, first, failed⟩
    · exact (one state holds).2 fault after failed
    · obtain ⟨later, growing, holds', found⟩ := (one state holds).1 answer middle first
      exact (two later answer growing found middle holds').2 fault after failed

theorem fail {cause : Error} (known : allowed (.error cause)) :
    ground.Runs (Kernel.fail cause : Host ρ α) post := by
  intro state holds
  refine ⟨fun answer after done => ?_, fun fault after failed => ?_⟩
  · cases done
  · cases failed
    exact known

/-- A look at the heap. -/
theorem read {view : Heap → Except Error α}
    (seen : ∀ heap, ground.Holds heap → (∃ answer, view heap = .ok answer ∧ post ground answer) ∨
      ∃ cause, view heap = .error cause ∧ allowed (.error cause)) :
    ground.Runs (Kernel.read view : Host ρ α) post := by
  intro state holds
  refine ⟨fun answer after done => ?_, fun fault after failed => ?_⟩
  · obtain ⟨looked, rfl⟩ := Host.look_ok.mp done
    rcases seen state.heap holds with ⟨answer', looked', found⟩ | ⟨cause, looked', -⟩
    · cases looked.symm.trans looked'
      exact ⟨ground, .refl ground, holds, found⟩
    · cases looked.symm.trans looked'
  · obtain ⟨cause, looked, rfl, rfl⟩ := Host.look_error.mp failed
    rcases seen state.heap holds with ⟨answer', looked', -⟩ | ⟨cause', looked', known⟩
    · cases looked.symm.trans looked'
    · cases looked.symm.trans looked'
      exact known

theorem ofExcept {result : Except Error α}
    (seen : (∃ answer, result = .ok answer ∧ post ground answer) ∨
      ∃ cause, result = .error cause ∧ allowed (.error cause)) :
    ground.Runs (Kernel.ofExcept result : Host ρ α) post := by
  rcases seen with ⟨answer, rfl, found⟩ | ⟨cause, rfl, known⟩
  · exact pure found
  · exact fail known

/-- A pure result that is there. -/
theorem answered {result : Except Error α} {answer : α} (done : result = .ok answer)
    (found : post ground answer) : ground.Runs (Kernel.ofExcept result : Host ρ α) post :=
  ofExcept (.inl ⟨answer, done, found⟩)

/-- A pure result of which nothing else is to be known. -/
theorem exactly {result : Except Error α} {answer : α} (done : result = .ok answer) :
    ground.Runs (Kernel.ofExcept result : Host ρ α) fun _ found => answer = found :=
  answered done rfl

theorem count (operations : Nat) :
    ground.Runs (Host.count operations : Host ρ Unit) fun _ _ => True := by
  intro state holds
  refine ⟨fun answer after done => ?_, fun fault after failed => ?_⟩
  · obtain rfl := Host.count_ok.mp done
    exact ⟨ground, .refl ground, holds, trivial⟩
  · exact (Host.count_error failed).elim

/-- A new storage. -/
theorem fresh {storage : Storage} {room : Room} (fits : room.Fits storage) (answer : Nat → α)
    (found : ∀ later name, ground.Later later → later.room? name = some room →
      post later (answer name)) :
    ground.Runs (Host.onHeap (do
      let name ← Heap.allocate storage
      return answer name) : Host ρ α) post := by
  intro state holds
  refine ⟨fun result after done => ?_, fun fault after failed => ?_⟩
  · obtain ⟨heap, made, rfl⟩ := Host.onHeap_ok.mp done
    cases made
    have growing := holds.later_extended room
    exact ⟨_, growing, holds.extended fits, found _ _ growing (room?_extended _ _ _)⟩
  · obtain ⟨heap, stopped, -⟩ := Host.onHeap_error.mp failed
    cases stopped

/-- A change of one storage that keeps its type and its size. -/
theorem update {name : Nat} {dtype : DType} {size : Nat}
    (known : ground.room? name = some (.row dtype size))
    (change : Heap → Storage → Except Error Storage)
    (done : ∀ heap, ground.Holds heap → ∃ changed,
      change heap (heap.storage name) = .ok changed ∧ changed.dtype = dtype ∧
        changed.size = size) :
    ground.Runs (Host.onHeap (do Heap.update name (change (← get))) : Host ρ Unit)
      fun _ _ => True := by
  intro state holds
  obtain ⟨changed, same, typed, sized⟩ := done state.heap holds
  have ran : (do Heap.update name (change (← get)) : Action Heap Unit) state.heap =
      .ok () (state.heap.replace name changed) := by
    change Heap.update name (change state.heap) state.heap = _
    unfold Heap.update
    rw [same]
  refine ⟨fun answer after done => ?_, fun fault after failed => ?_⟩
  · obtain ⟨heap, ran', rfl⟩ := Host.onHeap_ok.mp done
    cases ran.symm.trans ran'
    exact ⟨ground, .refl ground, holds.replace known typed sized, trivial⟩
  · obtain ⟨heap, stopped, -⟩ := Host.onHeap_error.mp failed
    cases ran.symm.trans stopped

end Runs

/-! ### Scalars -/

/-- The scalar is one element of a storage that may be written. -/
def Spot (ground : Ground allowed) (dtype : DType) (scalar : Scalar) : Prop :=
  ∃ name index size, scalar = Host.item dtype name index ∧
    ground.room? name = some (.row dtype size) ∧ index < size

/-- The scalar is a position, at most `limit`. -/
def Names (ground : Ground allowed) (limit : Nat) (scalar : Scalar) : Prop :=
  ∃ name, scalar = Host.item .i64 name 0 ∧ ground.room? name = some (.position limit)

@[grind →]
theorem Spot.mono {dtype : DType} {scalar : Scalar} (spot : ground.Spot dtype scalar)
    (growing : ground.Later later) : later.Spot dtype scalar := by
  obtain ⟨name, index, size, rfl, known, below⟩ := spot
  exact ⟨name, index, size, rfl, growing _ _ known, below⟩

@[grind →]
theorem Names.mono {limit : Nat} {scalar : Scalar} (names : ground.Names limit scalar)
    (growing : ground.Later later) : later.Names limit scalar := by
  obtain ⟨name, rfl, known⟩ := names
  exact ⟨name, rfl, growing _ _ known⟩

attribute [grind →] Later.trans

theorem Spot.dtype {dtype : DType} {scalar : Scalar} (spot : ground.Spot dtype scalar) :
    scalar.dtype = dtype := by
  obtain ⟨name, index, size, rfl, -⟩ := spot
  rfl

/-- Positions up to a limit are read as they are, or it is allowed to find them negative. -/
def Counts (allowed : Fault → Prop) (count : Nat) : Prop :=
  count ≤ Nat.pow 2 63 ∨
    ∀ index : Int, allowed (.error (.invalidArgument ("negative index " ++ toString index)))

theorem Counts.mono {count less : Nat} (counts : Counts allowed count) (least : less ≤ count) :
    Counts allowed less :=
  counts.imp_left least.trans

private theorem Spot.literal {dtype : DType} {scalar : Scalar} (spot : ground.Spot dtype scalar)
    (holds : ground.Holds heap) :
    ∃ element, Host.literal scalar.value heap = .ok element ∧ element.dtype = dtype := by
  obtain ⟨name, index, size, rfl, known, below⟩ := spot
  obtain ⟨here, typed, sized⟩ := holds name _ known
  have within : index < (heap.storage name).cells.size := below.trans_eq sized.symm
  have held : (heap.storage name).cells[index]? = some (heap.storage name).cells[index] :=
    Array.getElem?_eq_getElem within
  have element := (heap.storage name).typed _ (Array.getElem_mem within)
  have same := element.trans typed
  exact ⟨_, Host.Reads.literal ⟨same.symm, rfl, name, index, rfl, here, held⟩, same⟩

private theorem Names.literal {limit : Nat} {scalar : Scalar} (names : ground.Names limit scalar)
    (holds : ground.Holds heap) :
    ∃ index : Int64, Host.literal scalar.value heap = .ok (.i64 index) ∧
      index.toUInt64.toNat ≤ limit := by
  obtain ⟨name, rfl, known⟩ := names
  obtain ⟨here, index, same, least⟩ := holds name _ known
  refine ⟨index, Host.Reads.literal ⟨rfl, rfl, name, 0, rfl, here, ?_⟩, least⟩
  rw [same]
  rfl

namespace Runs

theorem literal {dtype : DType} {scalar : Scalar} (spot : ground.Spot dtype scalar) :
    ground.Runs (Host.readLiteral scalar.value : Host ρ Literal) fun _ element =>
      element.dtype = dtype :=
  read fun _ holds => .inl (spot.literal holds)

theorem positionOf {limit : Nat} {index : Int64} (least : index.toUInt64.toNat ≤ limit)
    (counts : Counts allowed (limit + 1)) :
    ground.Runs (Kernel.ofExcept (Scalar.position (.i64 index)) : Host ρ Nat) fun _ answer =>
      answer ≤ limit := by
  have unsigned : index.toUInt64.toNat = index.toBitVec.toNat := rfl
  have signed : (Literal.i64 index).toInt64.toInt = index.toBitVec.toInt := rfl
  refine ofExcept ?_
  unfold Scalar.position
  rw [signed, BitVec.toInt_eq_toNat_cond]
  rw [unsigned] at least
  have width : index.toBitVec.toNat < 2 ^ 64 := index.toBitVec.isLt
  by_cases half : 2 * index.toBitVec.toNat < 2 ^ 64
  · rw [if_pos half, if_pos (Int.natCast_nonneg _)]
    exact .inl ⟨_, rfl, least⟩
  · rw [if_neg half, if_neg (by omega)]
    rcases counts with few | known
    · change limit + 1 ≤ 2 ^ 63 at few
      omega
    · exact .inr ⟨_, rfl, known _⟩

/-- The element of a position. -/
theorem named {limit : Nat} {scalar : Scalar} (names : ground.Names limit scalar) :
    ground.Runs (Host.readLiteral scalar.value : Host ρ Literal) fun _ element =>
      ∃ index : Int64, element = .i64 index ∧ index.toUInt64.toNat ≤ limit := by
  refine read fun heap holds => .inl ?_
  obtain ⟨index, found, least⟩ := names.literal holds
  exact ⟨_, found, index, rfl, least⟩

theorem position {limit : Nat} {scalar : Scalar} (names : ground.Names limit scalar)
    (counts : Counts allowed (limit + 1)) :
    ground.Runs (do Host.ofExcept (Scalar.position (← Host.readLiteral scalar.value)) :
      Host ρ Nat) fun _ answer => answer ≤ limit := by
  refine (named names).bind ?_
  rintro later _ growing ⟨index, rfl, least⟩
  exact positionOf least counts

/-- A position below a size is not refused. -/
theorem checkBelow {limit size : Nat} {scalar : Scalar} (names : ground.Names limit scalar)
    (below : limit < size) (counts : Counts allowed size) :
    ground.Runs (scalar.checkBelow size : Host ρ Unit) fun _ _ => True := by
  have known : ground.Runs (Scalar.known scalar : Host ρ (Option Literal)) fun _ found =>
      ∃ index : Int64, found = some (.i64 index) ∧ index.toUInt64.toNat ≤ limit := by
    intro state holds
    obtain ⟨index, found, least⟩ := names.literal holds
    refine ⟨fun answer after done => ?_, fun fault after failed => ?_⟩
    · cases done
      exact ⟨ground, .refl ground, holds, index, by rw [found]; rfl, least⟩
    · cases failed
  have place : ground.Runs (scalar.knownPosition : Host ρ (Option Nat)) fun _ found =>
      ∃ place ≤ limit, found = some place := by
    refine known.bind ?_
    rintro later _ growing ⟨index, rfl, least⟩
    have found : later.Runs (Kernel.ofExcept (Scalar.position (.i64 index)) : Host ρ Nat)
        fun _ answer => answer ≤ limit := positionOf least (counts.mono below)
    change later.Runs (some <$> (Kernel.ofExcept _ : Host ρ Nat)) _
    rw [← bind_pure_comp]
    exact found.bind fun _ place _ least => pure ⟨place, least, rfl⟩
  refine place.bind ?_
  rintro later _ growing ⟨place, least, rfl⟩
  dsimp only
  rw [if_neg (by omega)]
  exact pure trivial

theorem constant (element : Literal) :
    ground.Runs (Scalar.constant element : Host ρ Scalar) fun later scalar =>
      later.Spot element.dtype scalar :=
  fresh (Room.fits_singleton element) (fun name => Host.item element.dtype name 0)
    fun _ name _ known => ⟨name, 0, 1, rfl, known, Nat.one_pos⟩

theorem like {dtype : DType} {scalar : Scalar} (spot : ground.Spot dtype scalar) (number : Float) :
    ground.Runs (scalar.like number : Host ρ Scalar) fun later answer =>
      later.Spot dtype answer := by
  unfold Scalar.like
  rw [spot.dtype]
  refine (constant (.ofFloat dtype number)).weaken fun later answer _ found => ?_
  rwa [Literal.dtype_ofFloat] at found

theorem index (place : Nat) :
    ground.Runs (Scalar.index place : Host ρ Scalar) fun later scalar =>
      later.Names place scalar := by
  have fits : Room.Fits (.position place) (Storage.singleton (.i64 (Int64.ofNat place))) :=
    ⟨Int64.ofNat place, rfl, Nat.mod_le _ _⟩
  exact fresh fits (fun name => Host.item .i64 name 0) fun _ name _ known => ⟨name, rfl, known⟩

/-- A new element that some pure step gives. -/
private theorem scalarOf {result : Except Error Literal} {dtype : DType}
    (seen : (∃ element, result = .ok element ∧ element.dtype = dtype) ∨
      ∃ cause, result = .error cause ∧ allowed (.error cause)) :
    ground.Runs (do
      let value ← Host.ofExcept result >>= fun element => Host.onHeap (Value.ofLiteral element)
      Kernel.ofExcept (Scalar.ofValue value) : Host ρ Scalar) fun later scalar =>
        later.Spot dtype scalar := by
  have first : ground.Runs (Host.ofExcept result : Host ρ Literal) fun _ element =>
      element.dtype = dtype := ofExcept seen
  rw [bind_assoc]
  refine first.bind ?_
  rintro one element growing rfl
  have held : one.Runs (Host.onHeap (Value.ofLiteral element) : Host ρ Value) fun later value =>
      ∃ name, value = (Host.item element.dtype name 0).value ∧
        later.room? name = some (.row element.dtype 1) :=
    fresh (Room.fits_singleton element) (fun name => (Host.item element.dtype name 0).value)
      fun _ name _ known => ⟨name, rfl, known⟩
  refine held.bind ?_
  rintro two _ growing' ⟨name, rfl, known⟩
  exact answered rfl ⟨name, 0, 1, rfl, known, Nat.one_pos⟩

/-- Two elements of a type give one more, or an allowed fault. -/
def Combines (allowed : Fault → Prop) (dtype : DType) (op : BinaryOp) : Prop :=
  ∀ left right : Literal, left.dtype = dtype → right.dtype = dtype →
    (∃ element, left.binary op right = .ok element ∧ element.dtype = dtype) ∨
      ∃ cause, left.binary op right = .error cause ∧ allowed (.error cause)

theorem checkType {left right : Scalar} (same : left.dtype = right.dtype) :
    ground.Runs (Scalar.checkType left right : Host ρ Unit) fun _ _ => True := by
  unfold Scalar.checkType
  rw [if_pos same]
  exact pure trivial

theorem binary {dtype : DType} {op : BinaryOp} (combines : Combines allowed dtype op)
    {left right : Scalar} (spot : ground.Spot dtype left) (spot' : ground.Spot dtype right) :
    ground.Runs (left.binary op right : Host ρ Scalar) fun later answer =>
      later.Spot dtype answer := by
  refine (checkType (spot.dtype.trans spot'.dtype.symm)).bind fun one _ growing _ => ?_
  change one.Runs (Host.binary op left.value right.value >>= _) _
  unfold Host.binary
  rw [bind_assoc]
  refine (count 1).bind fun two _ growing' _ => ?_
  rw [bind_assoc]
  refine (literal (spot.mono (growing.trans growing'))).bind fun three element growing₃ typed => ?_
  rw [bind_assoc]
  refine (literal (spot'.mono (by grind))).bind fun four element' growing₄ typed' => ?_
  exact scalarOf (combines element element' typed typed')

/-- Arithmetic on floating point numbers always has a result. -/
theorem combines_float {dtype : DType} (float : dtype.isFloat = true) (op : BinaryOp) :
    Combines allowed dtype op := by
  rintro left right rfl typed
  exact .inl (Literal.float_binary op float typed)

theorem unary {dtype : DType} (float : dtype.isFloat = true) (op : UnaryOp) (other : op ≠ .not)
    {operand : Scalar} (spot : ground.Spot dtype operand) :
    ground.Runs (operand.unary op : Host ρ Scalar) fun later answer =>
      later.Spot dtype answer := by
  change ground.Runs (Host.unary op operand.value >>= _) _
  unfold Host.unary
  rw [bind_assoc]
  refine (count 1).bind fun one _ growing _ => ?_
  rw [bind_assoc]
  refine (literal (spot.mono growing)).bind ?_
  rintro two element growing' rfl
  exact scalarOf (.inl (Literal.float_unary op other float))

theorem compare {dtype : DType} (op : CompareOp) {left right : Scalar}
    (spot : ground.Spot dtype left) (spot' : ground.Spot dtype right) :
    ground.Runs (left.compare op right : Host ρ Scalar) fun later answer =>
      later.Spot .bool answer := by
  refine (checkType (spot.dtype.trans spot'.dtype.symm)).bind fun one _ growing _ => ?_
  change one.Runs (Host.compare op left.value right.value >>= _) _
  unfold Host.compare
  rw [bind_assoc]
  refine (count 1).bind fun two _ growing' _ => ?_
  rw [bind_assoc]
  refine (literal (spot.mono (growing.trans growing'))).bind fun three element growing₃ typed => ?_
  rw [bind_assoc]
  refine (literal (spot'.mono (by grind))).bind fun four element' growing₄ typed' => ?_
  have seen : element.compare op element' = .ok (op.holds (element.order element')) := by
    unfold Literal.compare
    rw [if_pos (typed.trans typed'.symm)]
  have held := @scalarOf _ four ρ (Literal.bool <$> element.compare op element') .bool
    (.inl ⟨_, by rw [seen]; rfl, rfl⟩)
  rw [seen] at held ⊢
  exact held

/-- Arithmetic on positions; it may wrap around, but it never grows beyond the number. -/
private theorem placed {op : BinaryOp} {limit limit' total : Nat}
    (combines : ∀ one two : Int64, one.toUInt64.toNat ≤ limit → two.toUInt64.toNat ≤ limit' →
      ∃ sum : Int64, (Literal.i64 one).binary op (.i64 two) = .ok (.i64 sum) ∧
        sum.toUInt64.toNat ≤ total) {left right : Scalar} (names : ground.Names limit left)
    (names' : ground.Names limit' right) :
    ground.Runs (left.binary op right : Host ρ Scalar) fun later answer =>
      later.Names total answer := by
  have typed : left.dtype = right.dtype := by
    obtain ⟨_, rfl, -⟩ := names
    obtain ⟨_, rfl, -⟩ := names'
    rfl
  refine (checkType typed).bind fun one _ growing _ => ?_
  change one.Runs (Host.binary op left.value right.value >>= _) _
  unfold Host.binary
  rw [bind_assoc]
  refine (count 1).bind fun two _ growing' _ => ?_
  rw [bind_assoc]
  refine (Runs.named (names.mono (growing.trans growing'))).bind ?_
  rintro three _ growing₃ ⟨first, rfl, least⟩
  rw [bind_assoc]
  refine (Runs.named (names'.mono (by grind))).bind ?_
  rintro four _ growing₄ ⟨second, rfl, least'⟩
  obtain ⟨sum, added, bounded⟩ := combines first second least least'
  rw [bind_assoc]
  refine (exactly added).bind ?_
  rintro five _ growing₅ rfl
  have fits : Room.Fits (.position total) (Storage.singleton (.i64 sum)) := ⟨sum, rfl, bounded⟩
  have held : five.Runs (Host.onHeap (Value.ofLiteral (.i64 sum)) : Host ρ Value)
      fun later value => ∃ name, value = (Host.item .i64 name 0).value ∧
        later.room? name = some (.position total) :=
    fresh fits (fun name => (Host.item .i64 name 0).value) fun _ name _ known =>
      ⟨name, rfl, known⟩
  refine held.bind ?_
  rintro six _ growing₆ ⟨name, rfl, known⟩
  exact answered rfl ⟨name, rfl, known⟩

theorem moved {limit limit' : Nat} {left right : Scalar} (names : ground.Names limit left)
    (names' : ground.Names limit' right) :
    ground.Runs (left.binary .add right : Host ρ Scalar) fun later answer =>
      later.Names (limit + limit') answer := by
  refine placed (fun one two least least' => ⟨one + two, rfl, ?_⟩) names names'
  rw [Int64.toUInt64_add, UInt64.toNat_add]
  exact (Nat.mod_le _ _).trans (Nat.add_le_add least least')

theorem strided {limit limit' : Nat} {left right : Scalar} (names : ground.Names limit left)
    (names' : ground.Names limit' right) :
    ground.Runs (left.binary .mul right : Host ρ Scalar) fun later answer =>
      later.Names (limit * limit') answer := by
  refine placed (fun one two least least' => ⟨one * two, rfl, ?_⟩) names names'
  rw [Int64.toUInt64_mul, UInt64.toNat_mul]
  exact (Nat.mod_le _ _).trans (Nat.mul_le_mul least least')

theorem assign {dtype : DType} {target source : Scalar} (spot : ground.Spot dtype target)
    (spot' : ground.Spot dtype source) :
    ground.Runs (target.assign source : Host ρ Unit) fun _ _ => True := by
  refine (checkType (spot.dtype.trans spot'.dtype.symm)).bind fun one _ growing _ => ?_
  change one.Runs (Host.store target.value source.value) _
  unfold Host.store
  refine (literal (spot'.mono growing)).bind ?_
  rintro two element growing' rfl
  obtain ⟨name, index, size, rfl, known, below⟩ := spot.mono (growing.trans growing')
  refine (exactly rfl).bind ?_
  rintro three _ growing₃ rfl
  rw [if_neg (not_not.mpr rfl)]
  refine (count 1).bind fun four _ growing₄ _ => ?_
  refine update (growing₄ _ _ (growing₃ _ _ known))
    (fun _ storage => storage.set (index + 0) element) fun heap holds => ?_
  obtain ⟨-, typed, sized⟩ := holds name _ (growing₄ _ _ (growing₃ _ _ known))
  obtain ⟨changed, same⟩ := Storage.set_done (below.trans_eq sized.symm) typed.symm
  obtain ⟨typed', sized'⟩ := Storage.set_keeps same
  exact ⟨changed, same, typed'.trans typed, sized'.trans sized⟩

end Runs

end Ground

end TensorGraph

/-
What a kernel leaves alone.

On the host a kernel writes only to storages that it was given for writing and
to storages that it made itself.  A correspondence whose second run does not
matter says so: only what the first run does to the heap counts.
-/

import TensorGraph.Proofs.Kernel.Correspondence

namespace TensorGraph

/-- Storages of a heap that a kernel may write. -/
structure Frame where
  heap : Heap
  free : Nat → Prop

namespace Frame

variable {ρ α β γ δ : Type} {frame : Frame}

/-- Nothing but the free storages was changed. -/
structure Kept (frame : Frame) (later : Heap) : Prop where
  next : frame.heap.next ≤ later.next
  same : ∀ name < frame.heap.next, ¬ frame.free name →
    later.storage name = frame.heap.storage name

/-- The value names a storage that may be written, if any. -/
def Free (frame : Frame) (value : Value) : Prop :=
  ∀ name base, value.place = .host name base → frame.heap.next ≤ name ∨ frame.free name

/-- The run keeps the frame, also when it fails, and gives an answer of the right kind. -/
structure Holds (frame : Frame) (run : Host ρ α) (post : α → Prop) : Prop where
  done : ∀ state after answer, frame.Kept state.heap → run state = .ok answer after →
    frame.Kept after.heap ∧ post answer
  failed : ∀ state after fault, frame.Kept state.heap → run state = .error fault after →
    frame.Kept after.heap

theorem Kept.add {later : Heap} (kept : frame.Kept later) (storage : Storage) :
    frame.Kept (later.add storage) := by
  refine ⟨kept.next.trans (by simp [Heap.next, Heap.add]), fun name known bound => ?_⟩
  rw [Heap.storage_add_of_lt (known.trans_le kept.next)]
  exact kept.same name known bound

theorem Kept.replace {later : Heap} (kept : frame.Kept later) {name : Nat}
    (free : frame.heap.next ≤ name ∨ frame.free name) (storage : Storage) :
    frame.Kept (later.replace name storage) := by
  refine ⟨by rw [Heap.next_replace]; exact kept.next, fun other known bound => ?_⟩
  have different : other ≠ name := by
    rintro rfl
    exact free.elim (fun above => absurd known (not_lt.mpr above)) bound
  rw [Heap.storage_replace_of_ne different]
  exact kept.same other known bound

namespace Holds

theorem weaken {run : Host ρ α} {stronger post : α → Prop} (holds : frame.Holds run stronger)
    (implies : ∀ answer, stronger answer → post answer) : frame.Holds run post where
  done state after answer kept done :=
    ⟨(holds.done state after answer kept done).1,
      implies _ (holds.done state after answer kept done).2⟩
  failed := holds.failed

theorem pure {post : α → Prop} {answer : α} (holds : post answer) :
    frame.Holds (Pure.pure answer : Host ρ α) post := by
  refine ⟨fun state after result kept done => ?_, nofun⟩
  obtain ⟨rfl, rfl⟩ := Host.pure_ok.mp done
  exact ⟨kept, holds⟩

theorem bind {first : Host ρ α} {rest : α → Host ρ β} {between : α → Prop} {post : β → Prop}
    (one : frame.Holds first between)
    (two : ∀ answer, between answer → frame.Holds (rest answer) post) :
    frame.Holds (first >>= rest) post := by
  refine ⟨fun state after result kept done => ?_, fun state after fault kept failed => ?_⟩
  · obtain ⟨answer, middle, first, second⟩ := Host.bind_ok.mp done
    obtain ⟨kept', holds⟩ := one.done state middle answer kept first
    exact (two answer holds).done middle after result kept' second
  · rcases Host.bind_error.mp failed with first | ⟨answer, middle, first, second⟩
    · exact one.failed state after fault kept first
    · obtain ⟨kept', holds⟩ := one.done state middle answer kept first
      exact (two answer holds).failed middle after fault kept' second

/-- Nothing comes after a step that fails. -/
theorem stopped {first : Host ρ α} {rest : α → Host ρ β} {post : β → Prop}
    (never : frame.Holds first fun _ => False) : frame.Holds (first >>= rest) post :=
  bind never fun _ absurd => absurd.elim

/-- Steps on the heap, one after the other. -/
theorem onHeap_bind {first : Action Heap α} {rest : α → Action Heap β} {between : α → Prop}
    {post : β → Prop} (one : frame.Holds (Host.onHeap first : Host ρ α) between)
    (two : ∀ answer, between answer → frame.Holds (Host.onHeap (rest answer) : Host ρ β) post) :
    frame.Holds (Host.onHeap (first >>= rest) : Host ρ β) post := by
  rw [Host.onHeap_bind]
  exact bind one two

/-- A look at the heap. -/
theorem look {view : Heap → Except Error α} {post : α → Prop}
    (seen : ∀ heap answer, view heap = .ok answer → post answer) :
    frame.Holds (Host.onHeap (do Action.ofExcept (view (← get))) : Host ρ α) post := by
  refine ⟨fun state after answer kept done => ?_, fun state after fault kept failed => ?_⟩
  · obtain ⟨found, rfl⟩ := Host.look_ok.mp done
    exact ⟨kept, seen _ _ found⟩
  · obtain ⟨_, _, _, rfl⟩ := Host.look_error.mp failed
    exact kept

theorem current : frame.Holds (Host.onHeap get : Host ρ Heap) fun _ => True := by
  refine ⟨fun state after answer kept done => ?_, nofun⟩
  obtain ⟨heap, looked, rfl⟩ := Host.onHeap_ok.mp done
  cases looked
  exact ⟨kept, trivial⟩

theorem ofExcept {result : Except Error α} {post : α → Prop}
    (seen : ∀ answer, result = .ok answer → post answer) :
    frame.Holds (Host.ofExcept result : Host ρ α) post := by
  refine ⟨fun state after answer kept done => ?_, fun state after fault kept failed => ?_⟩
  · obtain ⟨found, rfl⟩ := Host.ofExcept_ok.mp done
    exact ⟨kept, seen _ found⟩
  · obtain ⟨_, _, _, rfl⟩ := Host.ofExcept_error.mp failed
    exact kept

theorem throw {fault : Fault} {post : α → Prop} :
    frame.Holds (Host.onHeap (MonadExcept.throw fault) : Host ρ α) post := by
  refine ⟨nofun, fun state after fault kept failed => ?_⟩
  obtain ⟨heap, refused, rfl⟩ := Host.onHeap_error.mp failed
  cases refused
  exact kept

theorem count (operations : Nat) :
    frame.Holds (Host.count operations : Host ρ Unit) fun _ => True := by
  refine ⟨fun state after answer kept done => ?_, fun _ _ _ _ failed =>
    (Host.count_error failed).elim⟩
  obtain rfl := Host.count_ok.mp done
  exact ⟨kept, trivial⟩

theorem readLiteral (value : Value) :
    frame.Holds (Host.readLiteral value : Host ρ Literal) fun _ => True :=
  look fun _ _ _ => trivial

/-- A value of one new storage. -/
theorem fresh (storage : Storage) (dtype? : Option DType) (layout? : Option Layout) :
    frame.Holds
      (Host.onHeap (do
        let name ← Heap.allocate storage
        return { dtype? := dtype?, layout? := layout?, place := .host name 0 }) : Host ρ Value)
      frame.Free := by
  refine ⟨fun state after answer kept done => ?_, nofun⟩
  obtain ⟨heap, made, rfl⟩ := Host.onHeap_ok.mp done
  cases made
  refine ⟨kept.add storage, ?_⟩
  rintro name base ⟨⟩
  exact .inl kept.next

theorem update {name : Nat} (free : frame.heap.next ≤ name ∨ frame.free name)
    (change : Storage → Except Error Storage) :
    frame.Holds (Host.onHeap (Heap.update name change) : Host ρ Unit) fun _ => True := by
  refine ⟨fun state after answer kept done => ?_, fun state after fault kept failed => ?_⟩
  · obtain ⟨heap, made, rfl⟩ := Host.onHeap_ok.mp done
    unfold Heap.update at made
    split at made
    · cases made
      exact ⟨kept.replace free _, trivial⟩
    · cases made
  · obtain ⟨heap, refused, rfl⟩ := Host.onHeap_error.mp failed
    unfold Heap.update at refused
    split at refused
    · cases refused
    · cases refused
      exact kept

theorem constant (literal : Literal) :
    frame.Holds (Host.onHeap (Scalar.ofLiteral literal) : Host ρ Scalar) fun _ => True := by
  refine ⟨fun state after answer kept done => ?_, nofun⟩
  obtain ⟨heap, made, rfl⟩ := Host.onHeap_ok.mp done
  cases made
  exact ⟨kept.add _, trivial⟩

theorem runOver {body : Scalar → Host ρ Unit}
    (turn : ∀ index, frame.Holds (body index) fun _ => True) (indices : List Nat) :
    frame.Holds (Host.runOver body indices) fun _ => True := by
  induction indices with
  | nil => exact pure trivial
  | cons position rest ih =>
      exact bind (constant _) fun scalar _ => bind (turn scalar) fun _ _ => ih

theorem forRange {start stop step : Nat} {body : Scalar → Host ρ Unit}
    (turn : ∀ index, frame.Holds (body index) fun _ => True) :
    frame.Holds (Host.forRange start stop step body) fun _ => True := by
  unfold Host.forRange
  split
  · exact throw
  · exact runOver turn _

theorem ifElse {condition : Value} {onTrue onFalse : Host ρ Unit}
    (one : frame.Holds onTrue fun _ => True) (two : frame.Holds onFalse fun _ => True) :
    frame.Holds (Host.ifElse condition onTrue onFalse) fun _ => True := by
  refine bind (readLiteral condition) fun element _ => ?_
  split
  · exact one
  · exact two

theorem ofStorage (data : Storage) (placed : Layout) :
    frame.Holds (Host.onHeap (Value.ofStorage data placed) : Host ρ Value) frame.Free :=
  onHeap_bind (ofExcept fun _ _ => trivial) fun _ (_ : True) => fresh _ _ _

theorem known (value : Value) :
    frame.Holds (Host.known value : Host ρ (Option Literal)) fun _ => True := by
  refine ⟨?_, nofun⟩
  rintro state _ _ kept ⟨⟩
  exact ⟨kept, trivial⟩

theorem ofLiteral (element : Literal) :
    frame.Holds (Host.onHeap (Value.ofLiteral element) : Host ρ Value) frame.Free :=
  fresh _ _ _

theorem store {target source : Value} (free : frame.Free target) :
    frame.Holds (Host.store target source : Host ρ Unit) fun _ => True := by
  unfold Host.store
  refine bind (readLiteral source) fun element _ => ?_
  refine bind (ofExcept fun _ _ => trivial) fun dtype (_ : True) => ?_
  split
  · exact stopped throw
  refine bind (count 1) fun _ _ => ?_
  unfold Value.set
  refine onHeap_bind (ofExcept fun _ _ => trivial) fun placed (_ : True) => ?_
  refine onHeap_bind (ofExcept fun _ _ => trivial) fun position (_ : True) => ?_
  unfold Value.setFlat
  refine onHeap_bind (ofExcept fun _ found => found) fun place found => ?_
  unfold Value.host at found
  split at found
  · rename_i placed
    cases found
    exact update (free _ _ placed) _
  · cases found

theorem move {target source : Value} (free : frame.Free target)
    (targetOffset sourceOffset elements : Nat) :
    frame.Holds (Host.move target targetOffset source sourceOffset elements : Host ρ Unit)
      fun _ => True := by
  unfold Host.move
  refine bind (ofExcept fun _ found => found) fun place found => ?_
  refine bind (ofExcept fun _ _ => trivial) fun origin (_ : True) => ?_
  unfold Host.movable at found
  split at found
  · rename_i placed
    cases found
    have free := free _ _ placed
    dsimp only
    split
    · exact pure trivial
    refine bind (count elements) fun _ _ => ?_
    unfold Heap.move
    split
    · exact update free _
    · exact onHeap_bind current fun _ _ => update free _
  · cases found

theorem binary (op : BinaryOp) (left right : Value) :
    frame.Holds (Host.binary op left right : Host ρ Value) frame.Free := by
  refine bind (count 1) fun _ _ => ?_
  refine bind (readLiteral left) fun element _ => ?_
  refine bind (readLiteral right) fun element' _ => ?_
  exact bind (ofExcept fun _ _ => trivial) fun result (_ : True) => ofLiteral result

theorem unary (op : UnaryOp) (operand : Value) :
    frame.Holds (Host.unary op operand : Host ρ Value) frame.Free := by
  refine bind (count 1) fun _ _ => ?_
  refine bind (readLiteral operand) fun element _ => ?_
  exact bind (ofExcept fun _ _ => trivial) fun result (_ : True) => ofLiteral result

theorem compare (op : CompareOp) (left right : Value) :
    frame.Holds (Host.compare op left right : Host ρ Value) frame.Free := by
  refine bind (count 1) fun _ _ => ?_
  refine bind (readLiteral left) fun element _ => ?_
  refine bind (readLiteral right) fun element' _ => ?_
  exact bind (ofExcept fun _ _ => trivial) fun result (_ : True) => ofLiteral (.bool result)

theorem cast (operand : Value) (dtype : DType) :
    frame.Holds (Host.cast operand dtype : Host ρ Value) frame.Free := by
  exact bind (readLiteral operand) fun element _ => ofLiteral (element.cast dtype)

private theorem advanced_free {value answer : Value} {elements : Nat} {heap : Heap}
    (found : value.advanced elements heap = .ok answer) (free : frame.Free value) :
    frame.Free answer := by
  obtain ⟨place, known, done⟩ := bind_eq_ok.mp found
  unfold Value.host at known
  split at known
  · rename_i placed
    cases known
    dsimp only at done
    split at done
    · cases done
    · cases done
      rintro name base ⟨⟩
      exact free _ _ placed
  · cases known

/-- An address in the memory of a value. -/
theorem offset (value : Value) (indices : List Scalar) :
    frame.Holds (Host.offset value indices : Host ρ Value) fun answer =>
      frame.Free value → frame.Free answer := by
  have positions : frame.Holds (indices.mapM fun index => do
      Host.ofExcept (Scalar.position (← Host.readLiteral index.value)) : Host ρ (List Nat))
      fun _ => True := by
    induction indices with
    | nil => exact pure trivial
    | cons index rest ih =>
        have first : frame.Holds (Host.readLiteral index.value >>= fun element =>
            Host.ofExcept (Scalar.position element) : Host ρ Nat) fun _ => True :=
          bind (readLiteral index.value) fun element _ => ofExcept fun _ _ => trivial
        rw [List.mapM_cons]
        exact bind first fun position _ => bind ih fun others _ => pure trivial
  unfold Host.offset
  refine bind (ofExcept fun _ _ => trivial) fun placed (_ : True) => ?_
  split
  · exact stopped throw
  refine bind positions fun coordinates _ => ?_
  refine bind (ofExcept fun _ _ => trivial) fun position (_ : True) => ?_
  exact look fun heap answer found => advanced_free found

private theorem withLayout_free {value answer : Value} {placed : Layout} {heap : Heap}
    (found : value.withLayout placed heap = .ok answer) (free : frame.Free value) :
    frame.Free answer := by
  have same : answer.place = value.place := by
    unfold Value.withLayout at found
    split at found
    · obtain ⟨_, -, found⟩ := bind_eq_ok.mp found
      cases found
      rfl
    · cases found
      rfl
  unfold Free
  rw [same]
  exact free

private theorem flatten_free {value answer : Value} {heap : Heap}
    (found : value.flatten heap = .ok answer) (free : frame.Free value) : frame.Free answer := by
  obtain ⟨placed, -, found⟩ := bind_eq_ok.mp found
  split at found
  · exact withLayout_free found free
  · cases found

end Holds

end Frame

/-- One host run and what it leaves alone; the second run does not count. -/
def framed (ρ : Type) (frame : Frame) : Correspondence (Host ρ) (Host ρ) where
  World := Unit
  Later _ _ := True
  Alike _ left right := right = left
  Writable _ left _ := frame.Free left
  Kept _ left right := right = left ∧ frame.Free left
  Relates _ left _ post := frame.Holds left fun answer => ∃ answer', post () answer answer'
  Forgets := False
  later_refl _ := trivial
  later_trans _ _ := trivial
  alike_mono same _ := same
  writable_mono free _ := free
  kept_mono kept _ := kept
  dtype same := congrArg Value.dtype? same
  layout same := congrArg Value.layout? same
  defined same := congrArg Value.isDefined same
  weaken holds implies := holds.weaken fun answer found =>
    found.imp fun answer' => implies () answer answer' trivial
  pure holds := .pure ⟨_, holds⟩
  bind one two := .bind one fun answer found =>
    found.elim fun answer' holds => two () answer answer' trivial holds
  fail _ := .throw
  abort _ := .throw
  refuse absurd := absurd.elim
  withLayout _ _ := Frame.Holds.look fun _ answer found =>
    ⟨answer, rfl, Frame.Holds.withLayout_free found⟩
  flatten _ := Frame.Holds.look fun _ answer found => ⟨answer, rfl, Frame.Holds.flatten_free found⟩
  constant literal := (Frame.Holds.constant literal).weaken fun answer _ => ⟨answer, rfl⟩
  storage data placed := (Frame.Holds.ofStorage data placed).weaken fun answer _ => ⟨answer, rfl⟩
  allocate _ _ := (Frame.Holds.fresh _ _ _).weaken fun answer free => ⟨answer, rfl, free⟩
  state _ := fun kept => .pure ⟨_, kept.1, kept.2⟩
  offset _ _ := (Frame.Holds.offset _ _).weaken fun answer free => ⟨answer, rfl, free⟩
  known _ := (Frame.Holds.known _).weaken fun answer _ => ⟨answer, .inl rfl⟩
  store _ free _ := (Frame.Holds.store free).weaken fun _ _ => ⟨(), trivial⟩
  move _ _ _ _ free _ := (Frame.Holds.move free _ _ _).weaken fun _ _ => ⟨(), trivial⟩
  binary op _ _ _ _ _ _ := (Frame.Holds.binary op _ _).weaken fun answer _ => ⟨answer, rfl⟩
  unary op _ _ _ := (Frame.Holds.unary op _).weaken fun answer _ => ⟨answer, rfl⟩
  compare op _ _ _ _ _ _ := (Frame.Holds.compare op _ _).weaken fun answer _ => ⟨answer, rfl⟩
  cast _ _ := (Frame.Holds.cast _ _).weaken fun answer _ => ⟨answer, rfl⟩
  forRange _ turn := (Frame.Holds.forRange fun index =>
    (turn () index index trivial rfl).weaken fun _ _ => trivial).weaken fun _ _ => ⟨(), trivial⟩
  ifElse _ one two := (Frame.Holds.ifElse ((one () trivial).weaken fun _ _ => trivial)
    ((two () trivial).weaken fun _ _ => trivial)).weaken fun _ _ => ⟨(), trivial⟩

end TensorGraph

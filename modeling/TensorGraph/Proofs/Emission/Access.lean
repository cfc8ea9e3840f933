/-
Access to memory.

A store and a move write the same elements on the host and in the memory of the
code.  An address is a place of a host array, which stays one while emitting, or
a pointer that the code computes; either way it is the element that the running
host advances to.
-/

import TensorGraph.Proofs.Emission.Primitives
import TensorGraph.Proofs.Kernel.Correspondence

namespace TensorGraph

open Code FunctionBuilder Machine
open Optimize (targets)

/-! ### Refusals that are not of arithmetic -/

namespace Host

variable {ρ α β : Type}

/-- What stops the steps is nothing that arithmetic refuses. -/
def Calm (host : Host ρ α) : Prop :=
  ∀ state cause after, host state = .error (.error cause) after → cause.isArithmetic = false

namespace Calm

theorem pure (answer : α) : Calm (Pure.pure answer : Host ρ α) := by
  rintro state cause after ⟨⟩

theorem bind {first : Host ρ α} {rest : α → Host ρ β} (one : Calm first)
    (two : ∀ answer, Calm (rest answer)) : Calm (first >>= rest) := by
  intro state cause after failed
  rcases bind_error.mp failed with failed | ⟨answer, middle, -, failed⟩
  · exact one _ _ _ failed
  · exact two answer _ _ _ failed

theorem ofExcept {result : Except Error α}
    (calm : ∀ cause, result = .error cause → cause.isArithmetic = false) :
    Calm (ofExcept result : Host ρ α) := by
  intro state cause after failed
  obtain ⟨_, refused, same, -⟩ := ofExcept_error.mp failed
  cases same
  exact calm _ refused

theorem fail {cause : Error} (calm : cause.isArithmetic = false) : Calm (fail cause : Host ρ α) :=
  .ofExcept fun _ same => by
    cases same
    exact calm

theorem look {view : Heap → Except Error α}
    (calm : ∀ heap cause, view heap = .error cause → cause.isArithmetic = false) :
    Calm (onHeap (do Action.ofExcept (view (← get))) : Host ρ α) := by
  intro state cause after failed
  obtain ⟨_, refused, same, -⟩ := look_error.mp failed
  cases same
  exact calm _ _ refused

theorem readLiteral (value : Value) : Calm (readLiteral value : Host ρ Literal) :=
  .look fun _ _ => literal_error

theorem count (operations : Nat) : Calm (count operations : Host ρ Unit) :=
  fun _ _ _ failed => (count_error failed).elim

theorem onHeap {action : Action Heap α} (calm : ∀ heap cause after,
      action heap = .error (.error cause) after → cause.isArithmetic = false) :
    Calm (onHeap action : Host ρ α) := by
  intro state cause after failed
  obtain ⟨heap, refused, -⟩ := onHeap_error.mp failed
  exact calm _ _ _ refused

end Calm
end Host

section Refusals

variable {cause : Error}

theorem Value.dtype_calm {value : Value} (refused : value.dtype = .error cause) :
    cause.isArithmetic = false := by
  unfold Value.dtype at refused
  split at refused <;> cases refused
  decide

theorem Value.layout_calm {value : Value} (refused : value.layout = .error cause) :
    cause.isArithmetic = false := by
  unfold Value.layout at refused
  split at refused <;> cases refused
  decide

theorem Layout.flatOffset_calm {layout : Layout} {coordinates : List Nat}
    (refused : layout.flatOffset coordinates = .error cause) : cause.isArithmetic = false := by
  unfold Layout.flatOffset at refused
  split at refused <;> cases refused
  simp [Error.isArithmetic, String.toList_append]

theorem Value.host_calm {value : Value} (refused : value.host = .error cause) :
    cause.isArithmetic = false := by
  unfold Value.host at refused
  split at refused <;> cases refused
  decide

theorem Value.advanced_calm {value : Value} {elements : Nat} {heap : Heap}
    (refused : value.advanced elements heap = .error cause) : cause.isArithmetic = false := by
  rcases error_of_bind refused with refused | ⟨⟨storage, base⟩, -, refused⟩
  · exact Value.host_calm refused
  · dsimp only at refused
    split at refused <;> cases refused
    rfl

theorem Storage.set_calm {storage : Storage} {index : Nat} {element : Literal}
    (refused : storage.set index element = .error cause) : cause.isArithmetic = false := by
  unfold Storage.set at refused
  split at refused
  · split at refused <;> cases refused
    rfl
  · cases refused
    rfl

theorem Storage.copyFrom_calm {storage other : Storage} {target source count : Nat}
    (refused : storage.copyFrom target other source count = .error cause) :
    cause.isArithmetic = false := by
  unfold Storage.copyFrom at refused
  split at refused
  · split at refused <;> cases refused
    rfl
  · cases refused
    rfl

theorem Storage.copyWithin_calm {storage : Storage} {target source count : Nat}
    (refused : storage.copyWithin source target count = .error cause) :
    cause.isArithmetic = false := by
  unfold Storage.copyWithin at refused
  split at refused <;> cases refused
  rfl

theorem Heap.update_calm {name : Nat} {change : Storage → Except Error Storage}
    (calm : ∀ storage cause, change storage = .error cause → cause.isArithmetic = false)
    {heap after : Heap} (refused : Heap.update name change heap = .error (.error cause) after) :
    cause.isArithmetic = false := by
  unfold Heap.update at refused
  split at refused
  case h_1 => cases refused
  case h_2 failed =>
    cases refused
    exact calm _ _ failed

theorem Heap.update_ok {name : Nat} {change : Storage → Except Error Storage} {heap after : Heap}
    (done : Heap.update name change heap = .ok () after) :
    ∃ storage, change (heap.storage name) = .ok storage ∧ after = heap.replace name storage := by
  unfold Heap.update at done
  split at done
  case h_1 storage changed =>
    cases done
    exact ⟨storage, changed, rfl⟩
  case h_2 => cases done

end Refusals

/-! ### Writing -/

section Writing

variable {ρ σ : Type} {seeds : Nat → Option Nat} {world : World} {before after : EmissionState σ}

/-- The host and the machine change the same storage to the same contents. -/
theorem Realized.written {host : Host ρ Unit} {register : Register} {target : Target}
    {dtype : DType} {size : Nat} (points : world.pointers register target)
    (shaped : world.known target.storage = some (.shaped dtype size)) (grows : before.Grows after)
    (heap : before.heap.Grows after.heap) (ready : world.Ready seeds before)
    (ready' : world.Ready seeds after) (calm : host.Calm)
    (runs : ∀ stage : Stage, stage.Covers after → ∀ (state : HostState ρ) (machine : State),
      stage.Matches world before state.heap machine → ∀ answer state',
      host state = .ok answer state' → ∃ next data offset bytes,
        stage.Runs before.builder after.builder machine next ∧
        next.memory = machine.memory.put ⟨target.allocation, offset⟩ bytes ∧
        state'.heap = state.heap.replace target.storage data ∧
        data.dtype = dtype ∧ data.size = size ∧
        next.memory.allocations[target.allocation]? = some data.image) :
    Realized seeds world host before () after fun _ _ _ => True := by
  refine ⟨grows, heap, ⟨world, (), .refl world, ready', trivial⟩, ?_, ?_⟩
  · intro stage covers _ state machine holds answer' state' done
    obtain ⟨next, data, offset, bytes, run, memory, replaced, typed, sized, image⟩ :=
      runs stage covers state machine holds answer' state' done
    have linked := world.pointed register target points
    have wider := (grows.builder ready.sound).size_le
    refine ⟨world, next, .refl world, ready', trivial, run, ?_, ?_⟩
    · rw [memory]
      refine .put machine.memory ?_ bytes
      intro register' dtype' count member same
      exact Nat.lt_of_lt_of_le
        (holds.agrees.born _ _ linked register' dtype' count member same) wider
    · rw [memory] at image ⊢
      rw [replaced]
      exact (holds.agrees.write shaped linked typed sized image).defining wider run.room
        (fun register' target' points' => (ready.fits.pointers register' target' points').1) run.kept
  · intro stage _ _ state machine _ cause state' failed arithmetic
    rw [calm state cause state' failed] at arithmetic
    cases arithmetic

/-- The cell that a scalar is written to is the one that its value starts at. -/
theorem Value.set_ok {value : Value} {element : Literal} {heap heap' : Heap} {storage base : Nat}
    (done : value.set [] element heap = .ok () heap') (place : value.place = .host storage base) :
    ∃ data, (heap.storage storage).set base element = .ok data ∧
      heap' = heap.replace storage data := by
  obtain ⟨layout, _, placed, done⟩ := Action.bind_ok.mp done
  obtain ⟨-, rfl⟩ := Action.ofExcept_ok.mp placed
  obtain ⟨position, _, offset, done⟩ := Action.bind_ok.mp done
  obtain ⟨flat, rfl⟩ := Action.ofExcept_ok.mp offset
  obtain ⟨⟨name, start⟩, _, lives, done⟩ := Action.bind_ok.mp done
  obtain ⟨here, rfl⟩ := Action.ofExcept_ok.mp lives
  unfold Value.host at here
  rw [place] at here
  cases here
  unfold Layout.flatOffset at flat
  split at flat
  case isFalse => cases flat
  case isTrue ranked =>
    cases flat
    have empty : layout.axes = [] := List.length_eq_zero_iff.mp ranked.symm
    obtain ⟨data, changed, replaced⟩ := Heap.update_ok done
    refine ⟨data, ?_, replaced⟩
    simpa [Layout.place, empty] using changed

theorem Host.store_calm (target source : Value) : (Host.store target source : Host ρ Unit).Calm := by
  refine .bind (.readLiteral source) fun element => .bind (.ofExcept fun _ => Value.dtype_calm)
    fun dtype => ?_
  have written : Host.Calm (do
      Host.count 1
      Host.onHeap (target.set [] element) : Host ρ Unit) := by
    refine .bind (.count 1) fun _ => .onHeap fun heap cause after failed => ?_
    rcases Action.bind_error.mp failed with failed | ⟨layout, _, -, failed⟩
    · obtain ⟨_, refused, same, -⟩ := Action.ofExcept_error.mp failed
      cases same
      exact Value.layout_calm refused
    rcases Action.bind_error.mp failed with failed | ⟨position, _, -, failed⟩
    · obtain ⟨_, refused, same, -⟩ := Action.ofExcept_error.mp failed
      cases same
      exact Layout.flatOffset_calm refused
    rcases Action.bind_error.mp failed with failed | ⟨_, _, -, failed⟩
    · obtain ⟨_, refused, same, -⟩ := Action.ofExcept_error.mp failed
      cases same
      exact Value.host_calm refused
    · exact Heap.update_calm (fun _ _ => Storage.set_calm) failed
  dsimp only
  split
  · exact .bind (.fail rfl) fun _ => written
  · exact written

namespace Emission

variable {state : EmissionState σ}

theorem checkTypes_ok {target source : Value} {dtype : DType}
    (done : (checkTypes target source : Emission σ DType) state = .ok dtype after) :
    target.dtype = .ok dtype ∧ source.dtype = .ok dtype ∧ state = after := by
  obtain ⟨left, _, typed, done⟩ := bind_ok.mp done
  obtain ⟨typed', rfl⟩ := ofExcept_ok.mp typed
  obtain ⟨right, _, typed, done⟩ := bind_ok.mp done
  obtain ⟨typed'', rfl⟩ := ofExcept_ok.mp typed
  dsimp only at done
  split at done
  · obtain ⟨_, _, failed, -⟩ := bind_ok.mp done
    exact (fail_ok failed).elim
  case isFalse same =>
    obtain ⟨rfl, rfl⟩ := pure_ok.mp done
    exact ⟨typed', (not_not.mp same) ▸ typed'', rfl⟩

theorem writablePointer_ok {value : Value} {register : Register}
    (done : (writablePointer value : Emission σ Register) state = .ok register after) :
    value.place = .emitted register ∧ state = after := by
  unfold writablePointer at done
  cases place : value.place with
  | unbound =>
      rw [place] at done
      exact (fail_ok done).elim
  | host name base =>
      rw [place] at done
      exact (fail_ok done).elim
  | emitted register' =>
      rw [place] at done
      obtain ⟨rfl, rfl⟩ := pure_ok.mp done
      exact ⟨rfl, rfl⟩

theorem store_ok {target source : Value}
    (done : (store target source : Emission σ Unit) state = .ok () after) :
    ∃ register element middle, target.place = .emitted register ∧
      (operand source : Emission σ Operand) state = .ok element middle ∧
      (building (Building.store register element) : Emission σ Unit) middle = .ok () after := by
  obtain ⟨dtype, _, checked, done⟩ := bind_ok.mp done
  obtain ⟨-, -, rfl⟩ := checkTypes_ok checked
  obtain ⟨register, _, pointed, done⟩ := bind_ok.mp done
  obtain ⟨place, rfl⟩ := writablePointer_ok pointed
  obtain ⟨element, middle, loaded, done⟩ := bind_ok.mp done
  exact ⟨register, element, middle, place, loaded, done⟩

theorem store_keepsStates (target source : Value) :
    KeepsStates (store target source : Emission σ Unit) :=
  .bind (checkTypes_keepsStates target source) fun _ =>
    .bind (writablePointer_keepsStates target) fun _ =>
      .bind (operand_keepsStates source) fun _ => .building _

end Emission

namespace Realizes

theorem store {target target' source source' : Value} (writable : Writable world target target')
    (alike' : Alike world source source') :
    Realizes seeds world (Kernel.store target source : Host ρ Unit)
      (Kernel.store target' source' : Emission σ Unit) fun _ _ _ => True := by
  intro before answer after emitted ready
  obtain ⟨grows, kept, ready'⟩ := ready.emitted (Emission.store_emits target' source')
    (Emission.store_keepsStates target' source') emitted (alike'.inHost_lt ready.fits)
  obtain ⟨register, pointed, dtype, size, place, place', points, shaped⟩ := writable
  obtain ⟨register', element, middle, place'', loaded, stored⟩ := Emission.store_ok emitted
  cases place'.symm.trans place''
  obtain ⟨grows₁, -, ready₁⟩ := operand_emitted ready alike' loaded
  obtain ⟨builder, built, rfl⟩ := Emission.building_ok.mp stored
  have line := Building.store_straight ready₁.sound.builder built
  refine .written points shaped grows kept ready ready' (Host.store_calm target source)
    fun stage covers state machine holds answer' state' done => ?_
  obtain ⟨literal, read, typed, written⟩ := Host.store_ok done
  obtain ⟨data, changed, replaced⟩ := Value.set_ok written place
  obtain ⟨within, same, typed', cells⟩ := Storage.set_eq_ok.mp changed
  have covers₁ : stage.Covers middle :=
    ⟨(line.steps.grows ready₁.sound.builder).trans covers.builder, covers.states⟩
  obtain ⟨next, computes, reads, -⟩ :=
    Stage.operand_runs loaded ready alike' covers₁ holds read
  have holds₁ := computes.follows_on holds ready grows₁
  obtain ⟨-, has⟩ := holds₁.agrees.pointers _ _ points
  have image := holds₁.agrees.linked _ _ (world.pointed _ _ points)
  have whole : next.memory.check ⟨pointed.allocation,
      pointed.base * (state.heap.storage pointed.storage).dtype.width⟩ literal.bytes.length =
        .ok () := by
    have room : pointed.base + 1 ≤ (state.heap.storage pointed.storage).size := within
    have checked := check_of_image image room
    rw [Nat.one_mul] at checked
    rw [Literal.length_bytes, same]
    exact checked
  obtain ⟨last, runs, memory⟩ := Stage.store_runs holds₁.follows ready₁.sound.builder built
    covers.builder has reads whole
  have known := holds.agrees.known _ _ shaped
  refine ⟨last, data, pointed.base * (state.heap.storage pointed.storage).dtype.width,
    literal.bytes, computes.runs.trans runs (grows₁.builder ready.sound).size_le, ?_, replaced,
    typed'.trans known.1, ?_, ?_⟩
  · rw [memory, computes.memory]
  · exact (Storage.set_keeps changed).2.trans known.2
  · rw [memory]
    exact put_element image changed

end Realizes

/-! ### Moving -/

theorem Heap.move_ok {target targetIndex source sourceIndex count : Nat} {heap after : Heap}
    (done : Heap.move target targetIndex source sourceIndex count heap = .ok () after) :
    ∃ data, (heap.storage target).copyFrom targetIndex (heap.storage source) sourceIndex count =
      .ok data ∧ after = heap.replace target data := by
  unfold Heap.move at done
  split at done
  case isTrue same =>
    subst same
    obtain ⟨data, changed, replaced⟩ := Heap.update_ok done
    exact ⟨data, Storage.copyWithin_eq_copyFrom _ changed, replaced⟩
  case isFalse =>
    obtain ⟨_, _, looked, done⟩ := Action.bind_ok.mp done
    obtain ⟨rfl, rfl⟩ := Action.get_ok.mp looked
    exact Heap.update_ok done

namespace Host

theorem movable_ok {value : Value} {role : String} {storage base : Nat}
    (done : movable value role = .ok (storage, base)) : value.place = .host storage base := by
  unfold movable at done
  split at done
  case h_1 place =>
    cases done
    exact place
  case h_2 => cases done

theorem movable_calm {value : Value} {role : String} {cause : Error}
    (refused : movable value role = .error cause) : cause.isArithmetic = false := by
  unfold movable at refused
  split at refused <;> cases refused
  simp [Error.isArithmetic, String.toList_append]

theorem move_calm (target : Value) (targetOffset : Nat) (source : Value)
    (sourceOffset count : Nat) :
    (Host.move target targetOffset source sourceOffset count : Host ρ Unit).Calm := by
  refine .bind (.ofExcept fun _ => movable_calm) fun ⟨targetStorage, targetBase⟩ => ?_
  refine .bind (.ofExcept fun _ => movable_calm) fun ⟨sourceStorage, sourceBase⟩ => ?_
  have moved : Host.Calm (do
      Host.count count
      Host.onHeap (Heap.move targetStorage (targetBase + targetOffset) sourceStorage
        (sourceBase + sourceOffset) count) : Host ρ Unit) := by
    refine .bind (.count _) fun _ => .onHeap fun heap cause after failed => ?_
    unfold Heap.move at failed
    split at failed
    · exact Heap.update_calm (fun _ _ => Storage.copyWithin_calm) failed
    · exact Heap.update_calm (fun _ _ => Storage.copyFrom_calm) failed
  dsimp only
  split
  · exact .pure ()
  · exact moved

/-- A move of some elements replaces them in one storage. -/
theorem move_ok {target source : Value} {targetOffset sourceOffset count : Nat}
    {state after : HostState ρ} {answer : Unit}
    (done : (Host.move target targetOffset source sourceOffset count : Host ρ Unit) state =
      .ok answer after) :
    ∃ storage base other start, target.place = .host storage base ∧
      source.place = .host other start ∧
      ((count = 0 ∧ after.heap = state.heap) ∨ (count ≠ 0 ∧
        ∃ data, (state.heap.storage storage).copyFrom (base + targetOffset)
          (state.heap.storage other) (start + sourceOffset) count = .ok data ∧
          after.heap = state.heap.replace storage data)) := by
  obtain ⟨⟨storage, base⟩, _, movable, done⟩ := bind_ok.mp done
  obtain ⟨place, rfl⟩ := ofExcept_ok.mp movable
  obtain ⟨⟨other, start⟩, _, movable', done⟩ := bind_ok.mp done
  obtain ⟨place', rfl⟩ := ofExcept_ok.mp movable'
  refine ⟨storage, base, other, start, movable_ok place, movable_ok place', ?_⟩
  dsimp only at done
  split at done
  case isTrue none =>
    cases done
    exact .inl ⟨none, rfl⟩
  case isFalse some =>
    obtain ⟨_, _, counted, done⟩ := bind_ok.mp done
    cases count_ok.mp counted
    obtain ⟨heap, moved, rfl⟩ := onHeap_ok.mp done
    exact .inr ⟨some, Heap.move_ok moved⟩

end Host

namespace Emission

variable {state : EmissionState σ}

theorem move_ok {target source : Value} {targetOffset sourceOffset count : Nat}
    (done : (move target targetOffset source sourceOffset count : Emission σ Unit) state =
      .ok () after) :
    ∃ dtype, target.dtype = .ok dtype ∧ ((count = 0 ∧ state = after) ∨ (count ≠ 0 ∧
      ∃ register place one address two place' three, target.place = .emitted register ∧
        (building (Building.offset register (index targetOffset)) : Emission σ Register) state =
          .ok place one ∧
        (pointer source : Emission σ Register) one = .ok address two ∧
        (building (Building.offset address (index sourceOffset)) : Emission σ Register) two =
          .ok place' three ∧
        (building (Building.move place place' (count * dtype.width)) : Emission σ Unit) three =
          .ok () after)) := by
  obtain ⟨dtype, _, checked, done⟩ := bind_ok.mp done
  obtain ⟨typed, -, rfl⟩ := checkTypes_ok checked
  refine ⟨dtype, typed, ?_⟩
  split at done
  case isTrue none =>
    obtain ⟨-, rfl⟩ := pure_ok.mp done
    exact .inl ⟨none, rfl⟩
  case isFalse some =>
    obtain ⟨register, _, pointed, done⟩ := bind_ok.mp done
    obtain ⟨written, rfl⟩ := writablePointer_ok pointed
    obtain ⟨place, one, moved, done⟩ := bind_ok.mp done
    obtain ⟨address, two, located, done⟩ := bind_ok.mp done
    obtain ⟨place', three, moved', done⟩ := bind_ok.mp done
    exact .inr ⟨some, register, place, one, address, two, place', three, written, moved, located,
      moved', done⟩

theorem move_keepsStates (target : Value) (targetOffset : Nat) (source : Value)
    (sourceOffset count : Nat) :
    KeepsStates (move target targetOffset source sourceOffset count : Emission σ Unit) := by
  refine .bind (checkTypes_keepsStates target source) fun _ => ?_
  split
  · exact .pure _
  · exact .bind (writablePointer_keepsStates target) fun _ => .bind (.building _) fun _ =>
      .bind (pointer_keepsStates source) fun _ => .bind (.building _) fun _ => .building _

end Emission

/-- A pointer is moved by a number of elements that is known. -/
theorem Stage.offset_computes {stage : Stage} {heap : Heap} {machine : State}
    {base register : Register} {position : Nat} {start : Pointer} {dtype : DType}
    (emitted : (Emission.building (Building.offset base (Emission.index position)) :
      Emission σ Register) before = .ok register after)
    (ready : world.Ready seeds before) (covers : stage.Covers after)
    (holds : stage.Matches world before heap machine)
    (typed : before.builder.pointeeType base = .ok dtype)
    (has : machine.frame.Has base (.pointer start)) (fits : position < 2 ^ 63) :
    ∃ next, stage.Computes before after machine next ∧
      next.frame.Has register (.pointer
        ⟨start.allocation, start.offset + position * dtype.width⟩) := by
  obtain ⟨builder, built, rfl⟩ := Emission.building_ok.mp emitted
  have moved := Machine.moved_nat start.allocation start.offset position dtype.width
  rw [← Int64.toInt_ofNat_of_lt fits] at moved
  obtain ⟨next, runs, memory, has'⟩ := offset_runs holds.follows ready.sound.builder
    holds.agrees.holds.size built covers.builder has rfl typed moved
  exact ⟨next, ⟨runs, memory⟩, has'⟩

theorem offset_emitted {base register : Register} {position : Operand}
    (ready : world.Ready seeds before)
    (emitted : (Emission.building (Building.offset base position) : Emission σ Register) before =
      .ok register after) :
    before.Grows after ∧ before.heap.Grows after.heap ∧ world.Ready seeds after := by
  have emits : Emission.Emits (fun _ => False)
      (Emission.building (Building.offset base position) : Emission σ Register) :=
    Emission.offset_emits' base position
  exact ready.emitted emits (.building _) emitted fun _ absurd => absurd.elim

theorem offset_typed {base register : Register} {position : Operand} {dtype : DType}
    (ready : world.Ready seeds before)
    (emitted : (Emission.building (Building.offset base position) : Emission σ Register) before =
      .ok register after) (typed : before.builder.pointeeType base = .ok dtype) :
    after.builder.pointeeType register = .ok dtype := by
  obtain ⟨builder, built, rfl⟩ := Emission.building_ok.mp emitted
  exact pointee_offset ready.sound.builder built typed

theorem pointer_emitted {left left' : Value} {register : Register} (ready : world.Ready seeds before)
    (alike : Alike world left left')
    (emitted : (Emission.pointer left' : Emission σ Register) before = .ok register after) :
    before.Grows after ∧ before.heap.Grows after.heap ∧ world.Ready seeds after :=
  ready.emitted (Emission.pointer_emits left') (Emission.pointer_keepsStates left') emitted
    (alike.inHost_lt ready.fits)

namespace Realizes

theorem move {target target' source source' : Value} (targetOffset sourceOffset count : Nat)
    (alike : Alike world target target') (writable : Writable world target target')
    (alike' : Alike world source source') :
    Realizes seeds world (Kernel.move target targetOffset source sourceOffset count : Host ρ Unit)
      (Kernel.move target' targetOffset source' sourceOffset count : Emission σ Unit)
      fun _ _ _ => True := by
  intro before answer after emitted ready
  obtain ⟨dtype, typed, ⟨rfl, rfl⟩ | ⟨some, register, place, one, address, two, place', three,
    written, emitted₁, emitted₂, emitted₃, emitted₄⟩⟩ := Emission.move_ok emitted
  · refine .still ready ⟨(), trivial⟩ (fun state answer' state' _ done => ?_) (Host.move_calm _ _ _ _ _)
    obtain ⟨_, _, _, _, -, -, ⟨-, same⟩ | ⟨some, -⟩⟩ := Host.move_ok done
    · exact ⟨same, trivial⟩
    · exact (some rfl).elim
  · obtain ⟨grows, kept, ready'⟩ := ready.emitted (Emission.move_emits target' _ source' _ _)
      (Emission.move_keepsStates target' _ source' _ _) emitted (alike'.inHost_lt ready.fits)
    obtain ⟨grows₁, -, ready₁⟩ := offset_emitted ready emitted₁
    obtain ⟨grows₂, -, ready₂⟩ := pointer_emitted ready₁ alike' emitted₂
    obtain ⟨grows₃, -, ready₃⟩ := offset_emitted ready₂ emitted₃
    obtain ⟨register', pointed, dtype', size, here, here', points, shaped⟩ := writable
    cases here'.symm.trans written
    obtain ⟨builder, built, rfl⟩ := Emission.building_ok.mp emitted₄
    have line := Building.move_straight ready₃.sound.builder built
    refine .written points shaped grows kept ready ready' (Host.move_calm _ _ _ _ _)
      fun stage covers state machine holds answer' state' done => ?_
    obtain ⟨_, _, other, start, at', at'', ⟨none, -⟩ | ⟨-, data, changed, replaced⟩⟩ :=
      Host.move_ok done
    · exact (some none).elim
    cases here.symm.trans at'
    obtain ⟨alike₀, read, room, typed', cells⟩ := Storage.copyFrom_eq_ok changed
    obtain ⟨rfl, rfl⟩ := holds.agrees.known _ _ shaped
    -- The machine comes to the move.
    have covers₃ : stage.Covers three :=
      ⟨(line.steps.grows ready₃.sound.builder).trans covers.builder, covers.states⟩
    have covers₂ := covers₃.of_grows ready₂.sound grows₃
    have covers₁ := covers₂.of_grows ready₁.sound grows₂
    have large : (state.heap.storage pointed.storage).size < 2 ^ 63 :=
      Stage.Held.size_lt (.inl (world.pointed _ _ points)) holds.agrees
    obtain ⟨-, knowledge, known', declared⟩ := ready.fits.pointers _ _ points
    cases shaped.symm.trans known'
    obtain ⟨-, has⟩ := holds.agrees.pointers _ _ points
    obtain ⟨next₁, computes₁, has₁⟩ := Stage.offset_computes emitted₁ ready covers₁ holds
      (Building.pointeeType_ok.mpr declared) has (by omega)
    have holds₁ := computes₁.follows_on holds ready grows₁
    obtain ⟨storage', base', allocation, next₂, place'', computes₂, has₂, held, within, typed₂, -⟩ :=
      Stage.pointer_runs emitted₂ ready₁ alike' covers₂ holds₁
    cases at''.symm.trans place''
    have holds₂ := computes₂.follows_on holds₁ ready₁ grows₂
    have large' := held.size_lt holds₂.agrees
    obtain ⟨next₃, computes₃, has₃⟩ := Stage.offset_computes emitted₃ ready₂ covers₃ holds₂
      typed₂ has₂ (by omega)
    have holds₃ := computes₃.follows_on holds₂ ready₂ grows₃
    have below := below_of_pointee
      (offset_typed ready emitted₁ (Building.pointeeType_ok.mpr declared))
    have has₁ := computes₃.runs.has (computes₂.runs.has has₁ (.inl below))
      (.inl (Nat.lt_of_lt_of_le below (grows₂.builder ready₁.sound).size_le))
    have image := holds₃.agrees.linked _ _ (world.pointed _ _ points)
    have image' := held.image holds₃.agrees
    obtain ⟨knowledge, shaped', typed''⟩ := alike.stored here
    cases shaped.symm.trans shaped'
    have same : dtype = (state.heap.storage pointed.storage).dtype := by
      unfold Value.dtype at typed
      rw [typed''] at typed
      cases typed
      rfl
    subst same
    -- The elements that are read are written over those of the target.
    obtain ⟨row, rowed⟩ : ∃ row, row =
      ((state.heap.storage other).cells.toList.drop (start + sourceOffset)).take count := ⟨_, rfl⟩
    have uniform : ∀ item ∈ row, item.dtype = (state.heap.storage pointed.storage).dtype := by
      subst rowed
      intro item member
      rw [← alike₀]
      exact Storage.typed_toList _ item (List.mem_of_mem_drop (List.mem_of_mem_take member))
    have counted : row.length = count := by
      have size : (state.heap.storage other).cells.toList.length =
        (state.heap.storage other).size := Array.length_toList
      rw [rowed, List.length_take, List.length_drop, size]
      omega
    have origin := read_of_image image' read
    have checked := check_of_image image room
    rw [← rowed, alike₀, Nat.add_mul] at origin
    rw [alike₀] at has₃
    rw [← counted, ← length_flatMap_bytes uniform, Nat.add_mul] at checked
    obtain ⟨last, runs, memory⟩ := Stage.move_runs holds₃.follows ready₃.sound.builder built
      covers.builder has₁ has₃ origin checked
    have written := put_of_image image uniform (counted ▸ room)
      (by rw [cells, rowed.symm, counted])
    rw [Nat.add_mul] at written
    have ran := (computes₁.trans (computes₂.trans computes₃ ready₁.sound grows₂) ready.sound
      grows₁)
    refine ⟨last, data, pointed.base * (state.heap.storage pointed.storage).dtype.width +
      targetOffset * (state.heap.storage pointed.storage).dtype.width, row.flatMap Literal.bytes,
      ran.runs.trans runs ?_, ?_, replaced, typed', ?_, ?_⟩
    · exact ((grows₁.trans (grows₂.trans grows₃)).builder ready.sound).size_le
    · rw [memory, ran.memory]
      rfl
    · exact (Storage.copyFrom_keeps changed).2
    · rw [memory]
      exact written

end Realizes
end Writing

/-! ### Addresses on the host -/

namespace Host

variable {ρ : Type} {value : Value} {indices : List Scalar} {state after : HostState ρ}

theorem positions_calm (indices : List Scalar) :
    Host.Calm (indices.mapM fun index => do
      ofExcept (Scalar.position (← readLiteral index.value)) : Host ρ (List Nat)) := by
  induction indices with
  | nil => exact .pure []
  | cons index rest ih =>
      rw [List.mapM_cons]
      exact .bind (.bind (.readLiteral _) fun _ => .ofExcept fun _ =>
        Correspondence.position_refused) fun _ => .bind ih fun _ => .pure _

theorem offset_calm (value : Value) (indices : List Scalar) :
    (Host.offset value indices : Host ρ Value).Calm := by
  refine .bind (.ofExcept fun _ => Value.ready_calm) fun layout => ?_
  have placed : Host.Calm (do
      let coordinates ← indices.mapM fun index => do
        ofExcept (Scalar.position (← readLiteral index.value))
      let position ← ofExcept (layout.flatOffset coordinates)
      onHeap (do Action.ofExcept (value.advanced position (← get))) : Host ρ Value) :=
    .bind (positions_calm indices) fun coordinates =>
      .bind (.ofExcept fun _ => Layout.flatOffset_calm) fun position =>
        .look fun _ _ => Value.advanced_calm
  split
  · refine .bind (.fail ?_) fun _ => placed
    simp [Error.isArithmetic, String.toList_append]
  · exact placed

/-- An address that was found is that of the element at the coordinates. -/
theorem offset_found {answer : Value}
    (done : (Host.offset value indices : Host ρ Value) state = .ok answer after) :
    after = state ∧ ∃ layout coordinates position, value.ready = .ok layout ∧
      List.Forall₂ (Scalar.At state.heap) indices coordinates ∧
      layout.flatOffset coordinates = .ok position ∧
      value.advanced position state.heap = .ok answer := by
  obtain ⟨layout, _, ready, done⟩ := bind_ok.mp done
  obtain ⟨ready', rfl⟩ := ofExcept_ok.mp ready
  split at done
  · obtain ⟨_, _, failed, -⟩ := bind_ok.mp done
    exact (fail_ok failed).elim
  · obtain ⟨coordinates, _, read, done⟩ := bind_ok.mp done
    obtain ⟨named, rfl⟩ := positions_eq_ok.mp read
    obtain ⟨position, _, placed, done⟩ := bind_ok.mp done
    obtain ⟨flat, rfl⟩ := ofExcept_ok.mp placed
    obtain ⟨found, rfl⟩ := look_ok.mp done
    exact ⟨rfl, layout, coordinates, position, ready', named, flat, found⟩

end Host

/-! ### Addresses in code -/

section Offset

variable {ρ σ : Type} {seeds : Nat → Option Nat} {world : World}
  {before middle after : EmissionState σ} {left right result : Value}

namespace Emission

variable {value : Value} {indices : List Scalar} {total : Operand}

theorem placed_ok (done : (placed value total : Emission σ Value) before = .ok result after) :
    ∃ base one place dtype, (pointer value : Emission σ Register) before = .ok base one ∧
      (building (Building.offset base total) : Emission σ Register) one = .ok place after ∧
      value.dtype = .ok dtype ∧ result = Value.emitted dtype place none := by
  obtain ⟨base, one, pointed, done⟩ := bind_ok.mp done
  obtain ⟨place, two, moved, done⟩ := bind_ok.mp done
  obtain ⟨dtype, _, typed, done⟩ := bind_ok.mp done
  obtain ⟨typed', rfl⟩ := ofExcept_ok.mp typed
  obtain ⟨rfl, rfl⟩ := pure_ok.mp done
  exact ⟨base, one, place, dtype, pointed, moved, typed', rfl⟩

/-- The number of elements to go on by is known, or the code computes it. -/
structure Totals (indices : List Scalar) (kernel : Emission σ Operand) : Prop where
  emits : Emits (fun storage => ∃ index ∈ indices, index.value.InHost storage) kernel
  keepsStates : KeepsStates kernel

theorem totals_known (position : Nat) : Totals indices (pure (index position) : Emission σ Operand) :=
  ⟨.pure _, .pure _⟩

theorem totals_computed (positions : List (Option Int)) (axes : List Axis) :
    Totals indices (do
      let sum ← address indices positions axes none 0
      completed sum.1 sum.2 : Emission σ Operand) := by
  have sums : ∀ sum : Option Operand × Int, Totals indices
      (completed sum.1 sum.2 : Emission σ Operand) := by
    intro sum
    unfold completed
    split
    · exact ⟨.pure _, .pure _⟩
    · exact ⟨.map _ (.building fun formed _ built => Building.binary_straight formed built),
        .map _ (.building _)⟩
  exact ⟨.bind (address_emits _ _ _ _ _) fun sum => (sums sum).emits,
    .bind (address_keepsStates _ _ _ _ _) fun sum => (sums sum).keepsStates⟩

/-- An address that is not a place of a host array is put down behind what computes it. -/
theorem offset_placed (done : (offset value indices : Emission σ Value) before = .ok result after) :
    (value.isHost ∧ (∀ scalar ∈ indices, (position? before.heap scalar).isSome) ∧ before = after ∧
      ∃ position, value.advanced position before.heap = .ok result) ∨
    (¬ (value.isHost ∧ ∀ scalar ∈ indices, (position? before.heap scalar).isSome) ∧
      ∃ kernel total middle, Totals indices kernel ∧
        (kernel : Emission σ Operand) before = .ok total middle ∧
        (placed value total : Emission σ Value) middle = .ok result after) := by
  obtain ⟨layout, -, -, -, done⟩ := offset_cases done
  have known_iff : (indices.map (position? before.heap)).all Option.isSome = true ↔
      ∀ scalar ∈ indices, (position? before.heap scalar).isSome := by
    rw [List.all_eq_true, List.forall_mem_map]
  split at done
  case isTrue all =>
    split at done
    case isTrue hosted => exact .inl ⟨hosted, known_iff.mp all, done.2, _, done.1⟩
    case isFalse emitted =>
      exact .inr ⟨fun both => emitted both.1, _, _, _, totals_known _, rfl, done⟩
  case isFalse unknown =>
    obtain ⟨computed, fixed, middle, total, middle', summed, finished, done⟩ := done
    exact .inr ⟨fun both => unknown (known_iff.mpr both.2), _, total, middle',
      totals_computed _ _, bind_ok.mpr ⟨_, _, summed, finished⟩, done⟩

end Emission

theorem Emission.Totals.emitted {indices indices' : List Scalar} {kernel : Emission σ Operand}
    {total : Operand} (totals : Totals indices' kernel) (ready : world.Ready seeds before)
    (alikes : List.Forall₂ (fun index index' : Scalar => Alike world index.value index'.value)
      indices indices') (done : kernel before = .ok total after) :
    before.Grows after ∧ before.heap.Grows after.heap ∧ world.Ready seeds after := by
  refine ready.emitted totals.emits totals.keepsStates done ?_
  rintro storage ⟨index', member, inside⟩
  obtain ⟨index, -, alike'⟩ := partner_of_mem alikes member
  exact alike'.inHost_lt ready.fits storage inside

/-- A pointer to a value points to elements of its type. -/
theorem pointer_typed {register : Register} {dtype : DType} (ready : world.Ready seeds before)
    (alike : Alike world left right) (typed : right.dtype? = some dtype)
    (emitted : (Emission.pointer right : Emission σ Register) before = .ok register after) :
    after.builder.pointeeType register = .ok dtype := by
  unfold Emission.pointer at emitted
  cases place : right.place with
  | unbound =>
      rw [place] at emitted
      exact (Emission.fail_ok emitted).elim
  | emitted register' =>
      rw [place] at emitted
      obtain ⟨rfl, rfl⟩ := Emission.pure_ok.mp emitted
      have placed := alike.place
      rw [place, ← alike.dtype, typed] at placed
      generalize left.place = there at placed
      cases placed with
      | pointer register target knowledge points known =>
          obtain ⟨_, knowledge', known', declared⟩ := ready.fits.pointers _ target points
          cases known.symm.trans known'
          exact Building.pointeeType_ok.mpr declared
  | host name base =>
      rw [place] at emitted
      obtain ⟨address, middle, embedded, emitted⟩ := Emission.bind_ok.mp emitted
      obtain ⟨storage, -, named, -, -, typed'⟩ := alike.constant ready.fits place
      obtain ⟨start, global, grows, -, listed, -, data, -, -, embedded⟩ :=
        Emission.embed_ok embedded ready.sound ready.faithful (ready.fits.free named)
      obtain ⟨builder, built, rfl⟩ := Emission.building_ok.mp embedded
      obtain ⟨builder', built', rfl⟩ := Emission.building_ok.mp emitted
      have formed := grows.sound.builder
      have line := Building.globalAddress_straight formed grows.sound.opened built
      have same : dtype = global.dtype := by
        rw [← alike.dtype, typed] at typed'
        cases typed'
        rw [Global.dtype, data]
      rw [same]
      exact pointee_offset (line.formed formed) built' (pointee_globalAddress formed listed built)

/-! ### Where values begin -/

namespace Stage

variable {stage : Stage} {size : Nat} {heap : Heap} {registers : Array (Option Slot)}
  {memory : Memory} {storage allocation : Nat}

/-- The world may know of the memory that holds a storage. -/
theorem Agrees.linking (agrees : stage.Agrees world size heap registers memory)
    (held : stage.Held world storage allocation) :
    ∃ later : World, world.Later later ∧ later.linked storage allocation ∧
      later.known = world.known ∧ (world.Ready seeds after → later.Ready seeds after) ∧
      stage.Agrees later size heap registers memory := by
  rcases held with linked | ⟨global, found, fixed, known⟩
  · exact ⟨world, .refl world, linked, rfl, id, agrees⟩
  · have isSome : (world.known storage).isSome := by rw [known]; rfl
    exact ⟨world.link storage allocation isSome, World.later_link allocation isSome,
      .inl ⟨rfl, rfl⟩, rfl, fun ready => ⟨ready.sound, ready.faithful, ready.fits.link _ isSome⟩,
      agrees.link_constant known found fixed rfl⟩

end Stage

theorem globalIndex?_of_mem {module : Module} {global : Global} (listed : global ∈ module.globals) :
    ∃ index, globalIndex? module global.name = some index := by
  refine Option.isSome_iff_exists.mp (List.findIdx?_isSome.trans (List.any_eq_true.mpr ?_))
  exact ⟨global, listed, beq_self_eq_true _⟩

/-- A value of the code begins where the host finds it. -/
theorem Alike.begins {stage : Stage} {heap : Heap} {machine : State}
    (alike : Alike world left right) (ready : world.Ready seeds before)
    (kept : before.heap.Grows after.heap) (ready' : world.Ready seeds after)
    (named : ∀ storage base, right.place = .host storage base →
      ∃ name, after.globalOf? storage = some name)
    (covers : stage.Covers after) (holds : stage.Matches world before heap machine)
    {storage base : Nat} (place : left.place = .host storage base) :
    ∃ allocation, stage.Held world storage allocation ∧ base ≤ (heap.storage storage).size ∧
      Emission.Begins before.builder after.globalOf? stage.module machine right
        ⟨allocation, base * (heap.storage storage).dtype.width⟩ (heap.storage storage).dtype := by
  have placed := alike.place
  rw [place] at placed
  generalize left.dtype? = dtype? at placed
  cases place' : right.place with
  | unbound =>
      rw [place'] at placed
      cases placed
  | emitted register =>
      rw [place'] at placed
      cases placed with
      | pointer register target knowledge points known =>
          obtain ⟨within, has⟩ := holds.agrees.pointers _ _ points
          obtain ⟨_, knowledge', known', declared⟩ := ready.fits.pointers _ _ points
          cases known.symm.trans known'
          have same := (holds.agrees.known _ _ known).dtype
          refine ⟨target.allocation, .inl (world.pointed _ _ points), within, ?_⟩
          exact .emitted place' (Building.pointeeType_ok.mpr (same ▸ declared)) has
  | host name base' =>
      obtain ⟨storage', here, constant, known, within, -⟩ := alike.constant ready.fits place'
      cases place.symm.trans here
      have same : heap.storage storage = before.heap.storage name :=
        holds.agrees.known _ _ known
      obtain ⟨below, -⟩ := ready.fits.constants _ _ constant
      obtain ⟨label, found⟩ := named _ _ place'
      have remembered : (name, label) ∈ after.constants := by
        unfold EmissionState.globalOf? at found
        rw [ready'.fits.free constant, Option.none_or] at found
        exact mem_of_lookup found
      obtain ⟨-, listed⟩ := ready'.faithful.constants _ _ remembered
      rw [kept.kept name below, ← same] at listed
      have listed' := stage.globals _ (covers.builder.globals _ listed)
      obtain ⟨index, found'⟩ := globalIndex?_of_mem listed'
      have found'' := Stage.global_at listed' found'
      have held : stage.Held world storage index := by
        refine .inr ⟨_, found'', rfl, ?_⟩
        rw [same]
        exact known
      rw [← same] at within
      refine ⟨index, held, within, ?_⟩
      exact .host place' found found' found'' (Nat.lt_of_le_of_lt within (held.size_lt holds.agrees))

/-- What the host reads of a constant of the code is known while emitting. -/
theorem Alike.literal_eq {heap : Heap} (alike : Alike world left right)
    (fits : world.Fits seeds before) (described : world.Describes heap) {name base : Nat}
    (place : right.place = .host name base) :
    Host.literal left heap = Host.literal right before.heap := by
  obtain ⟨storage, here, _, known, _⟩ := alike.constant fits place
  have same : heap.storage storage = before.heap.storage name := described storage _ known
  unfold Host.literal Value.isHost Value.literal Value.get Value.layout Value.getFlat Value.host
    Heap.cell
  rw [alike.layout, here, place]
  simp only [bind, Except.bind, same]

/-- An index of the code stands for the number that the host reads. -/
theorem Alike.stands {stage : Stage} {heap : Heap} {machine : State} {index index' : Scalar}
    {number : Nat} (alike : Alike world index.value index'.value) (ready : world.Ready seeds before)
    (holds : stage.Matches world before heap machine) (named : index.At heap number) :
    Emission.Stands before.heap before.builder machine index' number := by
  obtain ⟨element, read, counts⟩ := named
  obtain ⟨storage, base, place, found⟩ := Host.literal_ok read
  have typed := Host.typed_literal read place
  have placed := alike.place
  rw [place, ← alike.dtype, index'.typed] at placed
  generalize same : some index'.dtype = dtype? at placed
  cases place' : index'.value.place with
  | unbound =>
      rw [place'] at placed
      cases placed
  | host name base' =>
      refine .inl ⟨element, ?_, counts⟩
      rw [← alike.literal_eq ready.fits holds.agrees.known place']
      exact read
  | emitted register =>
      rw [place'] at placed
      cases placed with
      | pointer register target knowledge points known =>
          obtain ⟨-, has⟩ := holds.agrees.pointers _ _ points
          obtain ⟨_, knowledge', known', declared⟩ := ready.fits.pointers _ _ points
          cases known.symm.trans known'
          have typed' := (holds.agrees.known _ _ known).dtype
          have image := holds.agrees.linked _ _ (world.pointed _ _ points)
          have same' := Option.some.inj same
          refine .inr ⟨register, _, element, place', ?_, has, ?_, ?_, ?_⟩
          · rw [same']
            exact Building.pointeeType_ok.mpr declared
          · rw [typed, typed', same']
          · rw [typed]
            exact read_element image found
          · unfold Scalar.position at counts
            dsimp only at counts
            split at counts
            case isTrue nonnegative =>
              cases counts
              exact (Int.toNat_of_nonneg nonnegative).symm
            case isFalse => cases counts

theorem Alike.all_stand {stage : Stage} {heap : Heap} {machine : State}
    {indices indices' : List Scalar} {coordinates : List Nat}
    (alikes : List.Forall₂ (fun index index' : Scalar => Alike world index.value index'.value)
      indices indices') (ready : world.Ready seeds before)
    (holds : stage.Matches world before heap machine)
    (named : List.Forall₂ (Scalar.At heap) indices coordinates) :
    List.Forall₂ (Emission.Stands before.heap before.builder machine) indices' coordinates := by
  induction alikes generalizing coordinates with
  | nil =>
      cases named
      exact .nil
  | cons alike rest ih =>
      cases named with
      | cons one others => exact .cons (alike.stands ready holds one) (ih others)

theorem Scalar.At.unique {heap : Heap} {scalar : Scalar} {first second : Nat}
    (one : scalar.At heap first) (two : scalar.At heap second) : first = second := by
  obtain ⟨element, read, counts⟩ := one
  obtain ⟨element', read', counts'⟩ := two
  cases read.symm.trans read'
  exact Except.ok.inj (counts.symm.trans counts')

/-- The coordinates that are known while emitting are those that the host reads. -/
theorem Alike.same_coordinates {heap : Heap} {indices indices' : List Scalar}
    {coordinates coordinates' : List Nat}
    (alikes : List.Forall₂ (fun index index' : Scalar => Alike world index.value index'.value)
      indices indices') (fits : world.Fits seeds before) (described : world.Describes heap)
    (named : List.Forall₂ (Scalar.At before.heap) indices' coordinates)
    (named' : List.Forall₂ (Scalar.At heap) indices coordinates') : coordinates' = coordinates := by
  induction alikes generalizing coordinates coordinates' with
  | nil =>
      cases named
      cases named'
      rfl
  | cons alike rest ih =>
      cases named with
      | cons one others =>
          cases named' with
          | cons two others' =>
              obtain ⟨element, read, counts⟩ := one
              obtain ⟨name, base, place, -⟩ := Host.literal_ok read
              rw [← alike.literal_eq fits described place] at read
              rw [ih others others', Scalar.At.unique two ⟨element, read, counts⟩]

/-- A value that the code can address is in a storage of the host. -/
theorem Alike.hosted {layout : Layout} (alike : Alike world left right)
    (ready : right.ready = .ok layout) : ∃ storage base, left.place = .host storage base := by
  obtain ⟨-, -, placed⟩ := alike
  generalize left.dtype? = dtype?, same : right.place = there, left.place = here at placed
  cases placed with
  | unbound =>
      unfold Value.ready Value.isDefined at ready
      rw [same] at ready
      simp at ready
  | pointer register target knowledge points known => exact ⟨_, _, rfl⟩
  | constant storage base name data named known within => exact ⟨_, _, rfl⟩

theorem Value.advanced_le {value answer : Value} {elements storage base : Nat} {heap : Heap}
    (made : value.advanced elements heap = .ok answer) (place : value.place = .host storage base) :
    base + elements ≤ (heap.storage storage).size := by
  unfold Value.advanced Value.host at made
  rw [place] at made
  obtain ⟨_, same, made⟩ := bind_eq_ok.mp made
  cases same
  dsimp only at made
  split at made
  · cases made
  case isFalse inside => exact Nat.le_of_not_lt inside

namespace Realizes

theorem offset {indices indices' : List Scalar} (alike : Alike world left right)
    (alikes : List.Forall₂ (fun index index' : Scalar => Alike world index.value index'.value)
      indices indices') :
    Realizes seeds world (Kernel.offset left indices : Host ρ Value)
      (Kernel.offset right indices' : Emission σ Value) fun later answer answer' =>
        Alike later answer answer' ∧ (Writable world left right → Writable later answer answer') := by
  intro before result after emitted ready
  rcases Emission.offset_placed emitted with ⟨hosted, all, rfl, position, advanced⟩ |
    ⟨unknown, kernel, total, middle, totals, totalled, placed⟩
  · obtain ⟨layout, shaped, -⟩ := Emission.offset_cases emitted
    obtain ⟨-, coordinates, position', name, base, named, flat, place, place'⟩ :=
      (Emission.offset_addressed ready.sound.builder.regular shaped emitted).host hosted all
    obtain ⟨storage, here, constant, known, -, typed⟩ := alike.constant ready.fits place
    have made := Value.eq_of_advanced place advanced
    have within := Value.advanced_le advanced place
    have same : position = position' := by
      rw [made] at place'
      injection place' with _ same
      exact Nat.add_left_cancel same
    subst same made
    have alike' : Alike world (left.moved storage (base + position))
        (right.moved name (base + position)) := by
      refine ⟨alike.dtype, rfl, ?_⟩
      change Placed world left.dtype? _ _
      rw [typed]
      exact .constant storage (base + position) name _ constant known within
    have unwritable : ¬ Writable world left right := by
      rintro ⟨_, _, _, _, _, emitted', _⟩
      cases place.symm.trans emitted'
    refine .still ready ⟨_, alike', fun writable => (unwritable writable).elim⟩ ?_
      (Host.offset_calm left indices)
    intro state answer' state' described done
    obtain ⟨rfl, layout', coordinates', position', shaped', named', flat', advanced'⟩ :=
      Host.offset_found done
    obtain rfl := Value.eq_of_advanced here advanced'
    have layouts : layout' = layout := by
      have one := layout?_of_ready shaped'
      rw [← alike.layout, layout?_of_ready shaped] at one
      exact (Option.some.inj one).symm
    obtain rfl := Alike.same_coordinates alikes ready.fits described named named'
    rw [layouts, flat] at flat'
    cases flat'
    exact ⟨rfl, alike', fun writable => (unwritable writable).elim⟩
  · obtain ⟨layout, shaped, -⟩ := Emission.offset_cases emitted
    obtain ⟨register, place, addresses⟩ :=
      (Emission.offset_addressed ready.sound.builder.regular shaped emitted).emitted unknown
    obtain ⟨address, one, register', dtype, pointed, moved, typed, rfl⟩ := Emission.placed_ok placed
    cases place
    obtain ⟨grows₁, kept₁, ready₁⟩ := totals.emitted ready alikes totalled
    obtain ⟨grows₂, kept₂, ready₂⟩ := pointer_emitted ready₁ alike pointed
    obtain ⟨grows₃, kept₃, ready₃⟩ := offset_emitted ready₂ moved
    have grows := grows₁.trans (grows₂.trans grows₃)
    have kept := kept₁.trans (kept₂.trans kept₃)
    obtain ⟨storage, base, place⟩ := alike.hosted shaped
    obtain ⟨knowledge, known, typed'⟩ := alike.stored place
    have same : dtype = knowledge.dtype := by
      unfold Value.dtype at typed
      rw [typed'] at typed
      exact (Except.ok.inj typed).symm
    subst same
    have pointee := offset_typed ready₂ moved (pointer_typed ready₁ alike typed' pointed)
    -- Any world that knows of the memory can have the new pointer.
    have onward : ∀ (later : World) (allocation position : Nat)
        (linked : later.linked storage allocation), later.known = world.known →
        later.Ready seeds after →
        (later.point register ⟨storage, base + position, allocation⟩ linked).Ready seeds after ∧
          Alike (later.point register ⟨storage, base + position, allocation⟩ linked)
            (left.moved storage (base + position)) (Value.emitted knowledge.dtype register none) ∧
          (Writable world left right →
            Writable (later.point register ⟨storage, base + position, allocation⟩ linked)
              (left.moved storage (base + position))
              (Value.emitted knowledge.dtype register none)) := by
      intro later allocation position linked knows ready'
      have known' : later.known storage = some knowledge := by rw [knows]; exact known
      refine ⟨⟨ready'.sound, ready'.faithful, ready'.fits.point linked known' pointee⟩, ?_, ?_⟩
      · have placed : (left.moved storage (base + position)).place =
          .host storage (base + position) := rfl
        exact alike_point register ⟨storage, base + position, allocation⟩ linked known' placed
          (alike.dtype.symm.trans typed') rfl
      · rintro ⟨_, pointed, dtype, size, place', -, -, shaped'⟩
        cases place.symm.trans place'
        rw [← knows] at shaped'
        exact writable_point register ⟨_, _, allocation⟩ linked shaped' rfl rfl
    refine ⟨grows, kept, ?_, ?_, ?_⟩
    · have isSome : (world.known storage).isSome := by rw [known]; rfl
      obtain ⟨ready', alike', writable⟩ := onward (world.link storage 0 isSome) 0 0 (.inl ⟨rfl, rfl⟩) rfl
        ⟨ready₃.sound, ready₃.faithful, ready₃.fits.link 0 isSome⟩
      exact ⟨_, _, (World.later_link 0 isSome).trans (World.later_point _ _), ready', alike', writable⟩
    · intro stage covers seeded state machine holds answer' state' done
      obtain ⟨rfl, layout', coordinates, position, shaped', named, flat, advanced⟩ :=
        Host.offset_found done
      obtain rfl := Value.eq_of_advanced place advanced
      have within := Value.advanced_le advanced place
      have same : layout' = layout := by
        have one := layout?_of_ready shaped'
        rw [← alike.layout, layout?_of_ready shaped] at one
        exact (Option.some.inj one).symm
      subst same
      obtain ⟨_, _, globals, _⟩ := id addresses
      obtain ⟨allocation, held, -, begins⟩ :=
        alike.begins ready kept ready₃ globals covers holds place
      have large := held.size_lt holds.agrees
      obtain ⟨next, runs, memory, has⟩ := addresses.runs holds.follows ready₃.sound.builder
        covers.builder holds.agrees.holds begins (Alike.all_stand alikes ready holds named) flat
        (by omega)
      have computes : stage.Computes before after machine next := ⟨runs, memory⟩
      have leads := computes.leads holds ready grows
      obtain ⟨later, growing, linked, knows, ready', agrees⟩ := leads.agrees.linking held
      obtain ⟨ready'', alike', writable⟩ := onward later allocation position linked knows
        (ready' ready₃)
      refine ⟨_, next, growing.trans (World.later_point _ linked), ready'', ⟨alike', writable⟩, ?_⟩
      rw [← Nat.add_mul] at has
      exact Stage.Leads.point ⟨leads.runs, leads.untouched, agrees⟩ register
        ⟨storage, base + position, allocation⟩ linked within has
    · intro stage _ _ state machine _ cause state' failed arithmetic
      rw [Host.offset_calm left indices state cause state' failed] at arithmetic
      cases arithmetic

end Realizes
end Offset

end TensorGraph

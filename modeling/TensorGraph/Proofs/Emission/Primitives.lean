/-
Primitives without control.

What only looks at values is seen alike by the running and the emitting host.
Elements that are known while emitting are those that the host reads; others are
computed by the code, into memory of their own.  Writes reach the same elements
of the same storage.
-/

import TensorGraph.Proofs.Emission.Addressing
import TensorGraph.Proofs.Emission.Memory

namespace TensorGraph

open Code FunctionBuilder Machine
open Optimize (targets)

/-! ### Literals -/

namespace Literal

private theorem dtype_of_map {α : Type} (wrap : α → Literal) {kind : DType}
    (typed : ∀ number, (wrap number).dtype = kind) {outcome : Except Error α} {result : Literal}
    (done : wrap <$> outcome = .ok result) : result.dtype = kind := by
  cases outcome with
  | error cause => cases done
  | ok number =>
      cases done
      exact typed number

/-- What two elements are combined to has their type. -/
theorem binary_dtype {op : BinaryOp} {left right result : Literal}
    (done : left.binary op right = .ok result) : result.dtype = left.dtype := by
  cases left <;> cases right <;> try cases done
  case bool.bool => cases op <;> cases done <;> rfl
  case u8.u8 => exact dtype_of_map u8 (fun _ => rfl) done
  case i32.i32 => exact dtype_of_map i32 (fun _ => rfl) done
  case i64.i64 => exact dtype_of_map i64 (fun _ => rfl) done
  case f32.f32 => rfl
  case f64.f64 => rfl

/-- Arithmetic on one element keeps its type. -/
theorem unary_dtype {op : UnaryOp} {operand result : Literal}
    (done : operand.unary op = .ok result) : result.dtype = operand.dtype := by
  cases operand <;> cases op <;> cases done <;> rfl

end Literal

/-! ### Looking -/

section Looking

variable {ρ σ α β : Type} {seeds : Nat → Option Nat} {world : World}

/-- Nothing is emitted, and the host changes no memory. -/
theorem Realized.still {host : Host ρ α} {before : EmissionState σ} {answer : β}
    {post : World → α → β → Prop} (ready : world.Ready seeds before)
    (possible : ∃ answer', post world answer' answer)
    (looks : ∀ (state : HostState ρ) answer' state', world.Describes state.heap →
      host state = .ok answer' state' → state'.heap = state.heap ∧ post world answer' answer)
    (calm : ∀ (state : HostState ρ) cause state', host state = .error (.error cause) state' →
      cause.isArithmetic = false) :
    Realized seeds world host before answer before post := by
  obtain ⟨answer₀, holds₀⟩ := possible
  refine ⟨.refl ready.sound, .refl _, ⟨world, answer₀, .refl world, ready, holds₀⟩, ?_, ?_⟩
  · intro stage _ _ state machine agreed answer' state' done
    obtain ⟨same, holds⟩ := looks state answer' state' agreed.agrees.known done
    refine ⟨world, machine, .refl world, ready, holds, .refl agreed.follows, .refl _ _, ?_⟩
    rw [same]
    exact agreed.agrees
  · intro stage _ _ state machine _ cause state' failed arithmetic
    rw [calm state cause state' failed] at arithmetic
    cases arithmetic

theorem Emission.look_ok {view : Heap → Except Error α} {state after : EmissionState σ}
    {result : α} : (Kernel.read view : Emission σ α) state = .ok result after ↔
      view state.heap = .ok result ∧ state = after := by
  refine onHeap_ok.trans ⟨?_, ?_⟩
  · rintro ⟨heap, done, rfl⟩
    obtain ⟨read, rfl⟩ := Action.ofExcept_ok.mp done
    exact ⟨read, rfl⟩
  · rintro ⟨read, rfl⟩
    exact ⟨state.heap, Action.ofExcept_ok.mpr ⟨read, rfl⟩, rfl⟩

namespace Realizes

/-- Both hosts look at their own memory. -/
theorem read {view : Heap → Except Error α} {view' : Heap → Except Error β}
    {post : World → α → β → Prop}
    (possible : ∀ heap answer, view' heap = .ok answer → ∃ answer', post world answer' answer)
    (looks : ∀ heap answer heap' answer', view heap = .ok answer → view' heap' = .ok answer' →
      post world answer answer')
    (calm : ∀ heap cause, view heap = .error cause → cause.isArithmetic = false) :
    Realizes seeds world (Kernel.read view : Host ρ α) (Kernel.read view' : Emission σ β) post := by
  intro before answer after emitted ready
  obtain ⟨seen, rfl⟩ := Emission.look_ok.mp emitted
  refine .still ready (possible _ _ seen) ?_ ?_
  · intro state answer' state' _ done
    obtain ⟨seen', rfl⟩ := Host.look_ok.mp done
    exact ⟨rfl, looks _ _ _ _ seen' seen⟩
  · intro state cause state' failed
    obtain ⟨cause', refused, same, -⟩ := Host.look_error.mp failed
    cases same
    exact calm _ _ refused

/-- The code goes on where only the host sees that it has to stop. -/
theorem refuse [Nonempty α] {result : Except Error α} {answer : β}
    {post : World → α → β → Prop}
    (calm : ∀ cause, result = .error cause → cause.isArithmetic = false)
    (holds : ∀ answer', post world answer' answer) :
    Realizes seeds world (Kernel.ofExcept result : Host ρ α) (Pure.pure answer : Emission σ β)
      post := by
  intro before _ after emitted ready
  obtain ⟨rfl, rfl⟩ := Emission.pure_ok.mp emitted
  obtain ⟨answer₀⟩ := ‹Nonempty α›
  refine .still ready ⟨answer₀, holds answer₀⟩ ?_ ?_
  · intro state answer' state' _ done
    obtain ⟨-, rfl⟩ := Host.ofExcept_ok.mp done
    exact ⟨rfl, holds answer'⟩
  · intro state cause state' failed
    obtain ⟨cause', refused, same, -⟩ := Host.ofExcept_error.mp failed
    cases same
    exact calm _ refused

end Realizes

/-! ### Views -/

namespace Value

variable {value answer : Value} {placed : Layout} {heap : Heap} {cause : Error}

theorem eq_of_withLayout (made : value.withLayout placed heap = .ok answer) :
    answer = { value with layout? := some placed } := by
  unfold withLayout at made
  split at made
  · obtain ⟨_, -, made⟩ := bind_eq_ok.mp made
    cases made
    rfl
  · cases made
    rfl

theorem checkFits_calm {base size : Nat} (refused : checkFits placed base size = .error cause) :
    cause.isArithmetic = false := by
  unfold checkFits at refused
  split at refused <;> cases refused
  simp [Error.isArithmetic, String.toList_append]

theorem withLayout_calm (refused : value.withLayout placed heap = .error cause) :
    cause.isArithmetic = false := by
  unfold withLayout at refused
  split at refused
  · rcases error_of_bind refused with refused | ⟨_, _, refused⟩
    · exact checkFits_calm refused
    · cases refused
  · cases refused

theorem ready_calm (refused : value.ready = .error cause) : cause.isArithmetic = false := by
  unfold ready layout at refused
  split at refused
  · split at refused <;> cases refused
    decide
  · cases refused
    decide

theorem eq_of_flatten (made : value.flatten heap = .ok answer) :
    ∃ layout, value.layout? = some layout ∧
      answer = { value with layout? := some (Layout.packed [layout.elementCount]) } := by
  unfold flatten at made
  obtain ⟨layout, ready, made⟩ := bind_eq_ok.mp made
  split at made
  · exact ⟨layout, Realizes.layout?_of_ready ready, eq_of_withLayout made⟩
  · cases made

theorem flatten_calm (refused : value.flatten heap = .error cause) :
    cause.isArithmetic = false := by
  unfold flatten at refused
  rcases error_of_bind refused with refused | ⟨layout, _, refused⟩
  · exact ready_calm refused
  · split at refused
    · exact withLayout_calm refused
    · cases refused
      decide

end Value

/-- Values that stand for each other do so in any layout. -/
theorem Alike.withLayout {host code : Value} (alike : Alike world host code)
    (layout? : Option Layout) :
    Alike world { host with layout? := layout? } { code with layout? := layout? } :=
  ⟨alike.dtype, rfl, alike.place⟩

namespace Realizes

variable {left right : Value}

theorem withLayout (placed : Layout) (alike : Alike world left right) :
    Realizes seeds world (Kernel.read fun heap => left.withLayout placed heap : Host ρ Value)
      (Kernel.read fun heap => right.withLayout placed heap : Emission σ Value)
      fun later answer answer' =>
        Alike later answer answer' ∧ (Writable world left right → Writable later answer answer') := by
  have both : ∀ answer', answer' = { right with layout? := some placed } →
      Alike world { left with layout? := some placed } answer' ∧
        (Writable world left right → Writable world { left with layout? := some placed } answer') := by
    rintro _ rfl
    exact ⟨alike.withLayout _, fun writable => writable⟩
  refine read ?_ ?_ fun _ _ => Value.withLayout_calm
  · exact fun _ answer made => ⟨_, both answer (Value.eq_of_withLayout made)⟩
  · intro _ answer _ answer' made made'
    cases Value.eq_of_withLayout made
    exact both answer' (Value.eq_of_withLayout made')

theorem flatten (alike : Alike world left right) :
    Realizes seeds world (Kernel.read left.flatten : Host ρ Value)
      (Kernel.read right.flatten : Emission σ Value) fun later answer answer' =>
        Alike later answer answer' ∧ (Writable world left right → Writable later answer answer') := by
  have both : ∀ layout, right.layout? = some layout → ∀ answer',
      answer' = { right with layout? := some (Layout.packed [layout.elementCount]) } →
      Alike world { left with layout? := some (Layout.packed [layout.elementCount]) } answer' ∧
        (Writable world left right → Writable world
          { left with layout? := some (Layout.packed [layout.elementCount]) } answer') := by
    rintro layout - _ rfl
    exact ⟨alike.withLayout _, fun writable => writable⟩
  refine read ?_ ?_ fun _ _ => Value.flatten_calm
  · intro _ answer made
    obtain ⟨layout, shaped, same⟩ := Value.eq_of_flatten made
    exact ⟨_, both layout shaped answer same⟩
  · intro _ answer _ answer' made made'
    obtain ⟨layout, shaped, same⟩ := Value.eq_of_flatten made
    obtain ⟨layout', shaped', same'⟩ := Value.eq_of_flatten made'
    cases shaped'.symm.trans (alike.layout.trans shaped)
    subst same
    exact both _ shaped' answer' same'

/-- An element that is known while emitting is known to the running host. -/
theorem known (alike : Alike world left right) :
    Realizes seeds world (Kernel.known left : Host ρ (Option Literal))
      (Kernel.known right : Emission σ (Option Literal)) fun _ answer answer' =>
        answer = answer' ∨ (True ∧ answer' = none) := by
  intro before answer after emitted ready
  obtain ⟨found, rfl⟩ := Emission.known_ok.mp emitted
  refine .still ready ⟨answer, .inl rfl⟩ ?_ ?_
  · rintro state answer' state' described ⟨⟩
    refine ⟨rfl, ?_⟩
    cases answer with
    | none => exact .inr ⟨trivial, rfl⟩
    | some element =>
        rw [alike.known ready.fits described found]
        exact .inl rfl
  · intro state cause state' failed
    cases failed

end Realizes

/-! ### New storages -/

/-- The value that shows the whole of a new storage. -/
def Storage.whole (data : Storage) (placed : Layout) (name : Nat) : Value :=
  { dtype? := some data.dtype
    layout? := some placed
    place := .host name 0 }

namespace Realizes

theorem constant (literal : Literal) :
    Realizes seeds world (Kernel.onHost (Scalar.ofLiteral literal) : Host ρ Scalar)
      (Kernel.onHost (Scalar.ofLiteral literal) : Emission σ Scalar) fun later answer answer' =>
        Alike later answer.value answer'.value := by
  intro before answer after emitted ready
  obtain ⟨_, made, rfl⟩ := Emission.onHeap_ok.mp emitted
  cases made
  refine Realized.shared (Storage.singleton literal) (some Layout.scalar)
    (Host.item literal.dtype · 0) Scalar.value (fun _ => rfl) ready ?_ ?_
  · rintro state answer' state' - ⟨⟩
    exact ⟨rfl, rfl⟩
  · rintro state cause state' - ⟨⟩

theorem storage (data : Storage) (placed : Layout) :
    Realizes seeds world (Kernel.onHost (Value.ofStorage data placed) : Host ρ Value)
      (Kernel.onHost (Value.ofStorage data placed) : Emission σ Value) Alike := by
  have made : ∀ heap answer after, Value.ofStorage data placed heap = .ok answer after →
      after = heap.add data ∧ answer = data.whole placed heap.next := by
    intro heap answer after made
    obtain ⟨_, _, checked, made⟩ := Action.bind_ok.mp made
    obtain ⟨-, rfl⟩ := Action.ofExcept_ok.mp checked
    cases made
    exact ⟨rfl, rfl⟩
  intro before answer after emitted ready
  obtain ⟨_, done, rfl⟩ := Emission.onHeap_ok.mp emitted
  obtain ⟨rfl, rfl⟩ := made _ _ _ done
  refine Realized.shared data (some placed) (data.whole placed) id (fun _ => rfl) ready ?_ ?_
  · intro state answer' state' _ done
    obtain ⟨_, added, rfl⟩ := Host.onHeap_ok.mp done
    obtain ⟨rfl, rfl⟩ := made _ _ _ added
    exact ⟨rfl, rfl⟩
  · intro state cause state' _ failed
    obtain ⟨_, halted, rfl⟩ := Host.onHeap_error.mp failed
    rcases Action.bind_error.mp halted with checked | ⟨_, _, _, added⟩
    · obtain ⟨cause', refused, same, -⟩ := Action.ofExcept_error.mp checked
      cases same
      exact Value.checkFits_calm refused
    · cases added

end Realizes
end Looking

/-! ### Computed elements -/

theorem Storage.bytes_singleton (element : Literal) :
    (singleton element).bytes = element.bytes :=
  List.append_nil _

namespace Host

variable {ρ : Type}

/-- The host puts the element that it computes from its memory into a new storage. -/
structure Evaluates (host : Host ρ Value) (view : Heap → Except Error Literal) : Prop where
  done : ∀ state answer after, host state = .ok answer after → ∃ element,
    view state.heap = .ok element ∧ after.heap = state.heap.add (Storage.singleton element) ∧
      answer = (item element.dtype state.heap.next 0).value
  failed : ∀ state cause after, host state = .error (.error cause) after →
    view state.heap = .error cause ∧ after.heap = state.heap

end Host

namespace Emission

variable {σ : Type} {state after : EmissionState σ}

/-- The slot of a computed element comes right behind the register that it was computed to. -/
theorem spill_ok {dtype : DType} {register : Register} {result : Value}
    (emitted : (spill dtype register : Emission σ Value) state = .ok result after)
    (formed : state.builder.Formed) :
    result = Value.emitted dtype state.builder.size (some Layout.scalar) ∧
      after = state.onBuilder ((state.builder.allocating dtype 1).pushing
        (.store state.builder.size (.register register))) ∧
      Building.store state.builder.size (.register register) (state.builder.allocating dtype 1) =
        .ok () after.builder := by
  obtain ⟨slot, _, allocated, emitted⟩ := bind_ok.mp emitted
  obtain ⟨builder, built, rfl⟩ := building_ok.mp allocated
  obtain ⟨rfl, rfl⟩ := Building.alloca_ok.mp built
  obtain ⟨_, _, stored, emitted⟩ := bind_ok.mp emitted
  obtain ⟨rfl, rfl⟩ := pure_ok.mp emitted
  obtain ⟨builder, built, rfl⟩ := building_ok.mp stored
  obtain ⟨_, _, _, _, rfl⟩ := (Building.store_ok (formed.numbered.allocating dtype 1)).mp built
  exact ⟨rfl, rfl, built⟩

end Emission

section Computed

variable {ρ σ : Type} {seeds : Nat → Option Nat} {world : World}
  {before middle after : EmissionState σ} {host : Host ρ Value}
  {view : Heap → Except Error Literal}

/-- What is known while emitting is put into a storage of both hosts. -/
theorem Host.Evaluates.folded (evaluates : host.Evaluates view) (ready : world.Ready seeds before)
    {element : Literal} (known : ∀ heap, world.Describes heap → view heap = .ok element) :
    Realized seeds world host before (Host.item element.dtype before.heap.next 0).value
      { before with heap := before.heap.add (Storage.singleton element) } Alike := by
  refine Realized.shared (Storage.singleton element) (some Layout.scalar)
    (fun name => (Host.item element.dtype name 0).value) id (fun _ => rfl) ready ?_ ?_
  · intro state answer' state' described done
    obtain ⟨element', seen, added, rfl⟩ := evaluates.done _ _ _ done
    cases (known _ described).symm.trans seen
    exact ⟨added, rfl⟩
  · intro state cause state' described failed
    cases (known _ described).symm.trans (evaluates.failed _ _ _ failed).1

/-- The machine puts a computed element into the slot, as the host puts it into a new storage. -/
theorem Stage.spill_runs {stage : Stage} {heap : Heap} {machine : State} {dtype : DType}
    {register : Register} {element : Literal} {answer : Value}
    (holds : stage.Matches world before heap machine) (ready : world.Ready seeds before)
    (has : machine.frame.Has register (.element element)) (typed : element.dtype = dtype)
    (emitted : (Emission.spill dtype register : Emission σ Value) before = .ok answer after)
    (covers : stage.Covers after) :
    ∃ next, stage.Runs before.builder after.builder machine next ∧
      stage.Untouched after.builder.size machine.memory next.memory ∧
      ∀ fresh : world.next ≤ heap.next,
        stage.Agrees (world.held heap.next fresh (.shaped dtype 1)
          (stage.place before.builder.size) before.builder.size) after.builder.size
          (heap.add (Storage.singleton element)) next.frame.registers next.memory := by
  subst typed
  obtain ⟨-, rfl, stored⟩ := Emission.spill_ok emitted ready.sound.builder
  have formed := ready.sound.builder
  have line := Straight.allocate formed ready.sound.opened element.dtype 1
  have member : .alloca before.builder.size element.dtype 1 ∈ stage.builder.prologue := by
    have steps := Building.store_straight (line.formed formed) stored
    exact mem_prologue_allocating
      ((steps.steps.grows (line.formed formed)).trans covers.builder)
  have aside : stage.Runs before.builder (before.builder.allocating element.dtype 1) machine
      machine := holds.follows.aside_runs rfl rfl
  obtain ⟨place, image, found, large⟩ := holds.agrees.holds.slots _ _ _ member
  have whole : element.bytes.length = image.size := by
    rw [large, Literal.length_bytes, Nat.mul_one]
  obtain ⟨next, runs, memory⟩ := store_runs aside.follows (line.formed formed) stored covers.builder
    place (Machine.Frame.element_ok.mpr has) (Machine.check_whole found whole)
  have wider : before.builder.size + 1 ≤ (EmissionState.onBuilder before
      ((before.builder.allocating element.dtype 1).pushing
        (.store before.builder.size (.register register)))).builder.size :=
    Nat.le_of_eq (size_allocating before.builder element.dtype 1).symm
  refine ⟨next, aside.trans runs (Nat.le.intro (size_allocating _ _ _).symm), ?_, fun fresh => ?_⟩
  · rw [memory]
    exact untouched_slot wider member machine.memory _
  · rw [memory]
    have described : (Knowledge.shaped element.dtype 1).Describes (Storage.singleton element) :=
      ⟨rfl, rfl⟩
    have filled := holds.agrees.filled fresh described member
    rw [Storage.bytes_singleton] at filled
    refine filled.settled wider (fun register target points =>
      (ready.fits.pointers register target points).1) member runs.room ?_
    rintro register' (earlier | prologue)
    · exact runs.kept register' (.inl (Nat.lt_of_lt_of_le earlier
        (Nat.le.intro (size_allocating _ _ _).symm)))
    · exact runs.kept register' (.inr prologue)

/-- What one instruction computes is put into a slot. -/
theorem Host.Evaluates.spilled (evaluates : host.Evaluates view) (ready : world.Ready seeds before)
    (grows : before.Grows middle) (kept : before.heap.Grows middle.heap)
    (ready' : world.Ready seeds middle) {build : Building Register} {instruction : Instruction}
    {kind dtype : DType} {answer : Value}
    (built : build middle.builder = .ok middle.builder.size
      ((middle.builder.registering (.element kind)).pushing instruction))
    (straight : middle.builder.Straight
      ((middle.builder.registering (.element kind)).pushing instruction))
    (defines : instruction.target? = some middle.builder.size)
    (plain : Instruction.isCall instruction = false)
    (emitted : (do Emission.spill dtype (← Emission.building build) : Emission σ Value) middle =
      .ok answer after)
    (computes : ∀ stage : Stage, stage.Covers middle → ∀ (heap : Heap) (machine : State),
      stage.Matches world before heap machine →
      (∀ element, view heap = .ok element → element.dtype = dtype ∧
        ∃ next, stage.Computes before middle machine next ∧
          effect stage.module next.memory next.frame instruction =
            .ok (next.memory, some (middle.builder.size, .element element))) ∧
      ∀ cause, view heap = .error cause → cause.isArithmetic = true →
        ∃ next, stage.Computes before middle machine next ∧
          Miscomputes next.frame cause instruction) :
    Realized seeds world host before answer after Alike := by
  obtain ⟨register, _, computed, emitted⟩ := Emission.bind_ok.mp emitted
  obtain ⟨builder, ran, rfl⟩ := Emission.building_ok.mp computed
  cases built.symm.trans ran
  have steps := EmissionState.Grows.onBuilder ready'.sound straight.steps straight.balanced
    straight.states
  have ready₁ := ready'.grows steps
    (.onBuilder ready'.sound ready'.faithful straight.steps) ready'.fits.taken
  have emits : Emission.Emits (fun _ => False)
      (Emission.spill dtype middle.builder.size : Emission σ Value) :=
    Emission.spill_emits dtype middle.builder.size
  obtain ⟨grows', kept', ready₂⟩ := ready₁.emitted emits (Emission.spill_keepsStates _ _) emitted
    fun _ absurd => absurd.elim
  -- The machine comes to the instruction, and then to the slot.
  have reached : ∀ stage : Stage, stage.Covers after → ∀ (heap : Heap) (machine next : State),
      stage.Matches world before heap machine → stage.Computes before middle machine next →
      stage.Matches world middle heap next :=
    fun stage covers heap machine next holds computed =>
      computed.follows_on holds ready grows
  obtain ⟨rfl, same, stored⟩ := Emission.spill_ok emitted ready₁.sound.builder
  refine (Realized.filled 1 (grows.trans (steps.trans grows')) (kept.trans kept') ready₂ ?_ ?_
    ?_).weaken fun _ _ _ both => both.1
  · rw [same]
    exact Building.pointeeType_ok.mpr Array.getElem?_push_size
  · intro stage covers state machine holds answer' state' done
    obtain ⟨element, seen, added, rfl⟩ := evaluates.done _ _ _ done
    have covers₁ := covers.of_grows steps.sound grows'
    have covers' := covers₁.of_grows ready'.sound steps
    obtain ⟨runs, -⟩ := computes stage covers' _ machine holds
    obtain ⟨typed, next, computed, reckoned⟩ := runs element seen
    have holds' := reached stage covers _ _ _ holds computed
    obtain ⟨next', ran', memory, has⟩ := Stage.defines_runs holds'.follows ready'.sound.builder
      ready'.sound.opened holds'.agrees.holds.size covers₁.builder plain defines reckoned
    have computed' : stage.Computes before (middle.onBuilder
        ((middle.builder.registering (.element kind)).pushing instruction)) machine next' :=
      computed.trans ⟨ran', memory⟩ ready.sound grows
    have holds₁ := computed'.follows_on holds ready (grows.trans steps)
    obtain ⟨last, runs', untouched, agrees⟩ :=
      Stage.spill_runs holds₁ ready₁ has typed emitted covers
    refine ⟨last, ?_, computed'.runs.trans runs' ?_, ?_, ?_⟩
    · rw [← typed]
      rfl
    · exact ((grows.trans steps).builder ready.sound).size_le
    · rw [← computed'.memory]
      exact untouched
    · rw [added]
      exact agrees
  · intro stage covers state machine holds cause state' failed arithmetic
    obtain ⟨refused, still⟩ := evaluates.failed _ _ _ failed
    have covers₁ := covers.of_grows steps.sound grows'
    have covers' := covers₁.of_grows ready'.sound steps
    obtain ⟨-, breaks⟩ := computes stage covers' _ machine holds
    obtain ⟨next, computed, miscomputes⟩ := breaks cause refused arithmetic
    have holds' := reached stage covers _ _ _ holds computed
    rw [same] at covers
    obtain ⟨final, broken, memory⟩ := Stage.spilled_breaks holds'.follows ready'.sound.builder
      covers.builder defines miscomputes
    exact ⟨still, final, .of_reaches computed.runs.reaches broken,
      memory.trans computed.memory⟩

end Computed

/-! ### Operands -/

section Operands

variable {σ : Type} {seeds : Nat → Option Nat} {world : World}
  {before middle after : EmissionState σ} {left left' right right' : Value}
  {first second : Operand}

theorem operand_emitted (ready : world.Ready seeds before) (alike : Alike world left left')
    (emitted : (Emission.operand left' : Emission σ Operand) before = .ok first after) :
    before.Grows after ∧ before.heap.Grows after.heap ∧ world.Ready seeds after :=
  ready.emitted (Emission.operand_emits left') (Emission.operand_keepsStates left') emitted
    (alike.inHost_lt ready.fits)

/-- The storage of a value is known, and the code knows the type of its elements. -/
theorem Alike.stored {storage base : Nat} (alike : Alike world left left')
    (place : left.place = .host storage base) :
    ∃ knowledge, world.known storage = some knowledge ∧ left'.dtype? = some knowledge.dtype := by
  have placed := alike.place
  rw [place] at placed
  rw [alike.dtype]
  generalize left.dtype? = dtype?, left'.place = there at placed
  cases placed with
  | pointer register target knowledge points known => exact ⟨knowledge, known, rfl⟩
  | constant _ _ name data named known within => exact ⟨.fixed data, known, rfl⟩

/-- What the host reads has the type that the code knows of the value. -/
theorem Alike.literal_dtype {heap : Heap} {element : Literal} (alike : Alike world left left')
    (described : world.Describes heap) (read : Host.literal left heap = .ok element) :
    left'.dtype = .ok element.dtype := by
  obtain ⟨storage, base, place, -⟩ := Host.literal_ok read
  obtain ⟨knowledge, known, typed⟩ := alike.stored place
  unfold Value.dtype
  rw [typed, Host.typed_literal read place, (described _ _ known).dtype]

/-- Both operands are loaded, one after the other. -/
theorem operands_run {stage : Stage} {heap : Heap} {machine : State}
    (ready : world.Ready seeds before) (alike : Alike world left left')
    (alike' : Alike world right right')
    (emitted : (Emission.operand left' : Emission σ Operand) before = .ok first middle)
    (emitted' : (Emission.operand right' : Emission σ Operand) middle = .ok second after)
    (covers : stage.Covers after) (holds : stage.Matches world before heap machine)
    {element element' : Literal} (read : Host.literal left heap = .ok element)
    (read' : Host.literal right heap = .ok element') :
    ∃ next, stage.Computes before after machine next ∧ next.frame.element first = .ok element ∧
      next.frame.element second = .ok element' := by
  obtain ⟨grows, -, ready₁⟩ := operand_emitted ready alike emitted
  obtain ⟨grows', -, -⟩ := operand_emitted ready₁ alike' emitted'
  obtain ⟨next, one, holds₁, reads⟩ := Stage.operand_runs emitted ready alike
    (covers.of_grows grows.sound grows') holds read
  obtain ⟨last, two, holds₂, -⟩ := Stage.operand_runs emitted' ready₁ alike' covers
    (one.follows_on holds ready grows) read'
  exact ⟨last, one.trans two ready.sound grows, two.runs.element holds₁ reads, holds₂⟩

end Operands

/-! ### Arithmetic on the host -/

namespace Host.Evaluates

variable {ρ α : Type} {rest : α → Host ρ Value} {view : α → Heap → Except Error Literal}

theorem made (element : Literal) :
    (onHeap (Value.ofLiteral element) : Host ρ Value).Evaluates fun _ => .ok element where
  done := by
    rintro state answer after ⟨⟩
    exact ⟨element, rfl, rfl, rfl⟩
  failed := by
    rintro state cause after ⟨⟩

theorem computing (result : Except Error α) (onward : ∀ answer, (rest answer).Evaluates (view answer)) :
    (ofExcept result >>= rest).Evaluates fun heap => result >>= fun answer => view answer heap where
  done := by
    intro state answer after done
    obtain ⟨value, _, computed, done⟩ := bind_ok.mp done
    obtain ⟨rfl, rfl⟩ := ofExcept_ok.mp computed
    exact (onward value).done _ _ _ done
  failed := by
    intro state cause after failed
    rcases bind_error.mp failed with refused | ⟨value, _, computed, failed⟩
    · obtain ⟨_, rfl, same, rfl⟩ := ofExcept_error.mp refused
      cases same
      exact ⟨rfl, rfl⟩
    · obtain ⟨rfl, rfl⟩ := ofExcept_ok.mp computed
      exact (onward value).failed _ _ _ failed

theorem reading {rest : Literal → Host ρ Value} {view : Literal → Heap → Except Error Literal}
    (value : Value) (onward : ∀ element, (rest element).Evaluates (view element)) :
    (readLiteral value >>= rest).Evaluates
      fun heap => literal value heap >>= fun element => view element heap where
  done := by
    intro state answer after done
    obtain ⟨element, _, seen, done⟩ := bind_ok.mp done
    obtain ⟨found, rfl⟩ := readLiteral_ok.mp seen
    rw [found]
    exact (onward element).done _ _ _ done
  failed := by
    intro state cause after failed
    rcases bind_error.mp failed with refused | ⟨element, _, seen, failed⟩
    · obtain ⟨_, missing, same, rfl⟩ := look_error.mp refused
      cases same
      exact ⟨congrArg (· >>= _) missing, rfl⟩
    · obtain ⟨found, rfl⟩ := readLiteral_ok.mp seen
      rw [found]
      exact (onward element).failed _ _ _ failed

theorem counting {host : Host ρ Value} {view : Heap → Except Error Literal}
    (evaluates : host.Evaluates view) (operations : Nat) :
    (count operations >>= fun _ => host).Evaluates view where
  done := fun state answer after done =>
    evaluates.done { state with operations := state.operations + operations } answer after done
  failed := fun state cause after failed =>
    evaluates.failed { state with operations := state.operations + operations } cause after failed

end Host.Evaluates

/-! ### Arithmetic in code -/

namespace Emission

variable {σ : Type} {state after : EmissionState σ} {left right answer : Value}

theorem constant_ok {literal : Literal}
    (emitted : (constant literal : Emission σ Value) state = .ok answer after) :
    answer = (Host.item literal.dtype state.heap.next 0).value ∧
      after = { state with heap := state.heap.add (Storage.singleton literal) } := by
  obtain ⟨_, made, rfl⟩ := onHeap_ok.mp emitted
  cases made
  exact ⟨rfl, rfl⟩

/-- The element that two known ones are combined to. -/
private def combined? (op : BinaryOp) : Option Literal → Option Literal → Option Literal
  | some first, some second => (first.binary op second).toOption
  | _, _ => none

/-- An element that is known is a constant, and another one is computed. -/
private def settled (op : BinaryOp) (left right : Value) : Option Literal → Emission σ Value
  | some result => constant result
  | none => do
      let dtype ← ofExcept left.dtype
      let first ← operand left
      let second ← operand right
      spill dtype (← building (Building.binary op first second))

/-- Two elements are combined while emitting, or by the code. -/
theorem binary_cases {op : BinaryOp}
    (emitted : (binary op left right : Emission σ Value) state = .ok answer after) :
    (∃ first second result, literal? left state.heap = some first ∧
      literal? right state.heap = some second ∧ first.binary op second = .ok result ∧
      (constant result : Emission σ Value) state = .ok answer after) ∨
    ∃ dtype first middle second last, left.dtype = .ok dtype ∧
      (operand left : Emission σ Operand) state = .ok first middle ∧
      (operand right : Emission σ Operand) middle = .ok second last ∧
      (do spill dtype (← building (Building.binary op first second)) : Emission σ Value) last =
        .ok answer after := by
  change settled op left right
    (combined? op (literal? left state.heap) (literal? right state.heap)) state = _ at emitted
  cases known : combined? op (literal? left state.heap) (literal? right state.heap) with
  | none =>
      rw [known] at emitted
      obtain ⟨dtype, _, typed, emitted⟩ := bind_ok.mp emitted
      obtain ⟨typed', rfl⟩ := ofExcept_ok.mp typed
      obtain ⟨first, middle, one, emitted⟩ := bind_ok.mp emitted
      obtain ⟨second, last, two, emitted⟩ := bind_ok.mp emitted
      exact .inr ⟨dtype, first, middle, second, last, typed', one, two, emitted⟩
  | some result =>
      rw [known] at emitted
      unfold combined? at known
      split at known
      case h_1 first second found found' =>
        cases done : first.binary op second with
        | error cause => rw [done] at known; cases known
        | ok element =>
            rw [done] at known
            cases known
            exact .inl ⟨first, second, _, found, found', done, emitted⟩
      case h_2 => cases known

theorem unary_cases {op : UnaryOp} {value : Value}
    (emitted : (unary op value : Emission σ Value) state = .ok answer after) :
    (∃ element result, literal? value state.heap = some element ∧ element.unary op = .ok result ∧
      (constant result : Emission σ Value) state = .ok answer after) ∨
    ∃ dtype operand' middle, value.dtype = .ok dtype ∧
      (operand value : Emission σ Operand) state = .ok operand' middle ∧
      (do spill dtype (← building (Building.unary op operand')) : Emission σ Value) middle =
        .ok answer after := by
  obtain ⟨known?, _, looked, emitted⟩ := bind_ok.mp emitted
  obtain ⟨found, rfl⟩ := known_ok.mp looked
  cases known? with
  | none =>
      obtain ⟨dtype, _, typed, emitted⟩ := bind_ok.mp emitted
      obtain ⟨typed', rfl⟩ := ofExcept_ok.mp typed
      obtain ⟨operand', middle, one, emitted⟩ := bind_ok.mp emitted
      exact .inr ⟨dtype, operand', middle, typed', one, emitted⟩
  | some element =>
      obtain ⟨result, _, computed, emitted⟩ := bind_ok.mp emitted
      obtain ⟨done, rfl⟩ := ofExcept_ok.mp computed
      exact .inl ⟨element, result, found, done, emitted⟩

theorem compare_cases {op : CompareOp}
    (emitted : (compare op left right : Emission σ Value) state = .ok answer after) :
    (∃ first second result, literal? left state.heap = some first ∧
      literal? right state.heap = some second ∧ first.compare op second = .ok result ∧
      (constant (.bool result) : Emission σ Value) state = .ok answer after) ∨
    ∃ first middle second last, (operand left : Emission σ Operand) state = .ok first middle ∧
      (operand right : Emission σ Operand) middle = .ok second last ∧
      (do spill .bool (← building (Building.compare op first second)) : Emission σ Value) last =
        .ok answer after := by
  obtain ⟨left?, _, looked, emitted⟩ := bind_ok.mp emitted
  obtain ⟨found, rfl⟩ := known_ok.mp looked
  obtain ⟨right?, _, looked, emitted⟩ := bind_ok.mp emitted
  obtain ⟨found', rfl⟩ := known_ok.mp looked
  cases left? with
  | none =>
      obtain ⟨first, middle, one, emitted⟩ := bind_ok.mp emitted
      obtain ⟨second, last, two, emitted⟩ := bind_ok.mp emitted
      exact .inr ⟨first, middle, second, last, one, two, emitted⟩
  | some first =>
      cases right? with
      | none =>
          obtain ⟨first, middle, one, emitted⟩ := bind_ok.mp emitted
          obtain ⟨second, last, two, emitted⟩ := bind_ok.mp emitted
          exact .inr ⟨first, middle, second, last, one, two, emitted⟩
      | some second =>
          obtain ⟨result, _, computed, emitted⟩ := bind_ok.mp emitted
          obtain ⟨done, rfl⟩ := ofExcept_ok.mp computed
          exact .inl ⟨first, second, result, found, found', done, emitted⟩

theorem cast_cases {dtype : DType} {value : Value}
    (emitted : (cast value dtype : Emission σ Value) state = .ok answer after) :
    (∃ element, literal? value state.heap = some element ∧
      (constant (element.cast dtype) : Emission σ Value) state = .ok answer after) ∨
    ∃ operand' middle, (operand value : Emission σ Operand) state = .ok operand' middle ∧
      (do spill dtype (← building (Building.cast operand' dtype)) : Emission σ Value) middle =
        .ok answer after := by
  obtain ⟨known?, _, looked, emitted⟩ := bind_ok.mp emitted
  obtain ⟨found, rfl⟩ := known_ok.mp looked
  cases known? with
  | none =>
      obtain ⟨operand', middle, one, emitted⟩ := bind_ok.mp emitted
      exact .inr ⟨operand', middle, one, emitted⟩
  | some element => exact .inl ⟨element, found, emitted⟩

end Emission

/-! ### Arithmetic -/

namespace Realizes

variable {ρ σ : Type} {seeds : Nat → Option Nat} {world : World} {left left' right right' : Value}

theorem binary (op : BinaryOp) (alike : Alike world left left') (alike' : Alike world right right') :
    Realizes seeds world (Kernel.binary op left right : Host ρ Value)
      (Kernel.binary op left' right' : Emission σ Value) Alike := by
  have evaluates : (Host.binary op left right : Host ρ Value).Evaluates _ :=
    (Host.Evaluates.reading left fun first => .reading right fun second =>
      .computing (first.binary op second) .made).counting 1
  intro before answer after emitted ready
  rcases Emission.binary_cases emitted with ⟨first, second, result, known, known', done, emitted⟩ |
    ⟨dtype, first, middle, second, last, typed, emitted₁, emitted₂, emitted⟩
  · obtain ⟨rfl, rfl⟩ := Emission.constant_ok emitted
    refine evaluates.folded ready fun heap described => ?_
    rw [alike.known ready.fits described known, alike'.known ready.fits described known']
    exact congrArg (· >>= _) done
  · obtain ⟨grows, kept, ready₁⟩ := operand_emitted ready alike emitted₁
    obtain ⟨grows', kept', ready₂⟩ := operand_emitted ready₁ alike' emitted₂
    obtain ⟨_, _, ran, -⟩ := Emission.bind_ok.mp emitted
    obtain ⟨_, built, rfl⟩ := Emission.building_ok.mp ran
    obtain ⟨kind, -, -, -, rfl, rfl⟩ := (Building.binary_ok ready₂.sound.builder.numbered).mp built
    have straight := Building.binary_straight ready₂.sound.builder built
    refine evaluates.spilled ready (grows.trans grows') (kept.trans kept') ready₂ built straight
      rfl rfl emitted fun stage covers heap machine holds => ⟨?_, ?_⟩
    · intro element done
      obtain ⟨one, read, done⟩ := bind_eq_ok.mp done
      obtain ⟨two, read', done⟩ := bind_eq_ok.mp done
      obtain ⟨_, combined, same⟩ := bind_eq_ok.mp done
      cases same
      obtain ⟨next, computes, has, has'⟩ :=
        operands_run ready alike alike' emitted₁ emitted₂ covers holds read read'
      refine ⟨?_, next, computes, effect_binary has has' combined⟩
      cases typed.symm.trans (alike.literal_dtype holds.agrees.known read)
      exact Literal.binary_dtype combined
    · intro cause failed arithmetic
      rcases error_of_bind failed with unread | ⟨one, read, failed⟩
      · rw [Host.literal_error unread] at arithmetic
        cases arithmetic
      rcases error_of_bind failed with unread | ⟨two, read', failed⟩
      · rw [Host.literal_error unread] at arithmetic
        cases arithmetic
      rcases error_of_bind failed with undefined | ⟨_, _, failed⟩
      · obtain ⟨next, computes, has, has'⟩ :=
          operands_run ready alike alike' emitted₁ emitted₂ covers holds read read'
        exact ⟨next, computes, .binary _ op first second one two has has' undefined⟩
      · cases failed

theorem compare (op : CompareOp) (alike : Alike world left left')
    (alike' : Alike world right right') :
    Realizes seeds world (Kernel.compare op left right : Host ρ Value)
      (Kernel.compare op left' right' : Emission σ Value) Alike := by
  have evaluates : (Host.compare op left right : Host ρ Value).Evaluates _ :=
    (Host.Evaluates.reading left fun first => .reading right fun second =>
      .computing (first.compare op second) fun result => .made (.bool result)).counting 1
  intro before answer after emitted ready
  rcases Emission.compare_cases emitted with
    ⟨first, second, result, known, known', done, emitted⟩ |
    ⟨first, middle, second, last, emitted₁, emitted₂, emitted⟩
  · obtain ⟨rfl, rfl⟩ := Emission.constant_ok emitted
    refine evaluates.folded ready fun heap described => ?_
    rw [alike.known ready.fits described known, alike'.known ready.fits described known']
    change (first.compare op second >>= fun result => .ok (Literal.bool result)) = _
    rw [done]
    rfl
  · obtain ⟨grows, kept, ready₁⟩ := operand_emitted ready alike emitted₁
    obtain ⟨grows', kept', ready₂⟩ := operand_emitted ready₁ alike' emitted₂
    obtain ⟨_, _, ran, -⟩ := Emission.bind_ok.mp emitted
    obtain ⟨_, built, rfl⟩ := Emission.building_ok.mp ran
    obtain ⟨kind, -, -, -, rfl, rfl⟩ :=
      (Building.compare_ok ready₂.sound.builder.numbered).mp built
    have straight := Building.compare_straight ready₂.sound.builder built
    refine evaluates.spilled ready (grows.trans grows') (kept.trans kept') ready₂ built straight
      rfl rfl emitted fun stage covers heap machine holds => ⟨?_, ?_⟩
    · intro element done
      obtain ⟨one, read, done⟩ := bind_eq_ok.mp done
      obtain ⟨two, read', done⟩ := bind_eq_ok.mp done
      obtain ⟨_, compared, same⟩ := bind_eq_ok.mp done
      cases same
      obtain ⟨next, computes, has, has'⟩ :=
        operands_run ready alike alike' emitted₁ emitted₂ covers holds read read'
      exact ⟨rfl, next, computes, effect_compare has has' compared⟩
    · intro cause failed arithmetic
      rcases error_of_bind failed with unread | ⟨one, read, failed⟩
      · rw [Host.literal_error unread] at arithmetic
        cases arithmetic
      rcases error_of_bind failed with unread | ⟨two, read', failed⟩
      · rw [Host.literal_error unread] at arithmetic
        cases arithmetic
      rcases error_of_bind failed with undefined | ⟨_, _, failed⟩
      · obtain ⟨next, computes, has, has'⟩ :=
          operands_run ready alike alike' emitted₁ emitted₂ covers holds read read'
        exact ⟨next, computes, .compare _ op first second one two has has' undefined⟩
      · cases failed

theorem unary (op : UnaryOp) (alike : Alike world left left') :
    Realizes seeds world (Kernel.unary op left : Host ρ Value)
      (Kernel.unary op left' : Emission σ Value) Alike := by
  have evaluates : (Host.unary op left : Host ρ Value).Evaluates _ :=
    (Host.Evaluates.reading left fun element => .computing (element.unary op) .made).counting 1
  intro before answer after emitted ready
  rcases Emission.unary_cases emitted with ⟨element, result, known, done, emitted⟩ |
    ⟨dtype, operand, middle, typed, emitted₁, emitted⟩
  · obtain ⟨rfl, rfl⟩ := Emission.constant_ok emitted
    refine evaluates.folded ready fun heap described => ?_
    rw [alike.known ready.fits described known]
    exact congrArg (· >>= _) done
  · obtain ⟨grows, kept, ready₁⟩ := operand_emitted ready alike emitted₁
    obtain ⟨_, _, ran, -⟩ := Emission.bind_ok.mp emitted
    obtain ⟨_, built, rfl⟩ := Emission.building_ok.mp ran
    obtain ⟨kind, -, -, rfl, rfl⟩ := (Building.unary_ok ready₁.sound.builder.numbered).mp built
    have straight := Building.unary_straight ready₁.sound.builder built
    refine evaluates.spilled ready grows kept ready₁ built straight rfl rfl emitted
      fun stage covers heap machine holds => ⟨?_, ?_⟩
    · intro element done
      obtain ⟨one, read, done⟩ := bind_eq_ok.mp done
      obtain ⟨_, computed, same⟩ := bind_eq_ok.mp done
      cases same
      obtain ⟨next, computes, has, -⟩ :=
        Stage.operand_runs emitted₁ ready alike covers holds read
      refine ⟨?_, next, computes, effect_unary has computed⟩
      cases typed.symm.trans (alike.literal_dtype holds.agrees.known read)
      exact Literal.unary_dtype computed
    · intro cause failed arithmetic
      rcases error_of_bind failed with unread | ⟨one, read, failed⟩
      · rw [Host.literal_error unread] at arithmetic
        cases arithmetic
      rcases error_of_bind failed with undefined | ⟨_, _, failed⟩
      · obtain ⟨next, computes, has, -⟩ :=
          Stage.operand_runs emitted₁ ready alike covers holds read
        exact ⟨next, computes, .unary _ op operand one has undefined⟩
      · cases failed

theorem cast (dtype : DType) (alike : Alike world left left') :
    Realizes seeds world (Kernel.cast left dtype : Host ρ Value)
      (Kernel.cast left' dtype : Emission σ Value) Alike := by
  have evaluates : (Host.cast left dtype : Host ρ Value).Evaluates _ :=
    Host.Evaluates.reading left fun element => .made (element.cast dtype)
  intro before answer after emitted ready
  rcases Emission.cast_cases emitted with ⟨element, known, emitted⟩ |
    ⟨operand, middle, emitted₁, emitted⟩
  · obtain ⟨rfl, rfl⟩ := Emission.constant_ok emitted
    refine evaluates.folded ready fun heap described => ?_
    rw [alike.known ready.fits described known]
    rfl
  · obtain ⟨grows, kept, ready₁⟩ := operand_emitted ready alike emitted₁
    obtain ⟨_, _, ran, -⟩ := Emission.bind_ok.mp emitted
    obtain ⟨_, built, rfl⟩ := Emission.building_ok.mp ran
    obtain ⟨-, -, rfl, rfl⟩ := (Building.cast_ok ready₁.sound.builder.numbered).mp built
    have straight := Building.cast_straight ready₁.sound.builder built
    refine evaluates.spilled ready grows kept ready₁ built straight rfl rfl emitted
      fun stage covers heap machine holds => ⟨?_, ?_⟩
    · intro element done
      obtain ⟨one, read, same⟩ := bind_eq_ok.mp done
      cases same
      obtain ⟨next, computes, has, -⟩ :=
        Stage.operand_runs emitted₁ ready alike covers holds read
      exact ⟨Literal.dtype_cast one dtype, next, computes, effect_cast has⟩
    · intro cause failed arithmetic
      rcases error_of_bind failed with unread | ⟨one, read, failed⟩
      · rw [Host.literal_error unread] at arithmetic
        cases arithmetic
      · cases failed

end Realizes

end TensorGraph

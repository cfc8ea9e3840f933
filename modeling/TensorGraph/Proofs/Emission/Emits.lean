/-
The primitives grow.

Every primitive lets the function grow, whatever its operands are.  The host
storages that it may name are those of its operands.
-/

import TensorGraph.Proofs.Emission.Growth

namespace TensorGraph

open Code FunctionBuilder

/-- The value lives in the host storage. -/
def Value.InHost (value : Value) (storage : Nat) : Prop :=
  ∃ base, value.place = .host storage base

namespace EmissionState

variable {ρ : Type} {state : EmissionState ρ}

/-- The state after a global was declared and before it is remembered. -/
theorem Grows.declaring (sound : state.Sound) (hint : String) (data : Storage)
    (isMutable : Bool) :
    state.Grows (state.onBuilder (state.builder.declaring hint data isMutable)) := by
  have line := Straight.declare sound.builder sound.opened hint data isMutable
  exact .onBuilder sound line.steps line.balanced line.states

theorem Sound.mem_declaring (sound : state.Sound) (hint : String) (data : Storage)
    (isMutable : Bool) :
    { name := state.builder.nextName hint
      data := data
      isMutable := isMutable : Global } ∈
        (state.builder.declaring hint data isMutable).globals :=
  (mem_insertGlobal (sound.builder.nextName_fresh hint)).mpr (.inl rfl)

/-- The state that remembers a global for a host storage. -/
def remembering (state : EmissionState ρ) (storage : Nat) (name : String) : EmissionState ρ :=
  { state with constants := (storage, name) :: state.constants }

theorem Grows.remembering (sound : state.Sound) {global : Global}
    (listed : global ∈ state.builder.globals) (fixed : global.isMutable = false) (storage : Nat) :
    state.Grows (state.remembering storage global.name) := by
  refine ⟨⟨sound.builder, sound.opened, ?_, sound.states, sound.zeros, sound.once, sound.apart,
    sound.noted, sound.images⟩, .refl, .refl sound.builder sound.opened,
    fun _ member => List.mem_cons_of_mem _ member, fun _ member => member, rfl⟩
  intro other name member
  rcases List.mem_cons.mp member with new | old
  · cases new
    exact ⟨global, listed, rfl, fixed⟩
  · exact sound.constants other name old

theorem Keeps.remembering (faithful : state.Faithful) {storage : Nat} {name : String}
    (known : storage < state.heap.next)
    (held : { name := name
              data := state.heap.storage storage
              isMutable := false : Global } ∈ state.builder.globals) :
    state.Keeps (state.remembering storage name) := by
  refine ⟨.refl _, ?_, faithful.states⟩
  intro other name member
  rcases List.mem_cons.mp member with new | old
  · cases new
    exact ⟨known, held⟩
  · exact faithful.constants other name old

/-- The state that remembers a global for zeros. -/
def clearing (state : EmissionState ρ) (dtype : DType) (count : Nat) (name : String) :
    EmissionState ρ :=
  { state with zeros := ((dtype, count), name) :: state.zeros }

theorem Grows.clearing (sound : state.Sound) {dtype : DType} {count : Nat} {name : String}
    (listed : { name := name
                data := Storage.zeros dtype count
                isMutable := false : Global } ∈ state.builder.globals) :
    state.Grows (state.clearing dtype count name) := by
  refine ⟨⟨sound.builder, sound.opened, sound.constants, sound.states, ?_, sound.once, sound.apart,
    sound.noted, sound.images⟩, .refl, .refl sound.builder sound.opened,
    fun _ member => member, fun _ member => member, rfl⟩
  intro dtype' count' name' member
  rcases List.mem_cons.mp member with new | old
  · cases new
    exact listed
  · exact sound.zeros dtype' count' name' old

/-- The function once it has taken over a state and the image to reset it to. -/
def taken (builder : FunctionBuilder) (hint : String) (data : Storage) : FunctionBuilder :=
  { (builder.declaring hint data true).declaring (hint ++ ".reset") data.cleared false with
    states := builder.states ++
      [{ state := builder.nextName hint
         image := (builder.declaring hint data true).nextName (hint ++ ".reset")
         bytes := data.size * data.dtype.width }] }

/-- The state once the code has taken over a host storage. -/
def taking (state : EmissionState ρ) (hint : String) (storage : Nat) : EmissionState ρ :=
  { state with
    builder := taken state.builder hint (state.heap.storage storage)
    states := (storage, state.builder.nextName hint) :: state.states }

theorem steps_taken (builder : FunctionBuilder) (hint : String) (data : Storage) :
    Steps builder (taken builder hint data) :=
  ((Relation.ReflTransGen.single (Step.declare builder hint data true)).tail
    (Step.declare _ (hint ++ ".reset") data.cleared false)).tail (Step.note _ _)

theorem mem_taken {builder : FunctionBuilder} (formed : builder.Formed) (hint : String)
    (data : Storage) {global : Global} :
    global ∈ (taken builder hint data).globals ↔
      global = { name := (builder.declaring hint data true).nextName (hint ++ ".reset")
                 data := data.cleared
                 isMutable := false } ∨
      global = { name := builder.nextName hint
                 data := data
                 isMutable := true } ∨ global ∈ builder.globals := by
  have declared := formed.declaring hint data true
  change global ∈ insertGlobal _ (insertGlobal _ builder.globals) ↔ _
  rw [mem_insertGlobal (declared.nextName_fresh (hint ++ ".reset")),
    mem_insertGlobal (formed.nextName_fresh hint)]

theorem Grows.taking (sound : state.Sound) (hint : String) {storage : Nat}
    (unknown : state.states.lookup storage = none) : state.Grows (state.taking hint storage) := by
  have steps := steps_taken state.builder hint (state.heap.storage storage)
  have formed := Steps.formed steps sound.builder
  have mem := fun global => @mem_taken state.builder sound.builder hint
    (state.heap.storage storage) global
  have older : ∀ global ∈ state.builder.globals, global ∈ (state.taking hint storage).builder.globals :=
    fun global listed => (mem global).mpr (.inr (.inr listed))
  refine ⟨⟨formed, sound.opened, ?constants, ?states, ?zeros, ?once, ?apart, ?noted, ?images⟩, steps,
    .straight formed sound.opened rfl rfl fun _ _ => rfl, fun _ member => member,
    fun _ member => List.mem_cons_of_mem _ member, rfl⟩
  case constants =>
    intro other name member
    obtain ⟨global, listed, described⟩ := sound.constants other name member
    exact ⟨global, older global listed, described⟩
  case states =>
    intro other name member
    rcases List.mem_cons.mp member with new | old
    · cases new
      exact ⟨_, (mem _).mpr (.inr (.inl rfl)), rfl, rfl⟩
    · obtain ⟨global, listed, described⟩ := sound.states other name old
      exact ⟨global, older global listed, described⟩
  case zeros =>
    intro dtype count name member
    exact older _ (sound.zeros dtype count name member)
  case once =>
    refine List.nodup_cons.mpr ⟨?_, sound.once⟩
    intro member
    obtain ⟨entry, listed, same⟩ := List.mem_map.mp member
    have different := List.lookup_eq_none_iff.mp unknown entry listed
    simp [same] at different
  case apart =>
    refine List.nodup_cons.mpr ⟨?_, sound.apart⟩
    intro member
    obtain ⟨⟨other, name⟩, listed, same⟩ := List.mem_map.mp member
    obtain ⟨global, declared, named, _⟩ := sound.states other name listed
    refine sound.builder.nextName_fresh hint (List.mem_map.mpr ⟨global, declared, ?_⟩)
    rw [named]
    exact same
  case noted =>
    change (state.builder.states ++ [_]).map StateGlobal.state = _
    rw [List.map_append, sound.noted]
    exact (List.reverse_cons ..).symm
  case images =>
    intro entry member
    rcases List.mem_append.mp member with old | new
    · obtain ⟨data, held, image, bytes⟩ := sound.images entry old
      exact ⟨data, older _ held, older _ image, bytes⟩
    · cases List.mem_singleton.mp new
      exact ⟨state.heap.storage storage, (mem _).mpr (.inr (.inl rfl)), (mem _).mpr (.inl rfl),
        rfl⟩

theorem Keeps.taking (sound : state.Sound) (faithful : state.Faithful) (hint : String)
    {storage : Nat} (known : storage < state.heap.next) :
    state.Keeps (state.taking hint storage) := by
  have mem := fun global => @mem_taken state.builder sound.builder hint
    (state.heap.storage storage) global
  refine ⟨.refl _, ?_, ?_⟩
  · intro other name member
    obtain ⟨below, held⟩ := faithful.constants other name member
    exact ⟨below, (mem _).mpr (.inr (.inr held))⟩
  · intro other name member
    rcases List.mem_cons.mp member with new | old
    · cases new
      exact ⟨known, (mem _).mpr (.inr (.inl rfl))⟩
    · obtain ⟨below, held⟩ := faithful.states other name old
      exact ⟨below, (mem _).mpr (.inr (.inr held))⟩

end EmissionState

namespace Emission

variable {ρ α β : Type} {among : Nat → Prop}

/-! ### Operands -/

theorem globalAddress_emits (name : String) :
    Emits among (building (Building.globalAddress name) : Emission ρ _) :=
  .building fun formed opened built => Building.globalAddress_straight formed opened built

theorem offset_emits' (base : Register) (index : Operand) :
    Emits among (building (Building.offset base index) : Emission ρ _) :=
  .building fun formed opened built => Building.offset_straight formed opened built

theorem embed_emits (storage : Nat) : Emits (· = storage) (embed storage : Emission ρ _) := by
  intro state answer after done sound
  obtain ⟨_, _, looked, done⟩ := bind_ok.mp done
  obtain ⟨rfl, rfl⟩ := state_ok.mp looked
  cases asState : state.states.lookup storage with
  | some name =>
      rw [asState] at done
      exact globalAddress_emits name state answer after done sound
  | none =>
      rw [asState] at done
      cases asConstant : state.constants.lookup storage with
      | some name =>
          rw [asConstant] at done
          exact globalAddress_emits name state answer after done sound
      | none =>
          rw [asConstant] at done
          obtain ⟨name, middle, declared, done⟩ := bind_ok.mp done
          obtain ⟨_, remembered, changed, done⟩ := bind_ok.mp done
          obtain ⟨builder, built, rfl⟩ := building_ok.mp declared
          obtain ⟨rfl, rfl⟩ := Building.global_ok.mp built
          cases change_ok.mp changed
          have grows := EmissionState.Grows.declaring sound "const" (state.heap.storage storage)
            false
          have listed := sound.mem_declaring "const" (state.heap.storage storage) false
          have grows' := EmissionState.Grows.remembering grows.sound listed rfl storage
          obtain ⟨last, keeps⟩ := globalAddress_emits _ _ answer after done grows'.sound
          refine ⟨(grows.trans grows').trans last, fun known faithful => ?_⟩
          have kept := EmissionState.Keeps.onBuilder sound faithful grows.steps
          have kept' := EmissionState.Keeps.remembering kept.faithful (known storage rfl) listed
          exact (kept.trans kept').trans (keeps known kept'.faithful)

theorem pointer_emits (value : Value) : Emits value.InHost (pointer value : Emission ρ _) := by
  unfold pointer
  cases place : value.place with
  | emitted register => exact .pure register
  | unbound => exact .fail _
  | host storage base =>
      refine .bind ((embed_emits storage).weaken ?_) fun address => offset_emits' address _
      rintro _ rfl
      exact ⟨base, place⟩

theorem writablePointer_emits (value : Value) :
    Emits among (writablePointer value : Emission ρ _) := by
  unfold writablePointer
  cases value.place with
  | emitted register => exact .pure register
  | unbound => exact .fail _
  | host storage base => exact .fail _

theorem operand_emits (value : Value) : Emits value.InHost (operand value : Emission ρ _) := by
  refine .bind (.known value) fun literal? => ?_
  cases literal? with
  | some literal => exact .pure _
  | none =>
      refine .bind (pointer_emits value) fun address => ?_
      refine .bind (.building fun formed opened built => Building.load_straight formed built) ?_
      exact fun register => .pure _

theorem spill_emits (dtype : DType) (register : Register) :
    Emits among (spill dtype register : Emission ρ _) := by
  refine .bind (.building fun formed opened built =>
    Building.alloca_straight formed opened built) fun slot => ?_
  refine .bind (.building fun formed opened built => Building.store_straight formed built) ?_
  exact fun _ => .pure _

theorem indexOperand_emits (scalar : Scalar) :
    Emits scalar.value.InHost (indexOperand scalar : Emission ρ _) := by
  refine .bind (operand_emits scalar.value) fun operand => ?_
  split
  · exact .pure _
  · dsimp only
    split
    · exact .failing _ _
    · exact .bind (.building fun formed opened built => Building.cast_straight formed built)
        fun _ => .pure _

/-! ### Memory -/

theorem clear_emits (address : Register) (dtype : DType) (count : Nat) :
    Emits among (clear address dtype count : Emission ρ _) := by
  have moved : ∀ name, Emits among (do
      let source ← building (Building.globalAddress name)
      building (Building.move address source (count * dtype.width)) : Emission ρ Unit) :=
    fun name => .bind (globalAddress_emits name) fun source =>
      .building fun formed opened built => Building.move_straight formed built
  intro state answer after done sound
  obtain ⟨_, _, looked, done⟩ := bind_ok.mp done
  obtain ⟨rfl, rfl⟩ := state_ok.mp looked
  cases cached : state.zeros.lookup (dtype, count) with
  | some known =>
      rw [cached] at done
      exact moved known state answer after done sound
  | none =>
      rw [cached] at done
      obtain ⟨fresh, _, declared, done⟩ := bind_ok.mp done
      obtain ⟨_, _, changed, done⟩ := bind_ok.mp done
      obtain ⟨builder, built, rfl⟩ := building_ok.mp declared
      obtain ⟨rfl, rfl⟩ := Building.global_ok.mp built
      cases change_ok.mp changed
      have grows := EmissionState.Grows.declaring sound "zeros" (Storage.zeros dtype count) false
      have listed := sound.mem_declaring "zeros" (Storage.zeros dtype count) false
      have grows' := EmissionState.Grows.clearing grows.sound listed
      obtain ⟨last, keeps⟩ := moved _ _ answer after done grows'.sound
      refine ⟨(grows.trans grows').trans last, fun known faithful => ?_⟩
      have kept := EmissionState.Keeps.onBuilder sound faithful grows.steps
      have same := keeps known ⟨kept.faithful.constants, kept.faithful.states⟩
      exact ⟨kept.heap.trans same.heap, same.faithful⟩

theorem allocate_emits (dtype : DType) (layout : Layout) :
    Emits among (allocate dtype layout : Emission ρ _) := by
  refine .bind (.building fun formed opened built =>
    Building.alloca_straight formed opened built) fun address => ?_
  refine .bind .current fun current => ?_
  dsimp only
  split
  · exact .bind (clear_emits address dtype layout.memorySize) fun _ => .pure _
  · exact .pure _

theorem takeState_emits (hint : String) (value : Value) :
    Emits value.InHost (takeState hint value : Emission ρ _) := by
  refine .bind (.ofExcept _) fun layout => .bind (.ofExcept _) fun dtype => ?_
  cases place : value.place with
  | unbound => exact .fail _
  | emitted register => exact .fail _
  | host storage base =>
      have placed : ∀ name, Emits value.InHost (do
          let address ← building (Building.globalAddress name)
          let place ← building (Building.offset address (index base))
          return Value.emitted dtype place (some layout) : Emission ρ Value) := fun name =>
        .bind (globalAddress_emits name) fun address =>
          .bind (offset_emits' address _) fun place => .pure _
      intro state answer after done sound
      obtain ⟨_, _, looked, done⟩ := bind_ok.mp done
      obtain ⟨rfl, rfl⟩ := state_ok.mp looked
      cases cached : state.states.lookup storage with
      | some known =>
          rw [cached] at done
          exact placed known state answer after done sound
      | none =>
          rw [cached] at done
          obtain ⟨fresh, _, declared, done⟩ := bind_ok.mp done
          obtain ⟨_, _, changed, done⟩ := bind_ok.mp done
          obtain ⟨builder, built, rfl⟩ := building_ok.mp declared
          obtain ⟨rfl, states, rfl, rfl⟩ := Building.stateGlobal_ok.mp built
          cases change_ok.mp changed
          have grows := EmissionState.Grows.taking sound hint cached
          obtain ⟨last, keeps⟩ := placed _ _ answer after done grows.sound
          refine ⟨grows.trans last, fun known faithful => ?_⟩
          have kept := EmissionState.Keeps.taking sound faithful hint (known storage ⟨base, place⟩)
          exact kept.trans (keeps known kept.faithful)

theorem knownIndices_emits (indices : List Scalar) :
    Emits among (knownIndices indices : Emission ρ _) := by
  induction indices with
  | nil => exact .pure _
  | cons scalar rest inductionHypothesis =>
      exact .bind (.known _) fun literal? => .bind inductionHypothesis fun _ => .pure _

/-- A value among the operands of a kernel names only storages of theirs. -/
theorem inHost_of_mem {indices : List Scalar} {scalar : Scalar} (member : scalar ∈ indices)
    (storage : Nat) (inside : scalar.value.InHost storage) :
    ∃ index ∈ indices, index.value.InHost storage :=
  ⟨scalar, member, inside⟩

theorem address_emits (indices : List Scalar) (positions : List (Option Int)) (axes : List Axis)
    (computed : Option Operand) (fixed : Int) :
    Emits (fun storage => ∃ index ∈ indices, index.value.InHost storage)
      (address indices positions axes computed fixed : Emission ρ _) := by
  induction axes generalizing computed fixed with
  | nil => exact .pure _
  | cons axis rest inductionHypothesis =>
      simp only [address]
      split
      case h_1 position _ => exact inductionHypothesis _ _
      case h_2 => exact inductionHypothesis _ _
      case h_3 scalar unknown found =>
        refine .bind ((indexOperand_emits scalar).weaken
          (inHost_of_mem (List.mem_of_getElem? found))) fun factor => ?_
        have arithmetic : ∀ op (left right : Operand),
            Emits (fun storage => ∃ index ∈ indices, index.value.InHost storage)
              (Operand.register <$> building (Building.binary op left right) :
                Emission ρ Operand) := fun op left right =>
          .map _ (.building fun formed opened built => Building.binary_straight formed built)
        cases computed with
        | none =>
            split
            · exact .bind (.pure _) fun _ => .bind (.pure _) fun _ => inductionHypothesis _ _
            · exact .bind (arithmetic _ _ _) fun _ => .bind (.pure _) fun _ =>
                inductionHypothesis _ _
        | some sum =>
            split
            · exact .bind (.pure _) fun _ => .bind (arithmetic _ _ _) fun _ =>
                inductionHypothesis _ _
            · exact .bind (arithmetic _ _ _) fun _ => .bind (arithmetic _ _ _) fun _ =>
                inductionHypothesis _ _

/-- A value at a place behind the base of another. -/
private theorem placed_emits (value : Value) (index : Operand) :
    Emits value.InHost (do
      let base ← pointer value
      let place ← building (Building.offset base index)
      return Value.emitted (← ofExcept value.dtype) place none : Emission ρ Value) :=
  .bind (pointer_emits value) fun base => .bind (offset_emits' base index) fun _ =>
    .bind (.ofExcept _) fun _ => .pure _

theorem offset_emits (value : Value) (indices : List Scalar) :
    Emits (fun storage => value.InHost storage ∨ ∃ index ∈ indices, index.value.InHost storage)
      (offset value indices : Emission ρ _) := by
  have placed : ∀ index, Emits
      (fun storage => value.InHost storage ∨ ∃ index ∈ indices, index.value.InHost storage) (do
        let base ← pointer value
        let place ← building (Building.offset base index)
        return Value.emitted (← ofExcept value.dtype) place none : Emission ρ Value) :=
    fun index => (placed_emits value index).weaken fun _ => .inl
  have addressed : ∀ (positions : List (Option Int)) (layout : Layout),
      Emits (fun storage => value.InHost storage ∨ ∃ index ∈ indices, index.value.InHost storage)
        (if positions.all Option.isSome = true then do
          let position ← ofExcept
            (layout.flatOffset ((positions.filterMap id).map Int.toNat))
          if value.isHost = true then
            onHeap (do Action.ofExcept (value.advanced position (← get)))
          else do
            let base ← pointer value
            let place ← building (Building.offset base (index position))
            return Value.emitted (← ofExcept value.dtype) place none
        else do
          let sum ← address indices positions layout.axes none 0
          let total ←
            if sum.2 = 0 then
              pure (sum.1.getD (index 0))
            else
              .register <$> building (Building.binary .add (sum.1.getD (index 0))
                (.constant (.i64 (Int64.ofInt sum.2))))
          let base ← pointer value
          let place ← building (Building.offset base total)
          return Value.emitted (← ofExcept value.dtype) place none : Emission ρ Value) := by
    intro positions layout
    split
    · refine .bind (.ofExcept _) fun position => ?_
      split
      · refine .onHeap ?_
        intro heap answer after done
        obtain ⟨_, _, looked, done⟩ := Action.bind_ok.mp done
        obtain ⟨rfl, rfl⟩ := Action.get_ok.mp looked
        cases (Action.ofExcept_ok.mp done).2
        exact .refl _
      · exact placed _
    · refine .bind ((address_emits indices positions layout.axes none 0).weaken fun _ => .inr)
        fun sum => ?_
      dsimp only
      split
      · exact .bind (.pure _) fun total => placed total
      · exact .bind (.map _ (.building fun formed opened built =>
          Building.binary_straight formed built)) fun total => placed total
  refine .bind (.ofExcept _) fun layout => ?_
  dsimp only
  split
  · exact .failing _ _
  · refine .bind (knownIndices_emits _) fun positions => ?_
    split
    · exact .failing _ _
    · exact addressed positions layout

theorem checkTypes_emits (target source : Value) :
    Emits among (checkTypes target source : Emission ρ _) := by
  refine .bind (.ofExcept _) fun targetType => .bind (.ofExcept _) fun sourceType => ?_
  dsimp only
  split
  · exact .failing _ _
  · exact .pure _

theorem store_emits (target source : Value) :
    Emits source.InHost (store target source : Emission ρ _) := by
  refine .bind (checkTypes_emits target source) fun _ => .bind (writablePointer_emits target)
    fun place => .bind (operand_emits source) fun element => ?_
  exact .building fun formed opened built => Building.store_straight formed built

theorem move_emits (target : Value) (targetOffset : Nat) (source : Value)
    (sourceOffset count : Nat) :
    Emits source.InHost (move target targetOffset source sourceOffset count : Emission ρ _) := by
  refine .bind (checkTypes_emits target source) fun dtype => ?_
  split
  · exact .pure _
  · refine .bind (writablePointer_emits target) fun targetBase =>
      .bind (offset_emits' _ _) fun targetPlace => .bind (pointer_emits source) fun sourceBase =>
        .bind (offset_emits' _ _) fun sourcePlace => ?_
    exact .building fun formed opened built => Building.move_straight formed built

/-! ### Arithmetic -/

theorem grows_ofLiteral (literal : Literal) (heap : Heap) (answer : Value) (after : Heap)
    (done : Value.ofLiteral literal heap = .ok answer after) : heap.Grows after := by
  cases done
  exact .add heap _

theorem constant_emits (literal : Literal) : Emits among (constant literal : Emission ρ _) :=
  .onHeap (grows_ofLiteral literal)

theorem binary_emits (op : BinaryOp) (left right : Value) :
    Emits (fun storage => left.InHost storage ∨ right.InHost storage)
      (binary op left right : Emission ρ _) := by
  have computed : Emits (fun storage => left.InHost storage ∨ right.InHost storage) (do
      let dtype ← ofExcept left.dtype
      let first ← operand left
      let second ← operand right
      spill dtype (← building (Building.binary op first second)) : Emission ρ Value) :=
    .bind (.ofExcept _) fun dtype =>
      .bind ((operand_emits left).weaken fun _ => .inl) fun first =>
        .bind ((operand_emits right).weaken fun _ => .inr) fun second =>
          .bind (.building fun formed opened built => Building.binary_straight formed built)
            fun register => spill_emits dtype register
  refine .bind (.known left) fun left? => .bind (.known right) fun right? => ?_
  split
  case h_1 first second =>
    cases (first.binary op second).toOption with
    | some result => exact constant_emits result
    | none => exact computed
  case h_2 => exact computed

theorem unary_emits (op : UnaryOp) (value : Value) :
    Emits value.InHost (unary op value : Emission ρ _) := by
  refine .bind (.known value) fun value? => ?_
  cases value? with
  | some literal => exact .bind (.ofExcept _) fun result => constant_emits result
  | none =>
      exact .bind (.ofExcept _) fun dtype => .bind (operand_emits value) fun element =>
        .bind (.building fun formed opened built => Building.unary_straight formed built)
          fun register => spill_emits dtype register

theorem compare_emits (op : CompareOp) (left right : Value) :
    Emits (fun storage => left.InHost storage ∨ right.InHost storage)
      (compare op left right : Emission ρ _) := by
  refine .bind (.known left) fun left? => .bind (.known right) fun right? => ?_
  split
  · exact .bind (.ofExcept _) fun result => constant_emits _
  · exact .bind ((operand_emits left).weaken fun _ => .inl) fun first =>
      .bind ((operand_emits right).weaken fun _ => .inr) fun second =>
        .bind (.building fun formed opened built => Building.compare_straight formed built)
          fun register => spill_emits .bool register

theorem cast_emits (value : Value) (dtype : DType) :
    Emits value.InHost (cast value dtype : Emission ρ _) := by
  refine .bind (.known value) fun value? => ?_
  cases value? with
  | some literal => exact constant_emits _
  | none =>
      exact .bind (operand_emits value) fun element =>
        .bind (.building fun formed opened built => Building.cast_straight formed built)
          fun register => spill_emits dtype register

end Emission
end TensorGraph

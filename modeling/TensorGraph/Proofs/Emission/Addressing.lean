/-
Addresses in emitted code.

While code is emitted some indices are known and others are not.  The emission
adds up what is known and writes code for the rest: an index is loaded and
converted, multiplied by the distance between neighbours, and added to the sum.
Whatever is known, the place that comes out is the one that the layout gives for
the coordinates, and the one that the host advances to.
-/

import TensorGraph.Proofs.Emission.Operands
import TensorGraph.Proofs.Kernel.Addressing

namespace TensorGraph

open Code FunctionBuilder Machine
open Optimize (targets)

/-! ### Finished functions -/

namespace Stage

variable {stage : Stage} {builder after : FunctionBuilder} {code : List Instruction}
  {machine : State} {memory : Memory} {holds : State → Prop}

/-- A frame of the finished function suits whatever the function grew from. -/
theorem Holds.suits {frame : Machine.Frame} (held : stage.Holds frame.registers memory)
    (same : frame.function = stage.function) (formed : builder.Formed)
    (covers : builder.Grows stage.builder) : frame.Suits stage.module builder where
  types := by
    rw [same]
    exact covers.types
  room := by
    rw [held.size]
    exact covers.size_le
  addresses := by
    intro name register member
    obtain ⟨more, prologue, _⟩ := covers.prologue
    have prepared : .address register name ∈ stage.builder.prologue := by
      rw [prologue]
      exact List.mem_append_left _ (formed.addressed name register member)
    obtain ⟨index, global, _, _, found, listed, has, typed⟩ := held.prepared prepared
    rw [same]
    exact ⟨index, global, found, listed, typed, has⟩

/-- Registers that written code defines are not set up by the prologue. -/
theorem apart_of_writes {id : BlockId} {block : Block} (written : after.blockAt id =
      some { block with instructions := block.instructions ++ code })
    (covers : after.Grows stage.builder) {register : Register}
    (prepared : register ∈ targets stage.builder.prologue) : register ∉ targets code := by
  obtain ⟨later, found, extended⟩ := covers.blocks _ _ written
  obtain ⟨more, instructions, _⟩ := extended.instructions
  intro defined
  obtain ⟨instruction, inside, defines⟩ := List.mem_filterMap.mp defined
  have member : instruction ∈ stage.builder.function.instructions := by
    refine List.mem_flatMap.mpr ⟨later, List.mem_of_getElem? found, ?_⟩
    rw [instructions]
    exact List.mem_append_left _ (List.mem_append_right _ inside)
  exact (List.nodup_append.mp stage.formed.single).2.2 register prepared register
    (List.mem_filterMap.mpr ⟨instruction, member, defines⟩) rfl

/-- What the code achieves that was written is achieved when the finished function runs. -/
theorem Follows.achieves (follows : stage.Follows builder machine)
    (writes : builder.Writes code after) (formed : after.Formed)
    (covers : after.Grows stage.builder) (held : stage.Holds machine.frame.registers memory)
    (achieves : Achieves stage.module after code machine holds) :
    ∃ next, stage.Runs builder after machine next ∧ next.memory = machine.memory ∧ holds next := by
  obtain ⟨block, found, here, done⟩ := follows.reached
  have written : after.blockAt builder.current =
      some { block with instructions := block.instructions ++ code } := by
    rw [writes.blocks, found, Option.map_some, if_pos rfl]
  obtain ⟨rest, waiting⟩ := follows.pending covers fun block' found' => by
    cases found.symm.trans found'
    exact ⟨written, rfl⟩
  obtain ⟨next, ran, answer⟩ :=
    achieves rest waiting (held.suits follows.function formed covers)
  refine ⟨next, ⟨ran.reaches, ⟨?_, ?_, ?_⟩, ?_, ran.room⟩, ran.memory, answer⟩
  · rw [ran.function, follows.function]
  · rw [ran.callers, follows.alone]
  · refine ⟨_, writes.current ▸ written, ?_, ?_⟩
    · rw [writes.current, ran.block, here]
    · rw [writes.current, ran.block, done, waiting, ran.pending, List.append_assoc,
        List.append_assoc, List.append_assoc]
  · rintro register (earlier | prepared)
    · exact ran.kept register (writes.old earlier)
    · exact ran.kept register (apart_of_writes written covers prepared)

end Stage

/-! ### Indices -/

namespace Literal

variable {element : Literal}

theorem eq_of_dtype_i64 (whole : element.dtype = .i64) : element = .i64 element.toInt64 := by
  cases element <;> cases whole
  rfl

/-- Every integer is one of sixty-four bits. -/
theorem cast_i64 (integer : element.dtype.isInteger = true) :
    element.cast .i64 = .i64 element.toInt64 := by
  cases element <;> first | rfl | cases integer

end Literal

namespace Emission

variable {ρ : Type} {state after : EmissionState ρ} {value : Value}

/-- When the code runs, the scalar is an integer in memory that counts so far. -/
def Counts (builder : FunctionBuilder) (machine : State) (scalar : Scalar) (number : Nat) : Prop :=
  ∃ (register : Register) (pointer : Pointer) (element : Literal),
    scalar.value.place = .emitted register ∧ builder.pointeeType register = .ok scalar.dtype ∧
    machine.frame.Has register (.pointer pointer) ∧ element.dtype = scalar.dtype ∧
    machine.memory.read pointer element.dtype.width = .ok element.bytes ∧
    element.toInt64.toInt = number

theorem Counts.mono {builder later : FunctionBuilder} {machine next : State} {scalar : Scalar}
    {number : Nat} {module : Module} {code rest : List Instruction}
    (counts : Counts builder machine scalar number) (writes : builder.Writes code later)
    (ran : Performs module code rest machine next) : Counts later next scalar number := by
  obtain ⟨register, pointer, element, place, typed, has, dtype, read, same⟩ := counts
  refine ⟨register, pointer, element, place, writes.pointee typed, ?_, dtype, ?_, same⟩
  · exact ran.has has (writes.old (below_of_pointee typed))
  · rw [ran.memory]
    exact read

/-- An integer of sixty-four bits is an element of its own, and others are converted. -/
theorem indexOperand_achieves (regular : state.builder.Regular) {scalar : Scalar}
    {operand : Operand}
    (done : (indexOperand scalar : Emission ρ Operand) state = .ok operand after) :
    ∃ code, state.builder.Writes code after.builder ∧ Stage.Reads after.builder operand ∧
      ∀ module machine number, Counts state.builder machine scalar number →
        Achieves module after.builder code machine
          fun next => next.frame.element operand = .ok (.i64 (Int64.ofNat number)) := by
  obtain ⟨loaded, middle, read, done⟩ := bind_ok.mp done
  obtain ⟨code, writes, reads, achieves⟩ := operand_achieves regular read
  -- What is loaded, as an integer of sixty-four bits.
  have loads : ∀ module machine number, Counts state.builder machine scalar number →
      ∃ element : Literal, element.dtype = scalar.dtype ∧ element.toInt64 = Int64.ofNat number ∧
        Achieves module middle.builder code machine
          fun next => next.frame.element loaded = .ok element := by
    rintro module machine number ⟨register, pointer, element, place, typed, has, dtype, held, same⟩
    rw [← dtype] at typed
    refine ⟨element, dtype, ?_,
      achieves module machine register pointer element place typed has held⟩
    rw [← Int64.ofInt_toInt element.toInt64, same, Int64.ofInt_eq_ofNat]
  dsimp only at done
  split at done
  case isTrue whole =>
    obtain ⟨rfl, rfl⟩ := pure_ok.mp done
    refine ⟨code, writes, reads, ?_⟩
    intro module machine number counts
    obtain ⟨element, dtype, same, achieves⟩ := loads module machine number counts
    rw [← same, ← Literal.eq_of_dtype_i64 (dtype.trans whole)]
    exact achieves
  case isFalse other =>
    split at done
    case isTrue =>
      obtain ⟨_, _, failed, _⟩ := bind_ok.mp done
      exact (fail_ok failed).elim
    case isFalse integer =>
      obtain ⟨register, _, converted, done⟩ := bind_ok.mp done
      obtain ⟨builder, built, rfl⟩ := building_ok.mp converted
      obtain ⟨rfl, rfl⟩ := pure_ok.mp done
      obtain ⟨code', writes', below, achieves'⟩ := Building.cast_achieves writes.numbered built
      refine ⟨code ++ code', writes.trans writes', ?_, ?_⟩
      · rintro _ ⟨⟩
        exact below
      intro module machine number counts
      obtain ⟨element, dtype, same, achieves⟩ := loads module machine number counts
      rw [← same, ← Literal.cast_i64 (by simpa [dtype] using integer)]
      refine .seq regular writes writes' achieves fun rest next ran answer => ?_
      exact (achieves' module next element answer).mono fun _ => Frame.element_ok.mpr

/-! ### Sums -/

theorem arithmetic_achieves (numbered : state.builder.Numbered) {op : BinaryOp}
    {left right operand : Operand}
    (done : (Operand.register <$> building (Building.binary op left right) : Emission ρ Operand)
      state = .ok operand after) :
    ∃ code, state.builder.Writes code after.builder ∧ Stage.Reads after.builder operand ∧
      ∀ module machine first second result, machine.frame.element left = .ok first →
        machine.frame.element right = .ok second → first.binary op second = .ok result →
        Achieves module after.builder code machine
          fun next => next.frame.element operand = .ok result := by
  obtain ⟨register, computed, rfl⟩ := map_ok.mp done
  obtain ⟨builder, built, rfl⟩ := building_ok.mp computed
  obtain ⟨code, writes, below, achieves⟩ := Building.binary_achieves numbered built
  refine ⟨code, writes, ?_, ?_⟩
  · rintro _ ⟨⟩
    exact below
  intro module machine first second result read read' combined
  exact (achieves module machine first second result read read' combined).mono
    fun _ => Frame.element_ok.mpr

theorem add_i64 (first second : Int64) :
    (Literal.i64 first).binary .add (.i64 second) = .ok (.i64 (first + second)) :=
  rfl

theorem mul_i64 (first second : Int64) :
    (Literal.i64 first).binary .mul (.i64 second) = .ok (.i64 (first * second)) :=
  rfl

/-- An index times the distance between neighbours. -/
def scaled (increment : Nat) (factor : Operand) : Emission ρ Operand :=
  if increment = 1 then
    pure factor
  else
    .register <$> building (Building.binary .mul factor (index increment))

/-- One more term of a sum. -/
def summed (computed : Option Operand) (term : Operand) : Emission ρ Operand :=
  match computed with
  | none => pure term
  | some sum => .register <$> building (Building.binary .add sum term)

/-- What an axis adds whose index is not known. -/
theorem address_cons {indices : List Scalar} {positions : List (Option Int)} {axis : Axis}
    {rest : List Axis} {computed : Option Operand} {fixed : Int} {scalar : Scalar}
    (unknown : (positions[axis.logical]?).join = none)
    (given : indices[axis.logical]? = some scalar) :
    (address indices positions (axis :: rest) computed fixed :
      Emission ρ (Option Operand × Int)) =
      (do
        let factor ← indexOperand scalar
        let term ← scaled axis.increment factor
        let total ← summed computed term
        address indices positions rest (some total) (fixed + axis.offset * axis.increment)) := by
  rw [address]
  simp only [unknown, given]
  congr 1
  funext factor
  unfold scaled
  split <;> cases computed <;> rfl

/-- A factor of one takes no code. -/
theorem scaled_achieves (numbered : state.builder.Numbered) {increment : Nat}
    {factor term : Operand} (reads : Stage.Reads state.builder factor)
    (done : (scaled increment factor : Emission ρ Operand) state = .ok term after) :
    ∃ code, state.builder.Writes code after.builder ∧ Stage.Reads after.builder term ∧
      ∀ module machine number,
        machine.frame.element factor = .ok (.i64 (Int64.ofNat number)) →
        Achieves module after.builder code machine
          fun next => next.frame.element term = .ok (.i64 (Int64.ofNat (number * increment))) := by
  unfold scaled at done
  split at done
  case isTrue one =>
    obtain ⟨rfl, rfl⟩ := pure_ok.mp done
    refine ⟨[], .refl numbered, reads, ?_⟩
    intro module machine number read
    rw [one, Nat.mul_one]
    exact .none read
  case isFalse =>
    obtain ⟨code, writes, reads', achieves⟩ := arithmetic_achieves numbered done
    refine ⟨code, writes, reads', ?_⟩
    intro module machine number read
    rw [Int64.ofNat_mul]
    exact achieves module machine _ _ _ read rfl (mul_i64 _ _)

/-- The first term of a sum takes no code. -/
theorem summed_achieves (numbered : state.builder.Numbered) {computed : Option Operand}
    {term total : Operand} (reads : Stage.Reads state.builder term)
    (done : (summed computed term : Emission ρ Operand) state = .ok total after) :
    ∃ code, state.builder.Writes code after.builder ∧ Stage.Reads after.builder total ∧
      ∀ module machine sum number,
        machine.frame.element (computed.getD (index 0)) = .ok (.i64 (Int64.ofNat sum)) →
        machine.frame.element term = .ok (.i64 (Int64.ofNat number)) →
        Achieves module after.builder code machine
          fun next => next.frame.element total = .ok (.i64 (Int64.ofNat (sum + number))) := by
  cases computed with
  | none =>
      obtain ⟨rfl, rfl⟩ := pure_ok.mp done
      refine ⟨[], .refl numbered, reads, ?_⟩
      intro module machine sum number read read'
      have none' : Int64.ofNat sum = 0 := (Literal.i64.inj (Except.ok.inj read)).symm
      rw [Int64.ofNat_add, none', Int64.zero_add]
      exact .none read'
  | some operand =>
      obtain ⟨code, writes, reads', achieves⟩ := arithmetic_achieves numbered done
      refine ⟨code, writes, reads', ?_⟩
      intro module machine sum number read read'
      rw [Int64.ofNat_add]
      exact achieves module machine _ _ _ read read' (add_i64 _ _)

/-- The coordinates that the indices stand for: an index is known while emitting, or it counts when
the code runs. -/
def Located (builder : FunctionBuilder) (machine : State) (indices : List Scalar)
    (positions : List (Option Int)) (coordinates : List Nat) : Prop :=
  ∀ logical : Nat, match (positions[logical]?).join, indices[logical]? with
    | some position, _ => position = coordinates.getD logical 0
    | none, some scalar => Counts builder machine scalar (coordinates.getD logical 0)
    | none, none => coordinates.getD logical 0 = 0

theorem Located.mono {builder later : FunctionBuilder} {machine next : State} {module : Module}
    {code rest : List Instruction} {indices : List Scalar} {positions : List (Option Int)}
    {coordinates : List Nat} (located : Located builder machine indices positions coordinates)
    (writes : builder.Writes code later) (ran : Performs module code rest machine next) :
    Located later next indices positions coordinates := by
  intro logical
  have here := located logical
  cases known : (positions[logical]?).join with
  | some position =>
      rw [known] at here
      exact here
  | none =>
      cases given : indices[logical]? with
      | some scalar =>
          rw [known, given] at here
          exact here.mono writes ran
      | none =>
          rw [known, given] at here
          exact here

/-- The position of an element, axis by axis. -/
def along (coordinates : List Nat) (total : Nat) (axis : Axis) : Nat :=
  total + (coordinates.getD axis.logical 0 + axis.offset) * axis.increment

/-- The part that the code computes and the part that is known add up to the position. -/
theorem address_achieves {indices : List Scalar} {positions : List (Option Int)}
    {axes : List Axis} {computed total : Option Operand} {fixed constant : Int}
    (regular : state.builder.Regular)
    (reads : Stage.Reads state.builder (computed.getD (index 0)))
    (done : (address indices positions axes computed fixed : Emission ρ (Option Operand × Int))
      state = .ok (total, constant) after) :
    ∃ code, state.builder.Writes code after.builder ∧
      Stage.Reads after.builder (total.getD (index 0)) ∧
      ∀ module machine coordinates sum place,
        Located state.builder machine indices positions coordinates →
        machine.frame.element (computed.getD (index 0)) = .ok (.i64 (Int64.ofNat sum)) →
        sum + fixed = (place : Nat) →
        Achieves module after.builder code machine fun next => ∃ sum' : Nat,
          next.frame.element (total.getD (index 0)) = .ok (.i64 (Int64.ofNat sum')) ∧
            sum' + constant = (axes.foldl (along coordinates) place : Nat) := by
  induction axes generalizing state computed fixed with
  | nil =>
      obtain ⟨same, rfl⟩ := pure_ok.mp done
      cases same
      refine ⟨[], .refl regular.numbered, reads, ?_⟩
      intro module machine coordinates sum place _ read adds
      exact .none ⟨sum, read, adds⟩
  | cons axis rest inductionHypothesis =>
      cases known : (positions[axis.logical]?).join with
      | some position =>
          rw [address, known] at done
          obtain ⟨code, writes, reads', achieves⟩ := inductionHypothesis regular reads done
          refine ⟨code, writes, reads', ?_⟩
          intro module machine coordinates sum place located read adds
          have here := located axis.logical
          rw [known] at here
          refine achieves module machine coordinates sum (along coordinates place axis) located
            read ?_
          simp only [along] at *
          push_cast
          rw [← adds, ← here]
          ring
      | none =>
          cases given : indices[axis.logical]? with
          | none =>
              rw [address, known, given] at done
              obtain ⟨code, writes, reads', achieves⟩ := inductionHypothesis regular reads done
              refine ⟨code, writes, reads', ?_⟩
              intro module machine coordinates sum place located read adds
              have here := located axis.logical
              rw [known, given] at here
              refine achieves module machine coordinates sum (along coordinates place axis) located
                read ?_
              simp only [along, here]
              push_cast
              rw [← adds]
              ring
          | some scalar =>
              rw [address_cons known given] at done
              obtain ⟨factor, middle, converted, done⟩ := bind_ok.mp done
              obtain ⟨term, middle', multiplied, done⟩ := bind_ok.mp done
              obtain ⟨total', middle'', added, done⟩ := bind_ok.mp done
              obtain ⟨code, writes, readsFactor, factored⟩ :=
                indexOperand_achieves regular converted
              obtain ⟨code', writes', readsTerm, scaled⟩ :=
                scaled_achieves writes.numbered readsFactor multiplied
              obtain ⟨code'', writes'', readsTotal, summed⟩ :=
                summed_achieves writes'.numbered readsTerm added
              have one := writes.trans writes'
              have two := one.trans writes''
              obtain ⟨more, onward, reads', achieves⟩ :=
                @inductionHypothesis _ (some total') _ (two.regular regular) readsTotal done
              refine ⟨code ++ code' ++ code'' ++ more, two.trans onward, reads', ?_⟩
              intro module machine coordinates sum place located read adds
              have here := located axis.logical
              rw [known, given] at here
              have multiplies := Achieves.seq regular writes writes'
                (factored module machine _ here) fun _ next _ => scaled module next _
              have totals := Achieves.seq regular one writes'' multiplies fun _ next ran =>
                summed module next sum _ (ran.element read fun register same =>
                  one.old (reads register same))
              refine .seq regular two onward totals fun _ next ran answer =>
                achieves module next coordinates _ (along coordinates place axis)
                  (located.mono two ran) answer ?_
              simp only [along]
              push_cast
              rw [← adds]
              ring

/-! ### Addresses -/

/-- What is known of an index while emitting. -/
def position? (heap : Heap) (scalar : Scalar) : Option Int :=
  (literal? scalar.value heap).map fun literal => literal.toInt64.toInt

theorem knownIndices_eq (indices : List Scalar) (state : EmissionState ρ) :
    knownIndices indices state = .ok (indices.map (position? state.heap)) state := by
  induction indices with
  | nil => rfl
  | cons scalar rest inductionHypothesis =>
      refine bind_ok.mpr ⟨literal? scalar.value state.heap, state, rfl, ?_⟩
      exact bind_ok.mpr ⟨_, state, inductionHypothesis, rfl⟩

/-- The sum of what the code computes and what is known. -/
def completed (computed : Option Operand) (fixed : Int) : Emission ρ Operand :=
  if fixed = 0 then
    pure (computed.getD (index 0))
  else
    .register <$> building
      (Building.binary .add (computed.getD (index 0)) (.constant (.i64 (Int64.ofInt fixed))))

/-- The value so many elements further on. -/
def placed (value : Value) (total : Operand) : Emission ρ Value := do
  let base ← pointer value
  let place ← building (Building.offset base total)
  return Value.emitted (← ofExcept value.dtype) place none

section Offset

variable {indices : List Scalar} {layout : Layout} {result : Value}

theorem offset_miscounted (ready : value.ready = .ok layout)
    (miscounted : indices.length ≠ layout.rank) :
    (offset value indices : Emission ρ Value) state =
      .error (.error (.invalidArgument ("offset needs " ++ toString layout.rank ++
        " indices, got " ++ toString indices.length))) state := by
  refine (Action.bind_of_ok (ofExcept_ok.mpr ⟨ready, rfl⟩)).trans ?_
  dsimp only
  rw [if_pos miscounted]
  exact Action.bind_of_error rfl

theorem offset_negative (ready : value.ready = .ok layout) (counted : indices.length = layout.rank)
    {scalar : Scalar} (member : scalar ∈ indices) {number : Int}
    (known : position? state.heap scalar = some number) (negative : number < 0) :
    ∃ first, first < 0 ∧ (∃ scalar ∈ indices, position? state.heap scalar = some first) ∧
      (offset value indices : Emission ρ Value) state =
        .error (.error (.invalidArgument ("negative index " ++ toString first))) state := by
  have listed : number ∈ (indices.map (position? state.heap)).filterMap id :=
    List.mem_filterMap.mpr ⟨some number, List.mem_map.mpr ⟨scalar, member, known⟩, rfl⟩
  have found : (((indices.map (position? state.heap)).filterMap id).find? fun position =>
      decide (position < 0)).isSome :=
    List.find?_isSome.mpr ⟨number, listed, decide_eq_true negative⟩
  obtain ⟨first, found⟩ := Option.isSome_iff_exists.mp found
  obtain ⟨known?, member', same⟩ := List.mem_filterMap.mp (List.mem_of_find?_eq_some found)
  obtain ⟨scalar', member', named⟩ := List.mem_map.mp member'
  have below := @List.find?_some _ (fun position : Int => decide (position < 0)) _ _ found
  refine ⟨first, of_decide_eq_true below, ⟨scalar', member', named.trans same⟩, ?_⟩
  refine (Action.bind_of_ok (ofExcept_ok.mpr ⟨ready, rfl⟩)).trans ?_
  dsimp only
  rw [if_neg (not_not.mpr counted)]
  refine (Action.bind_of_ok (knownIndices_eq indices state)).trans ?_
  rw [found]
  exact Action.bind_of_error rfl

/-- How an address comes about: nothing is emitted for a host array when all indices are known,
and otherwise the position is a constant or a sum. -/
theorem offset_cases (done : (offset value indices : Emission ρ Value) state = .ok result after) :
    ∃ layout, value.ready = .ok layout ∧ indices.length = layout.rank ∧
      (∀ index ∈ indices, ∀ position, position? state.heap index = some position → 0 ≤ position) ∧
      (if (indices.map (position? state.heap)).all Option.isSome then
        (if value.isHost then
          value.advanced (layout.place
            (((indices.map (position? state.heap)).filterMap id).map Int.toNat)) state.heap =
              .ok result ∧ state = after
        else
          (placed value (index (layout.place
            (((indices.map (position? state.heap)).filterMap id).map Int.toNat))) :
              Emission ρ Value) state = .ok result after)
      else
        ∃ computed fixed middle total middle',
          (address indices (indices.map (position? state.heap)) layout.axes none 0 :
            Emission ρ (Option Operand × Int)) state = .ok (computed, fixed) middle ∧
          (completed computed fixed : Emission ρ Operand) middle = .ok total middle' ∧
          (placed value total : Emission ρ Value) middle' = .ok result after) := by
  obtain ⟨layout, _, looked, done⟩ := bind_ok.mp done
  obtain ⟨ready, rfl⟩ := ofExcept_ok.mp looked
  refine ⟨layout, ready, ?_⟩
  dsimp only at done
  split at done
  case isTrue =>
    obtain ⟨_, _, failed, _⟩ := bind_ok.mp done
    exact (fail_ok failed).elim
  case isFalse counted =>
    obtain ⟨positions, _, looked, done⟩ := bind_ok.mp done
    rw [knownIndices_eq] at looked
    cases looked
    cases none' : ((indices.map (position? state.heap)).filterMap id).find? fun position =>
        decide (position < 0) with
    | some negative =>
        rw [none'] at done
        obtain ⟨_, _, failed, _⟩ := bind_ok.mp done
        exact (fail_ok failed).elim
    | none =>
        rw [none'] at done
        refine ⟨not_not.mp counted, ?_, ?_⟩
        · intro scalar member position known
          have listed : position ∈ (indices.map (position? state.heap)).filterMap id :=
            List.mem_filterMap.mpr ⟨some position, List.mem_map.mpr ⟨scalar, member, known⟩, rfl⟩
          have passed := List.find?_eq_none.mp none' position listed
          simpa using passed
        · dsimp only at done
          split at done
          case isTrue all =>
            obtain ⟨place, _, looked, done⟩ := bind_ok.mp done
            obtain ⟨flat, rfl⟩ := ofExcept_ok.mp looked
            obtain rfl := (Layout.flatOffset_eq_ok.mp flat).2
            rw [if_pos all]
            split at done
            case isTrue hosted =>
              obtain ⟨heap, acted, rfl⟩ := onHeap_ok.mp done
              obtain ⟨_, _, looked, acted⟩ := Action.bind_ok.mp acted
              obtain ⟨rfl, rfl⟩ := Action.get_ok.mp looked
              obtain ⟨advanced, rfl⟩ := Action.ofExcept_ok.mp acted
              rw [if_pos hosted]
              exact ⟨advanced, rfl⟩
            case isFalse hosted =>
              rw [if_neg hosted]
              exact done
          case isFalse unknown =>
            rw [if_neg unknown]
            obtain ⟨⟨computed, fixed⟩, middle, summed, done⟩ := bind_ok.mp done
            dsimp only at done
            unfold completed
            split at done
            case isTrue zero =>
              obtain ⟨total, middle', same, done⟩ := bind_ok.mp done
              exact ⟨computed, fixed, middle, total, middle', summed, by rwa [if_pos zero], done⟩
            case isFalse nonzero =>
              obtain ⟨total, middle', added, done⟩ := bind_ok.mp done
              exact ⟨computed, fixed, middle, total, middle', summed, by rwa [if_neg nonzero], done⟩

/-- Nothing is added where all that is known is zero. -/
theorem completed_achieves (numbered : state.builder.Numbered) {computed : Option Operand}
    {fixed : Int} {total : Operand}
    (reads : Stage.Reads state.builder (computed.getD (index 0)))
    (done : (completed computed fixed : Emission ρ Operand) state = .ok total after) :
    ∃ code, state.builder.Writes code after.builder ∧ Stage.Reads after.builder total ∧
      ∀ module machine (sum position : Nat),
        machine.frame.element (computed.getD (index 0)) = .ok (.i64 (Int64.ofNat sum)) →
        (sum : Int) + fixed = position →
        Achieves module after.builder code machine
          fun next => next.frame.element total = .ok (.i64 (Int64.ofNat position)) := by
  unfold completed at done
  split at done
  case isTrue zero =>
    obtain ⟨rfl, rfl⟩ := pure_ok.mp done
    refine ⟨[], .refl numbered, reads, ?_⟩
    intro module machine sum position read adds
    obtain rfl : sum = position := by omega
    exact .none read
  case isFalse =>
    obtain ⟨code, writes, reads', achieves⟩ := arithmetic_achieves numbered done
    refine ⟨code, writes, reads', ?_⟩
    intro module machine sum position read adds
    rw [← Int64.ofInt_eq_ofNat, ← adds, Int64.ofInt_add, Int64.ofInt_eq_ofNat]
    exact achieves module machine _ _ _ read rfl (add_i64 _ _)

/-- The value is placed so many elements behind where it begins. -/
theorem placed_achieves (regular : state.builder.Regular) {total : Operand}
    (reads : Stage.Reads state.builder total)
    (done : (placed value total : Emission ρ Value) state = .ok result after) :
    ∃ code target, state.builder.Writes code after.builder ∧
      result.place = .emitted target ∧ result.dtype? = value.dtype? ∧ result.layout? = none ∧
      (∀ storage base, value.place = .host storage base →
        ∃ name, after.globalOf? storage = some name) ∧
      ∀ module machine start dtype position,
        Begins state.builder after.globalOf? module machine value start dtype →
        machine.frame.element total = .ok (.i64 (Int64.ofNat position)) → position < 2 ^ 63 →
        Achieves module after.builder code machine fun next => next.frame.Has target
          (.pointer ⟨start.allocation, start.offset + position * dtype.width⟩) := by
  obtain ⟨base, middle, pointed, done⟩ := bind_ok.mp done
  obtain ⟨target, _, moved, done⟩ := bind_ok.mp done
  obtain ⟨dtype, _, looked, done⟩ := bind_ok.mp done
  obtain ⟨builder, built, rfl⟩ := building_ok.mp moved
  obtain ⟨typed, rfl⟩ := ofExcept_ok.mp looked
  obtain ⟨rfl, rfl⟩ := pure_ok.mp done
  obtain ⟨code, writes, stands, achieves⟩ := pointer_achieves regular pointed
  obtain ⟨code', dtype', writes', pointee, _, achieves'⟩ :=
    Building.offset_achieves writes.numbered built
  refine ⟨code ++ code', target, writes.trans writes', rfl, ?_, rfl, stands, ?_⟩
  · exact (Value.dtype_ok.mp typed).symm
  intro module machine start dtype'' position begins read fits
  refine .seq regular writes writes' (achieves module machine start dtype'' begins) ?_
  rintro rest next ran ⟨typed', has⟩
  cases pointee.symm.trans typed'
  exact achieves' module next start position has
    (ran.element read fun register same => writes.old (reads register same)) fits

/-- An index is known while emitting, or it is counted when the code runs. -/
def Stands (heap : Heap) (builder : FunctionBuilder) (machine : State) (scalar : Scalar)
    (number : Nat) : Prop :=
  scalar.At heap number ∨ Counts builder machine scalar number

theorem at_iff {heap : Heap} {scalar : Scalar} {number : Nat} :
    scalar.At heap number ↔ position? heap scalar = some (number : Int) := by
  have ranked : (scalar.value.layout?.map Layout.rank == some 0) = true :=
    beq_iff_eq.mpr scalar.rankZero
  have same : position? heap scalar =
      (Host.literal scalar.value heap).toOption.map fun literal => literal.toInt64.toInt := by
    unfold position? literal? Host.literal
    rw [ranked, Bool.and_true]
    split <;> rfl
  rw [same]
  constructor
  · rintro ⟨element, read, placed⟩
    rw [read]
    unfold Scalar.position at placed
    dsimp only at placed
    split at placed
    case isTrue nonnegative =>
      cases placed
      exact congrArg some (Int.toNat_of_nonneg nonnegative).symm
    case isFalse => cases placed
  · intro known
    cases read : Host.literal scalar.value heap with
    | error => rw [read] at known; cases known
    | ok element =>
        rw [read] at known
        have counts : element.toInt64.toInt = number := Option.some.inj known
        refine ⟨element, read, ?_⟩
        rw [Scalar.position, counts]
        exact if_pos (Int.natCast_nonneg number)

theorem Counts.unknown {heap : Heap} {builder : FunctionBuilder} {machine : State}
    {scalar : Scalar} {number : Nat} (counts : Counts builder machine scalar number) :
    position? heap scalar = none := by
  obtain ⟨register, _, _, place, _⟩ := counts
  rw [position?, literal?, Value.isHost, place]
  rfl

theorem located_of_stands {heap : Heap} {builder : FunctionBuilder} {machine : State}
    {coordinates : List Nat}
    (stands : List.Forall₂ (Stands heap builder machine) indices coordinates) :
    Located builder machine indices (indices.map (position? heap)) coordinates := by
  induction stands with
  | nil => exact fun _ => rfl
  | @cons scalar number rest numbers here _ inductionHypothesis =>
      rintro (_ | logical)
      · rcases here with known | counts
        · rw [List.map_cons, List.getElem?_cons_zero, at_iff.mp known]
          rfl
        · rw [List.map_cons, List.getElem?_cons_zero, counts.unknown]
          exact counts
      · exact inductionHypothesis logical

/-- Where all indices are known, the coordinates are. -/
theorem coordinates_of_known {heap : Heap} {builder : FunctionBuilder} {machine : State}
    {coordinates : List Nat}
    (stands : List.Forall₂ (Stands heap builder machine) indices coordinates)
    (all : (indices.map (position? heap)).all Option.isSome) :
    ((indices.map (position? heap)).filterMap id).map Int.toNat = coordinates := by
  induction stands with
  | nil => rfl
  | @cons scalar number rest numbers here _ inductionHypothesis =>
      rw [List.map_cons, List.all_cons, Bool.and_eq_true] at all
      rcases here with known | counts
      · rw [List.map_cons, at_iff.mp known]
        exact congrArg _ (inductionHypothesis all.2)
      · rw [counts.unknown] at all
        cases all.1

theorem named_of_known {heap : Heap} (all : (indices.map (position? heap)).all Option.isSome)
    (nonnegative : ∀ index ∈ indices, ∀ position, position? heap index = some position →
      0 ≤ position) :
    List.Forall₂ (Scalar.At heap) indices
      (((indices.map (position? heap)).filterMap id).map Int.toNat) := by
  induction indices with
  | nil => exact .nil
  | cons scalar rest inductionHypothesis =>
      rw [List.map_cons, List.all_cons, Bool.and_eq_true] at all
      obtain ⟨position, known⟩ := Option.isSome_iff_exists.mp all.1
      rw [List.map_cons, known]
      refine .cons (at_iff.mpr ?_) (inductionHypothesis all.2 ?_)
      · rw [known, Int.toNat_of_nonneg]
        exact nonnegative scalar (List.mem_cons_self ..) position known
      · exact fun index member => nonnegative index (List.mem_cons_of_mem _ member)

theorem reads_index (builder : FunctionBuilder) (position : Nat) :
    Stage.Reads builder (index position) := by
  rintro register ⟨⟩

/-- The code that was written makes `target` point at the element that the layout names, counted
from where the value begins. -/
def Addresses (value : Value) (indices : List Scalar) (layout : Layout)
    (state after : EmissionState ρ) (target : Register) : Prop :=
  ∃ code, state.builder.Writes code after.builder ∧
    (∀ storage base, value.place = .host storage base →
      ∃ name, after.globalOf? storage = some name) ∧
    ∀ module machine start dtype coordinates position,
      Begins state.builder after.globalOf? module machine value start dtype →
      List.Forall₂ (Stands state.heap state.builder machine) indices coordinates →
      layout.flatOffset coordinates = .ok position → position < 2 ^ 63 →
      Achieves module after.builder code machine fun next => next.frame.Has target
        (.pointer ⟨start.allocation, start.offset + position * dtype.width⟩)

/-- In a finished function the pointer comes out wherever the machine has come so far. -/
theorem Addresses.runs {stage : Stage} {target : Register} {machine : State} {memory : Memory}
    (addresses : Addresses value indices layout state after target)
    (follows : stage.Follows state.builder machine) (formed : after.builder.Formed)
    (covers : after.builder.Grows stage.builder)
    (held : stage.Holds machine.frame.registers memory) {start : Pointer} {dtype : DType}
    {coordinates : List Nat} {position : Nat}
    (begins : Begins state.builder after.globalOf? stage.module machine value start dtype)
    (stands : List.Forall₂ (Stands state.heap state.builder machine) indices coordinates)
    (flat : layout.flatOffset coordinates = .ok position) (fits : position < 2 ^ 63) :
    ∃ next, stage.Runs state.builder after.builder machine next ∧
      next.memory = machine.memory ∧ next.frame.Has target
        (.pointer ⟨start.allocation, start.offset + position * dtype.width⟩) := by
  obtain ⟨code, writes, _, achieves⟩ := addresses
  exact follows.achieves writes formed covers held
    (achieves stage.module machine start dtype coordinates position begins stands flat fits)

/-- A position that is known is a constant of the code. -/
theorem addresses_of_known (regular : state.builder.Regular)
    (all : (indices.map (position? state.heap)).all Option.isSome)
    (done : (placed value (index (layout.place
      (((indices.map (position? state.heap)).filterMap id).map Int.toNat))) :
        Emission ρ Value) state = .ok result after) :
    result.dtype? = value.dtype? ∧ result.layout? = none ∧
      ∃ target, result.place = .emitted target ∧
        Addresses value indices layout state after target := by
  obtain ⟨code, target, writes, place, typed, bare, stands, achieves⟩ :=
    placed_achieves regular (reads_index _ _) done
  refine ⟨typed, bare, target, place, code, writes, stands, ?_⟩
  intro module machine start dtype coordinates position begins stands' flat fits
  refine achieves module machine start dtype position begins ?_ fits
  rw [coordinates_of_known stands' all, (Layout.flatOffset_eq_ok.mp flat).2]
  rfl

/-- A position that is not known is a sum that the code computes. -/
theorem addresses_of_sum {middle middle' : EmissionState ρ} {computed : Option Operand}
    {fixed : Int} {total : Operand} (regular : state.builder.Regular)
    (summed : (address indices (indices.map (position? state.heap)) layout.axes none 0 :
      Emission ρ (Option Operand × Int)) state = .ok (computed, fixed) middle)
    (finished : (completed computed fixed : Emission ρ Operand) middle = .ok total middle')
    (done : (placed value total : Emission ρ Value) middle' = .ok result after) :
    result.dtype? = value.dtype? ∧ result.layout? = none ∧
      ∃ target, result.place = .emitted target ∧
        Addresses value indices layout state after target := by
  obtain ⟨code, writes, reads, sums⟩ := address_achieves regular (reads_index _ _) summed
  obtain ⟨code', writes', reads', completes⟩ := completed_achieves writes.numbered reads finished
  have both := writes.trans writes'
  obtain ⟨code'', target, writes'', place, typed, bare, stands, achieves⟩ :=
    placed_achieves (both.regular regular) reads' done
  refine ⟨typed, bare, target, place, code ++ code' ++ code'', both.trans writes'', stands, ?_⟩
  intro module machine start dtype coordinates position begins stands' flat fits
  have counted := sums module machine coordinates 0 0 (located_of_stands stands') rfl rfl
  have positioned := Achieves.seq regular writes writes' counted
    fun _ next _ ⟨sum, read, adds⟩ => completes module next sum position read
      (adds.trans (congrArg _ (Layout.flatOffset_eq_ok.mp flat).2))
  exact .seq regular both writes'' positioned fun _ next ran read =>
    achieves module next start dtype position (begins.mono both ran) read fits

/-- What the emission answers with when it takes the indices. -/
structure Addressed (value : Value) (indices : List Scalar) (layout : Layout)
    (state after : EmissionState ρ) (result : Value) : Prop where
  dtype : result.dtype? = value.dtype?
  bare : result.layout? = none
  /-- Nothing is emitted for a host array when all indices are known. -/
  host : value.isHost → (∀ scalar ∈ indices, (position? state.heap scalar).isSome) →
    after = state ∧ ∃ coordinates position storage base,
      List.Forall₂ (Scalar.At state.heap) indices coordinates ∧
      layout.flatOffset coordinates = .ok position ∧
      value.place = .host storage base ∧ result.place = .host storage (base + position)
  emitted : ¬ (value.isHost ∧ ∀ scalar ∈ indices, (position? state.heap scalar).isSome) →
    ∃ target, result.place = .emitted target ∧ Addresses value indices layout state after target

theorem offset_addressed (regular : state.builder.Regular) (ready : value.ready = .ok layout)
    (done : (offset value indices : Emission ρ Value) state = .ok result after) :
    Addressed value indices layout state after result := by
  obtain ⟨layout', ready', counted, nonnegative, done⟩ := offset_cases done
  cases ready.symm.trans ready'
  have known_iff : (indices.map (position? state.heap)).all Option.isSome = true ↔
      ∀ scalar ∈ indices, (position? state.heap scalar).isSome := by
    rw [List.all_eq_true, List.forall_mem_map]
  split at done
  case isTrue all =>
    have counted' := (named_of_known all nonnegative).length_eq.symm.trans counted
    split at done
    case isTrue hosted =>
      obtain ⟨advanced, rfl⟩ := done
      cases place : value.place with
      | host storage base =>
          obtain rfl := Value.eq_of_advanced place advanced
          exact ⟨rfl, rfl, fun _ _ => ⟨rfl, _, _, storage, base, named_of_known all nonnegative,
            Layout.flatOffset_ok counted', place, rfl⟩,
            fun other => absurd ⟨hosted, known_iff.mp all⟩ other⟩
      | unbound | emitted register =>
          rw [Value.isHost, place] at hosted
          cases hosted
    case isFalse hosted =>
      obtain ⟨dtype, bare, target⟩ := addresses_of_known regular all done
      exact ⟨dtype, bare, fun host => absurd host hosted, fun _ => target⟩
  case isFalse unknown =>
    obtain ⟨computed, fixed, middle, total, middle', summed, finished, done⟩ := done
    obtain ⟨dtype, bare, target⟩ := addresses_of_sum regular summed finished done
    exact ⟨dtype, bare, fun _ known => absurd (known_iff.mpr known) unknown, fun _ => target⟩

/-- Emitted addresses agree with the layout.  A wrong number of indices is refused and so is an
index that is known to be negative.  Otherwise the answer is the place of the value moved by as
many elements as the layout gives for the coordinates, whichever of the indices are known: a
position of a host array, or the pointer that the code computes.  On the host the same
coordinates advance the value to the same position. -/
theorem offset_addresses (regular : state.builder.Regular) (ready : value.ready = .ok layout)
    (indices : List Scalar) :
    (indices.length ≠ layout.rank →
      (offset value indices : Emission ρ Value) state =
        .error (.error (.invalidArgument ("offset needs " ++ toString layout.rank ++
          " indices, got " ++ toString indices.length))) state) ∧
    (indices.length = layout.rank →
      ∀ scalar ∈ indices, ∀ number, position? state.heap scalar = some number → number < 0 →
        ∃ first, first < 0 ∧ (∃ scalar ∈ indices, position? state.heap scalar = some first) ∧
          (offset value indices : Emission ρ Value) state =
            .error (.error (.invalidArgument ("negative index " ++ toString first))) state) ∧
    (∀ result after, (offset value indices : Emission ρ Value) state = .ok result after →
      Addressed value indices layout state after result) ∧
    ∀ {σ : Type} (twin : Value) (scalars : List Scalar) (host : HostState σ)
      (coordinates : List Nat) (position : Nat), twin.ready = .ok layout →
      List.Forall₂ (Scalar.At host.heap) scalars coordinates →
      layout.flatOffset coordinates = .ok position →
      (Host.offset twin scalars : Host σ Value) host =
        Host.onHeap (Action.ofExcept (twin.advanced position host.heap)) host :=
  ⟨offset_miscounted ready,
    fun counted _ member _ known negative => offset_negative ready counted member known negative,
    fun _ _ done => offset_addressed regular ready done,
    fun _ _ _ _ _ ready named flat => Host.offset_advances ready named flat⟩

end Offset

/-! ### A padded matrix stored column by column -/

namespace Gathering

/-- Two rows and three columns with a margin, stored column by column on the host. -/
private def matrix : Value :=
  { dtype? := some .i32
    layout? := (Layout.reordered [2, 3] [4, 6] [1, 2] [1, 0]).toOption
    place := .host 0 2 }

private def elements : Storage :=
  Storage.zeros .i32 26

private def hosted : Heap :=
  ⟨#[elements, Storage.singleton (.i64 1), Storage.singleton (.i64 2),
    Storage.singleton (.i64 (-1))]⟩

/-- An index that is known while emitting. -/
private def known (storage : Nat) : Scalar :=
  { value :=
      { dtype? := some .i64
        layout? := some Layout.scalar
        place := .host storage 0 }
    dtype := .i64
    typed := rfl
    rankZero := rfl }

/-- An index that the code reads. -/
private def read : Scalar :=
  { value := Value.emitted .u8 0 (some Layout.scalar)
    dtype := .u8
    typed := rfl
    rankZero := rfl }

private def entry : EmissionState Unit :=
  EmissionState.start hosted (FunctionBuilder.start "gather" [.pointer .u8]) Code.LoopHint.none ()

private def module : Code.Module :=
  { Code.Module.empty "gather" with globals := [⟨"gather.const.0", elements, false⟩] }

/-- The third column is asked for, and the prologue took the address of the matrix. -/
private def waiting (function : Function) (code : List Instruction) : State :=
  { memory := ⟨#[elements.image, #[2]]⟩
    frame :=
      { function := function
        registers := #[some (.pointer ⟨1, 0⟩), none, none, none, none, some (.pointer ⟨0, 0⟩),
          none, none]
        block := Block.empty 0 "entry"
        pending := code
        floor := 2 }
    callers := []
    steps := 0 }

/-- What an emission leaves behind, as far as the machine has to suit it. -/
private structure Left where
  place : Place
  addresses : List (String × Register)
  size : Nat
  global? : Option String
  type? : Option RegisterType
  deriving DecidableEq

private def left? : EStateM.Result Fault (EmissionState Unit) Value → Option Left
  | .ok result after =>
      some ⟨result.place, after.builder.addresses, after.builder.size, after.globalOf? 0,
        after.builder.function.registerTypes[5]?⟩
  | .error _ _ => none

private theorem known_at (storage number : Nat) (element : Literal)
    (held : Host.literal (known storage).value hosted = .ok element)
    (counts : Scalar.position element = .ok number) : (known storage).At hosted number :=
  ⟨element, held, counts⟩

theorem offset_addresses_gathering :
    ∃ (layout : Layout) (result : Value) (after : EmissionState Unit) (code : List Instruction),
      matrix.ready = .ok layout ∧ layout.flatOffset [1, 2] = .ok 21 ∧
      (offset matrix [known 1, read] : Emission Unit Value) entry = .ok result after ∧
      result.place = .emitted 7 ∧ entry.builder.Writes code after.builder ∧
      (∃ next, Performs module code [] (waiting after.builder.function code) next ∧
        next.frame.Has 7 (.pointer ⟨0, 92⟩)) ∧
      (∃ answer, (Host.offset matrix [known 1, known 2] : Host Unit Value) ⟨hosted, 0, ()⟩ =
        .ok answer ⟨hosted, 0, ()⟩ ∧ answer.place = .host 0 23) ∧
      (offset matrix [known 1] : Emission Unit Value) entry =
        .error (.error (.invalidArgument "offset needs 2 indices, got 1")) entry ∧
      (∃ cause, (offset matrix [known 3, read] : Emission Unit Value) entry =
        .error (.error cause) entry) := by
  have regular : entry.builder.Regular := ⟨rfl, fun _ member => absurd member List.not_mem_nil⟩
  obtain ⟨layout, ready, rank, flat⟩ : ∃ layout, matrix.ready = .ok layout ∧ layout.rank = 2 ∧
      layout.flatOffset [1, 2] = .ok 21 :=
    ⟨_, rfl, rfl, rfl⟩
  have left : left? ((offset matrix [known 1, read] : Emission Unit Value) entry) =
      some ⟨.emitted 7, [("gather.const.0", 5)], 8, some "gather.const.0",
        some (.pointer .i32)⟩ := by
    decide +kernel
  cases done : (offset matrix [known 1, read] : Emission Unit Value) entry with
  | error => rw [done] at left; cases left
  | ok result after =>
      rw [done] at left
      obtain ⟨place, addresses, size, named, typed⟩ :
          result.place = .emitted 7 ∧ after.builder.addresses = [("gather.const.0", 5)] ∧
            after.builder.size = 8 ∧ after.globalOf? 0 = some "gather.const.0" ∧
            after.builder.function.registerTypes[5]? = some (.pointer .i32) := by
        simpa [left?] using left
      have addressed := (offset_addresses regular ready [known 1, read]).2.2.1 result after done
      have advances := (offset_addresses regular ready [known 1, read]).2.2.2 matrix
        [known 1, known 2] (⟨hosted, 0, ()⟩ : HostState Unit) [1, 2] 21 ready
      obtain ⟨target, place', code, writes, _, achieves⟩ :=
        addressed.emitted fun known => absurd (known.2 read (by simp)) (by decide)
      cases place.symm.trans place'
      have begins : Begins entry.builder after.globalOf? module
          (waiting after.builder.function code) matrix ⟨0, 2 * 4⟩ .i32 :=
        @Begins.host _ _ _ _ _ 0 2 0 _ ⟨"gather.const.0", elements, false⟩ rfl named
          (by decide) rfl (by decide)
      have stands : List.Forall₂
          (Stands hosted entry.builder (waiting after.builder.function code))
          [known 1, read] [1, 2] :=
        .cons (.inl (known_at 1 1 _ rfl rfl))
          (.cons (.inr ⟨0, ⟨1, 0⟩, .u8 2, rfl, rfl, rfl, rfl, rfl, rfl⟩) .nil)
      have suits : (waiting after.builder.function code).frame.Suits module after.builder := by
        refine ⟨fun _ _ typed => typed, size.le, fun name register member => ?_⟩
        rw [addresses, List.mem_singleton] at member
        cases member
        exact ⟨0, ⟨"gather.const.0", elements, false⟩, by decide, rfl, typed, rfl⟩
      obtain ⟨next, ran, has⟩ := achieves module (waiting after.builder.function code) ⟨0, 2 * 4⟩
        .i32 [1, 2] 21 begins stands flat (by decide) [] (List.append_nil _).symm suits
      refine ⟨layout, result, after, code, ready, flat, rfl, place, writes, ⟨next, ran, has⟩,
        ⟨_, advances (.cons (known_at 1 1 _ rfl rfl) (.cons (known_at 2 2 _ rfl rfl) .nil)) flat,
          rfl⟩, ?_, ?_⟩
      · have refused := (offset_addresses regular ready [known 1]).1
        rw [rank] at refused
        exact refused (by decide)
      · obtain ⟨first, _, _, refused⟩ := (offset_addresses regular ready [known 3, read]).2.1
          rank.symm (known 3) (List.mem_cons_self ..) (-1) rfl (by decide)
        exact ⟨_, refused⟩

end Gathering
end Emission
end TensorGraph

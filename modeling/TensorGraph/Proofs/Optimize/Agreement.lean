/-
Frames that agree.

Two runs of code that do the same need not allocate the same: one of them may
leave an allocation out that nobody reads.  A renaming says which allocation of
the one memory stands for which of the other.  It is increasing, so what is
released together on one side is released together on the other.

An optimized function reads constants where the original read registers, and it
does not define registers that nobody reads.  Two frames agree when every live
register of the original holds its constant, or something that the same
register of the other frame holds as well, up to a renaming of allocations.
-/

import TensorGraph.Optimize.ConstantFolding
import TensorGraph.Proofs.Machine.Effect

namespace TensorGraph.Machine

open Code

/-- Which allocation of another memory stands for an allocation, if any does. -/
abbrev Renaming := Nat → Option Nat

namespace Renaming

/-- Only the allocations below `floor`. -/
def below (mapping : Renaming) (floor : Nat) : Renaming := fun allocation =>
  if allocation < floor then mapping allocation else none

/-- One more allocation with its counterpart. -/
def extend (mapping : Renaming) (allocation counterpart : Nat) : Renaming := fun other =>
  if other = allocation then some counterpart else mapping other

theorem below_some {mapping : Renaming} {floor allocation counterpart : Nat} :
    mapping.below floor allocation = some counterpart ↔
      allocation < floor ∧ mapping allocation = some counterpart := by
  simp [below]

theorem below_extend (mapping : Renaming) {floor allocation : Nat} (counterpart : Nat)
    (above : floor ≤ allocation) :
    (mapping.extend allocation counterpart).below floor = mapping.below floor := by
  funext other
  simp only [below, extend]
  split
  · rw [if_neg (by omega)]
  · rfl

end Renaming

/-- Allocations that stand for each other hold the same bytes. -/
structure MemoryRelation (mapping : Renaming) (memory memory' : Memory) : Prop where
  increasing : ∀ first second first' second', mapping first = some first' →
    mapping second = some second' → first < second → first' < second'
  shared : ∀ allocation counterpart, mapping allocation = some counterpart →
    ∃ image, memory.allocations[allocation]? = some image ∧
      memory'.allocations[counterpart]? = some image

/-- Equal elements, or pointers to the same place of allocations that stand for each
other. -/
inductive SlotRelation (mapping : Renaming) : Slot → Slot → Prop where
  | element (value : Literal) : SlotRelation mapping (.element value) (.element value)
  | pointer (pointer pointer' : Pointer)
      (renamed : mapping pointer.allocation = some pointer'.allocation)
      (alike : pointer'.offset = pointer.offset) :
      SlotRelation mapping (.pointer pointer) (.pointer pointer')

theorem SlotRelation.mono {mapping wider : Renaming} {slot slot' : Slot}
    (related : SlotRelation mapping slot slot')
    (contained : ∀ allocation counterpart, mapping allocation = some counterpart →
      wider allocation = some counterpart) : SlotRelation wider slot slot' := by
  cases related with
  | element value => exact .element value
  | pointer pointer pointer' renamed alike =>
      exact .pointer pointer pointer' (contained _ _ renamed) alike

namespace MemoryRelation

variable {mapping : Renaming} {memory memory' : Memory}

theorem bounds (related : MemoryRelation mapping memory memory') {allocation counterpart : Nat}
    (renamed : mapping allocation = some counterpart) :
    allocation < memory.size ∧ counterpart < memory'.size := by
  obtain ⟨image, here, there⟩ := related.shared allocation counterpart renamed
  obtain ⟨within, _⟩ := Array.getElem?_eq_some_iff.mp here
  obtain ⟨within', _⟩ := Array.getElem?_eq_some_iff.mp there
  exact ⟨within, within'⟩

theorem below_size (related : MemoryRelation mapping memory memory') :
    mapping.below memory.size = mapping := by
  funext allocation
  cases renamed : mapping allocation with
  | none => simp [Renaming.below, renamed]
  | some counterpart => simp [Renaming.below, renamed, (related.bounds renamed).1]

theorem injective (related : MemoryRelation mapping memory memory')
    {first second counterpart : Nat} (one : mapping first = some counterpart)
    (other : mapping second = some counterpart) : first = second := by
  rcases Nat.lt_trichotomy first second with less | same | greater
  · have := related.increasing _ _ _ _ one other less
    omega
  · exact same
  · have := related.increasing _ _ _ _ other one greater
    omega

theorem check (related : MemoryRelation mapping memory memory') {pointer pointer' : Pointer}
    (renamed : mapping pointer.allocation = some pointer'.allocation)
    (alike : pointer'.offset = pointer.offset) (bytes : Nat) :
    memory'.check pointer' bytes = memory.check pointer bytes := by
  obtain ⟨image, here, there⟩ := related.shared _ _ renamed
  simp only [Memory.check, here, there, alike]

theorem read (related : MemoryRelation mapping memory memory') {pointer pointer' : Pointer}
    (renamed : mapping pointer.allocation = some pointer'.allocation)
    (alike : pointer'.offset = pointer.offset) (bytes : Nat) :
    memory'.read pointer' bytes = memory.read pointer bytes := by
  obtain ⟨image, here, there⟩ := related.shared _ _ renamed
  simp only [Memory.read, here, there, alike]

theorem put (related : MemoryRelation mapping memory memory') {pointer pointer' : Pointer}
    (renamed : mapping pointer.allocation = some pointer'.allocation)
    (alike : pointer'.offset = pointer.offset) (bytes : List UInt8) :
    MemoryRelation mapping (memory.put pointer bytes) (memory'.put pointer' bytes) := by
  constructor
  · exact related.increasing
  · intro allocation counterpart other
    obtain ⟨image, here, there⟩ := related.shared allocation counterpart other
    by_cases same : pointer.allocation = allocation
    · subst same
      have counterparts : pointer'.allocation = counterpart := by
        rw [renamed] at other
        exact Option.some.inj other
      subst counterparts
      refine ⟨Memory.overwrite image pointer.offset bytes, ?_, ?_⟩
      · simp [Memory.put, Array.getElem?_modify, here]
      · simp [Memory.put, Array.getElem?_modify, there, alike]
    · have different : pointer'.allocation ≠ counterpart := by
        intro equal
        rw [equal] at renamed
        exact same (related.injective renamed other)
      refine ⟨image, ?_, ?_⟩
      · simp [Memory.put, Array.getElem?_modify, same, here]
      · simp [Memory.put, Array.getElem?_modify, different, there]

theorem restrict (related : MemoryRelation mapping memory memory') {narrower : Renaming}
    (contained : ∀ allocation counterpart, narrower allocation = some counterpart →
      mapping allocation = some counterpart) : MemoryRelation narrower memory memory' := by
  constructor
  · intro first second first' second' one other less
    exact related.increasing _ _ _ _ (contained _ _ one) (contained _ _ other) less
  · intro allocation counterpart renamed
    exact related.shared allocation counterpart (contained _ _ renamed)

/-- Both sides allocate. -/
theorem allocate (related : MemoryRelation mapping memory memory') (image : Array UInt8) :
    MemoryRelation (mapping.extend memory.size memory'.size) (memory.allocate image)
      (memory'.allocate image) := by
  constructor
  · intro first second first' second' one other less
    simp only [Renaming.extend] at one other
    split at one <;> split at other
    · omega
    · have := (related.bounds other).1
      omega
    · have := (related.bounds one).2
      cases other
      exact this
    · exact related.increasing _ _ _ _ one other less
  · intro allocation counterpart renamed
    simp only [Renaming.extend] at renamed
    split at renamed
    · rename_i fresh
      cases renamed
      subst fresh
      exact ⟨image, by simp [Memory.allocate, Memory.size], by simp [Memory.allocate, Memory.size]⟩
    · obtain ⟨old, here, there⟩ := related.shared allocation counterpart renamed
      obtain ⟨within, within'⟩ := related.bounds renamed
      refine ⟨old, ?_, ?_⟩
      · simp only [Memory.allocate]
        rw [Array.getElem?_push, if_neg (by simp only [Memory.size] at within; omega), here]
      · simp only [Memory.allocate]
        rw [Array.getElem?_push, if_neg (by simp only [Memory.size] at within'; omega), there]

/-- Only one side allocates. -/
theorem allocateLeft (related : MemoryRelation mapping memory memory') (image : Array UInt8) :
    MemoryRelation mapping (memory.allocate image) memory' := by
  constructor
  · exact related.increasing
  · intro allocation counterpart renamed
    obtain ⟨old, here, there⟩ := related.shared allocation counterpart renamed
    have within := (related.bounds renamed).1
    refine ⟨old, ?_, there⟩
    simp only [Memory.allocate]
    rw [Array.getElem?_push, if_neg (by simp only [Memory.size] at within; omega), here]

theorem release (related : MemoryRelation mapping memory memory') {floor floor' : Nat}
    (floors : ∀ allocation counterpart, mapping allocation = some counterpart →
      (allocation < floor ↔ counterpart < floor')) :
    MemoryRelation (mapping.below floor) (memory.release floor) (memory'.release floor') := by
  constructor
  · intro first second first' second' one other less
    exact related.increasing _ _ _ _ (Renaming.below_some.mp one).2 (Renaming.below_some.mp other).2
      less
  · intro allocation counterpart renamed
    obtain ⟨kept, renamed⟩ := Renaming.below_some.mp renamed
    have kept' := (floors _ _ renamed).mp kept
    obtain ⟨image, here, there⟩ := related.shared _ _ renamed
    exact ⟨image, by rw [getElem?_release, if_pos kept, here],
      by rw [getElem?_release, if_pos kept', there]⟩

end MemoryRelation
end TensorGraph.Machine

namespace TensorGraph.Optimize

open Code Machine

structure Agreement (constants : Constants) (live : Register → Prop) (mapping : Renaming)
    (frame frame' : Frame) : Prop where
  types : frame'.function.registerTypes = frame.function.registerTypes
  size : frame'.registers.size = frame.registers.size
  constant : ∀ register value slot, constants.lookup register = some value →
    frame.slot register = .ok slot → slot = .element value
  register : ∀ register slot, live register → constants.lookup register = none →
    frame.slot register = .ok slot →
    ∃ slot', frame'.slot register = .ok slot' ∧ SlotRelation mapping slot slot'

/-- What an instruction defines on both sides. -/
inductive DefinitionRelation (mapping : Renaming) :
    Option (Register × Slot) → Option (Register × Slot) → Prop where
  | none : DefinitionRelation mapping none none
  | some (register : Register) (slot slot' : Slot) (related : SlotRelation mapping slot slot') :
      DefinitionRelation mapping (some (register, slot)) (some (register, slot'))

theorem slot_define (frame : Frame) (defined register : Register) (slot found : Slot)
    (looked : (frame.define defined slot).slot register = .ok found) :
    (register = defined ∧ found = slot ∧ defined < frame.registers.size) ∨
      (register ≠ defined ∧ frame.slot register = .ok found) := by
  by_cases same : register = defined
  · subst same
    refine .inl ⟨rfl, ?_⟩
    simp only [Frame.slot, Frame.define, Array.getElem?_setIfInBounds_self] at looked
    split at looked
    · rename_i here
      split at here
      · rename_i within
        cases looked
        cases here
        exact ⟨rfl, within⟩
      · cases here
    · cases looked
  · refine .inr ⟨same, ?_⟩
    simpa only [Frame.slot, Frame.define,
      Array.getElem?_setIfInBounds_ne (fun equal => same equal.symm)] using looked

theorem slot_define_self (frame : Frame) (register : Register) (slot : Slot)
    (within : register < frame.registers.size) :
    (frame.define register slot).slot register = .ok slot := by
  simp [Frame.slot, Frame.define, within]

theorem slot_define_ne (frame : Frame) (defined register : Register) (slot : Slot)
    (different : register ≠ defined) :
    (frame.define defined slot).slot register = frame.slot register := by
  simp only [Frame.slot, Frame.define,
    Array.getElem?_setIfInBounds_ne (fun equal => different equal.symm)]

namespace Agreement

variable {constants : Constants} {live : Register → Prop} {mapping : Renaming}
  {frame frame' : Frame}

theorem mono (agreement : Agreement constants live mapping frame frame') {wider : Renaming}
    (contained : ∀ allocation counterpart, mapping allocation = some counterpart →
      wider allocation = some counterpart) : Agreement constants live wider frame frame' := by
  refine ⟨agreement.types, agreement.size, agreement.constant, ?_⟩
  intro register slot alive unknown found
  obtain ⟨slot', found', related⟩ := agreement.register register slot alive unknown found
  exact ⟨slot', found', related.mono contained⟩

/-- Both sides define the same register alike. -/
theorem define (agreement : Agreement constants live mapping frame frame')
    {defined defined' : Option (Register × Slot)}
    (related : DefinitionRelation mapping defined defined')
    (varies : ∀ register slot, defined = some (register, slot) →
      constants.lookup register = none) :
    Agreement constants live mapping (frame.defining defined) (frame'.defining defined') := by
  cases related with
  | none => exact agreement
  | some target slot slot' related =>
      refine ⟨agreement.types, ?_, ?_, ?_⟩
      · simp [Frame.defining, Frame.define, agreement.size]
      · intro register value found known looked
        rcases slot_define frame target register slot found looked with
          ⟨rfl, _, _⟩ | ⟨_, before⟩
        · rw [varies register slot rfl] at known
          cases known
        · exact agreement.constant register value found known before
      · intro register found alive unknown looked
        rcases slot_define frame target register slot found looked with
          ⟨rfl, rfl, within⟩ | ⟨different, before⟩
        · refine ⟨slot', ?_, related⟩
          exact slot_define_self frame' register slot' (by rw [agreement.size]; exact within)
        · obtain ⟨found', looked', alike⟩ := agreement.register register found alive unknown before
          refine ⟨found', ?_, alike⟩
          rw [← looked']
          exact slot_define_ne frame' target register slot' different

/-- Only the original defines a register, with its constant or without a reader. -/
theorem defineLeft (agreement : Agreement constants live mapping frame frame')
    {target : Register} {slot : Slot}
    (unread : ¬ live target ∨ ∃ value, constants.lookup target = some value ∧
      slot = .element value)
    (exact' : ∀ value, constants.lookup target = some value → slot = .element value) :
    Agreement constants live mapping (frame.define target slot) frame' := by
  refine ⟨agreement.types, ?_, ?_, ?_⟩
  · simp [Frame.define, agreement.size]
  · intro register value found known looked
    rcases slot_define frame target register slot found looked with ⟨rfl, rfl, _⟩ | ⟨_, before⟩
    · exact exact' value known
    · exact agreement.constant register value found known before
  · intro register found alive unknown looked
    rcases slot_define frame target register slot found looked with ⟨rfl, rfl, _⟩ | ⟨_, before⟩
    · rcases unread with dead | ⟨value, known, _⟩
      · exact absurd alive dead
      · rw [unknown] at known
        cases known
    · exact agreement.register register found alive unknown before

/-! ### What instructions read -/

theorem value (agreement : Agreement constants live mapping frame frame') {operand : Operand}
    {known literal : Literal} (constant : constants.value? operand = some known)
    (read : frame.element operand = .ok literal) : literal = known := by
  cases operand with
  | constant value =>
      cases read
      cases constant
      rfl
  | register register =>
      simp only [Frame.element] at read
      split at read
      · rename_i value found
        cases read
        have same := agreement.constant register known _ constant found
        injection same
      · cases read
      · cases read

theorem element (agreement : Agreement constants live mapping frame frame') {operand : Operand}
    {literal : Literal} (alive : ∀ register, operand.register? = some register → live register)
    (read : frame.element operand = .ok literal) :
    frame'.element (constants.substitute operand) = .ok literal := by
  cases operand with
  | constant value => exact read
  | register register =>
      cases known : constants.lookup register with
      | some value =>
          have constant : constants.value? (.register register) = some value := known
          have same := agreement.value constant read
          subst same
          simp only [Constants.substitute, known, Frame.element]
      | none =>
          simp only [Constants.substitute, known]
          simp only [Frame.element] at read ⊢
          split at read
          · rename_i value found
            cases read
            obtain ⟨slot', found', related⟩ :=
              agreement.register register _ (alive register rfl) known found
            cases related
            rw [found']
          · cases read
          · cases read

theorem pointer (agreement : Agreement constants live mapping frame frame') {register : Register}
    {place : Pointer} (alive : live register) (read : frame.pointer register = .ok place) :
    ∃ place', frame'.pointer register = .ok place' ∧
      mapping place.allocation = some place'.allocation ∧ place'.offset = place.offset := by
  simp only [Frame.pointer] at read
  split at read
  · rename_i found
    cases read
    cases known : constants.lookup register with
    | some value =>
        have impossible := agreement.constant register value _ known found
        cases impossible
    | none =>
        obtain ⟨slot', found', related⟩ := agreement.register register _ alive known found
        cases related with
        | pointer _ place' renamed alike =>
            exact ⟨place', by simp only [Frame.pointer, found'], renamed, alike⟩
  · cases read
  · cases read

theorem pointee (agreement : Agreement constants live mapping frame frame')
    (register : Register) : frame'.pointee register = frame.pointee register := by
  simp only [Frame.pointee, Function.typeOf?, agreement.types]

theorem argument (agreement : Agreement constants live mapping frame frame') {operand : Operand}
    {slot : Slot} (alive : ∀ register, operand.register? = some register → live register)
    (read : frame.argument operand = .ok slot) :
    ∃ slot', frame'.argument (constants.substitute operand) = .ok slot' ∧
      SlotRelation mapping slot slot' := by
  cases operand with
  | constant value =>
      cases read
      exact ⟨.element value, rfl, .element value⟩
  | register register =>
      cases known : constants.lookup register with
      | some value =>
          have same := agreement.constant register value slot known read
          subst same
          exact ⟨.element value, by simp only [Constants.substitute, known, Frame.argument],
            .element value⟩
      | none =>
          simp only [Constants.substitute, known]
          exact agreement.register register slot (alive register rfl) known read

theorem arguments (agreement : Agreement constants live mapping frame frame')
    (operands : List Operand) {slots : List Slot}
    (alive : ∀ register ∈ operands.filterMap Operand.register?, live register)
    (read : operands.mapM frame.argument = .ok slots) :
    ∃ slots', (operands.map constants.substitute).mapM frame'.argument = .ok slots' ∧
      List.Forall₂ (SlotRelation mapping) slots slots' := by
  induction operands generalizing slots with
  | nil =>
      cases read
      exact ⟨[], rfl, .nil⟩
  | cons operand rest inductionHypothesis =>
      rw [List.mapM_cons] at read
      cases first : frame.argument operand with
      | error trap => simp [first, bind, Except.bind] at read
      | ok slot =>
          cases others : rest.mapM frame.argument with
          | error trap => simp [first, others, bind, Except.bind] at read
          | ok remaining =>
              simp only [first, others, bind, Except.bind, pure, Except.pure,
                Except.ok.injEq] at read
              subst read
              obtain ⟨slot', first', related⟩ := agreement.argument
                (by
                  intro register named
                  exact alive register (by simp [named])) first
              obtain ⟨remaining', others', relatedRest⟩ := inductionHypothesis
                (by
                  intro register member
                  refine alive register ?_
                  rw [List.filterMap_cons]
                  split
                  · exact member
                  · exact List.mem_cons_of_mem _ member) others
              refine ⟨slot' :: remaining', ?_, .cons related relatedRest⟩
              rw [List.map_cons, List.mapM_cons]
              simp [first', others', bind, Except.bind, pure, Except.pure]

/-! ### What instructions do -/

variable {memory memory' : Memory} {module module' : Module}

/-- An instruction and its counterpart, with constants in the place of registers, do the
same.  The renaming grows when both allocate. -/
theorem effect (agreement : Agreement constants live mapping frame frame')
    (module module' : Module) (shared : MemoryRelation mapping memory memory') (instruction : Instruction)
    (alive : ∀ register ∈ instruction.uses, live register)
    (addressed : ∀ target name index, instruction = .address target name →
      globalIndex? module name = some index →
      ∃ index', globalIndex? module' name = some index' ∧ mapping index = some index')
    {outcome : Memory × Option (Register × Slot)}
    (done : effect module memory frame instruction = .ok outcome) :
    ∃ wider outcome',
      Machine.effect module' memory' frame' (instruction.mapOperands constants.substitute) =
        .ok outcome' ∧
      (wider = mapping ∨ wider = mapping.extend memory.size memory'.size) ∧
      MemoryRelation wider outcome.1 outcome'.1 ∧
      DefinitionRelation wider outcome.2 outcome'.2 := by
  cases instruction with
  | alloca target dtype count =>
      cases done
      refine ⟨_, _, rfl, .inr rfl, shared.allocate _, .some target _ _ (.pointer _ _ ?_ rfl)⟩
      simp [Memory.nextPointer, Renaming.extend]
  | address target name =>
      simp only [Machine.effect] at done
      cases found : globalIndex? module name with
      | none => simp [found] at done
      | some index =>
          simp only [found] at done
          cases done
          obtain ⟨index', found', renamed⟩ := addressed target name index rfl found
          refine ⟨mapping, (memory', some (target, .pointer ⟨index', 0⟩)), ?_, .inl rfl, shared,
            .some target _ _ (.pointer _ _ renamed rfl)⟩
          simp only [Instruction.mapOperands, Machine.effect, found']
  | offset target base index =>
      obtain ⟨place, placed, done⟩ := ok_of_bind done
      obtain ⟨literal, read, done⟩ := ok_of_bind done
      obtain ⟨dtype, typed, done⟩ := ok_of_bind done
      obtain ⟨moved, shifted, done⟩ := ok_of_bind done
      cases done
      obtain ⟨place', placed', renamed, alike⟩ := agreement.pointer
        (alive base (by simp [Instruction.uses])) placed
      have read' := agreement.element
        (by
          intro register named
          exact alive register (by simp [Instruction.uses, named])) read
      have typed' := agreement.pointee base
      rw [typed] at typed'
      simp only [Pointer.moved] at shifted
      split at shifted
      · rename_i inside
        cases shifted
        let offset := ((place.offset : Int) + literal.toInt64.toInt * dtype.width).toNat
        refine ⟨mapping, (memory', some (target, .pointer ⟨place'.allocation, offset⟩)), ?_,
          .inl rfl, shared, .some target _ _ (.pointer _ _ renamed rfl)⟩
        simp [Instruction.mapOperands, Machine.effect, placed', read', typed', bind, Except.bind,
          Pointer.moved, alike, inside, pure, Except.pure, offset]
      · cases shifted
  | load target pointer =>
      obtain ⟨place, placed, done⟩ := ok_of_bind done
      obtain ⟨dtype, typed, done⟩ := ok_of_bind done
      obtain ⟨image, loaded, done⟩ := ok_of_bind done
      cases done
      obtain ⟨place', placed', renamed, alike⟩ := agreement.pointer
        (alive pointer (by simp [Instruction.uses])) placed
      have typed' := agreement.pointee pointer
      rw [typed] at typed'
      have loaded' := shared.read renamed alike dtype.width
      rw [ok_of_mapError loaded] at loaded'
      refine ⟨mapping, (memory', some (target, .element (Literal.ofImage dtype image))), ?_, .inl rfl,
        shared, .some target _ _ (.element _)⟩
      simp [Instruction.mapOperands, Machine.effect, placed', typed', loaded', bind, Except.bind,
        Except.mapError, pure, Except.pure]
  | store pointer value =>
      obtain ⟨place, placed, done⟩ := ok_of_bind done
      obtain ⟨literal, read, done⟩ := ok_of_bind done
      obtain ⟨_, checked, done⟩ := ok_of_bind done
      cases done
      obtain ⟨place', placed', renamed, alike⟩ := agreement.pointer
        (alive pointer (by simp [Instruction.uses])) placed
      have read' := agreement.element
        (by
          intro register named
          exact alive register (by simp [Instruction.uses, named])) read
      have checked' := shared.check renamed alike literal.bytes.length
      rw [ok_of_mapError checked] at checked'
      refine ⟨mapping, (memory'.put place' literal.bytes, none), ?_, .inl rfl,
        shared.put renamed alike literal.bytes, .none⟩
      simp only [Instruction.mapOperands, Machine.effect, placed', read', checked', bind,
        Except.bind, Except.mapError, pure, Except.pure]
  | binary target op left right =>
      obtain ⟨leftValue, readLeft, done⟩ := ok_of_bind done
      obtain ⟨rightValue, readRight, done⟩ := ok_of_bind done
      obtain ⟨result, computed, done⟩ := ok_of_bind done
      cases done
      have readLeft' := agreement.element
        (by
          intro register named
          exact alive register (by simp [Instruction.uses, named])) readLeft
      have readRight' := agreement.element
        (by
          intro register named
          exact alive register (by simp [Instruction.uses, named])) readRight
      refine ⟨mapping, (memory', some (target, .element result)), ?_, .inl rfl, shared,
        .some target _ _ (.element _)⟩
      simp [Instruction.mapOperands, Machine.effect, readLeft', readRight', computed, bind,
        Except.bind, pure, Except.pure]
  | unary target op operand =>
      obtain ⟨value, read, done⟩ := ok_of_bind done
      obtain ⟨result, computed, done⟩ := ok_of_bind done
      cases done
      have read' := agreement.element
        (by
          intro register named
          exact alive register (by simp [Instruction.uses, named])) read
      refine ⟨mapping, (memory', some (target, .element result)), ?_, .inl rfl, shared,
        .some target _ _ (.element _)⟩
      simp [Instruction.mapOperands, Machine.effect, read', computed, bind, Except.bind, pure,
        Except.pure]
  | compare target op left right =>
      obtain ⟨leftValue, readLeft, done⟩ := ok_of_bind done
      obtain ⟨rightValue, readRight, done⟩ := ok_of_bind done
      obtain ⟨result, computed, done⟩ := ok_of_bind done
      cases done
      have readLeft' := agreement.element
        (by
          intro register named
          exact alive register (by simp [Instruction.uses, named])) readLeft
      have readRight' := agreement.element
        (by
          intro register named
          exact alive register (by simp [Instruction.uses, named])) readRight
      refine ⟨mapping, (memory', some (target, .element (.bool result))), ?_, .inl rfl, shared,
        .some target _ _ (.element _)⟩
      simp [Instruction.mapOperands, Machine.effect, readLeft', readRight', computed, bind,
        Except.bind, pure, Except.pure]
  | cast target operand dtype =>
      obtain ⟨value, read, done⟩ := ok_of_bind done
      cases done
      have read' := agreement.element
        (by
          intro register named
          exact alive register (by simp [Instruction.uses, named])) read
      refine ⟨mapping, (memory', some (target, .element (value.cast dtype))), ?_, .inl rfl, shared,
        .some target _ _ (.element _)⟩
      simp [Instruction.mapOperands, Machine.effect, read', bind, Except.bind, pure, Except.pure]
  | move destination source bytes =>
      obtain ⟨place, placed, done⟩ := ok_of_bind done
      obtain ⟨origin, found, done⟩ := ok_of_bind done
      obtain ⟨image, loaded, done⟩ := ok_of_bind done
      obtain ⟨_, checked, done⟩ := ok_of_bind done
      cases done
      obtain ⟨place', placed', renamed, alike⟩ := agreement.pointer
        (alive destination (by simp [Instruction.uses])) placed
      obtain ⟨origin', found', renamedOrigin, alikeOrigin⟩ := agreement.pointer
        (alive source (by simp [Instruction.uses])) found
      have loaded' := shared.read renamedOrigin alikeOrigin bytes
      rw [ok_of_mapError loaded] at loaded'
      have checked' := shared.check renamed alike image.length
      rw [ok_of_mapError checked] at checked'
      refine ⟨mapping, (memory'.put place' image, none), ?_, .inl rfl,
        shared.put renamed alike image, .none⟩
      simp only [Instruction.mapOperands, Machine.effect, placed', found', loaded', checked', bind,
        Except.bind, Except.mapError, pure, Except.pure]
  | call name arguments =>
      cases done
      exact ⟨mapping, _, rfl, .inl rfl, shared, .none⟩

/-- Arithmetic that fails on one side fails on the other. -/
theorem miscomputes (agreement : Agreement constants live mapping frame frame')
    {instruction : Instruction} (alive : ∀ register ∈ instruction.uses, live register)
    {cause : Error} (failed : Miscomputes frame cause instruction) :
    Miscomputes frame' cause (instruction.mapOperands constants.substitute) := by
  cases failed with
  | binary target op left right leftValue rightValue readLeft readRight failed =>
      refine .binary target op _ _ leftValue rightValue (agreement.element ?_ readLeft)
        (agreement.element ?_ readRight) failed
      · intro register named
        exact alive register (by simp [Instruction.uses, named])
      · intro register named
        exact alive register (by simp [Instruction.uses, named])
  | unary target op operand value read failed =>
      refine .unary target op _ value (agreement.element ?_ read) failed
      intro register named
      exact alive register (by simp [Instruction.uses, named])
  | compare target op left right leftValue rightValue readLeft readRight failed =>
      refine .compare target op _ _ leftValue rightValue (agreement.element ?_ readLeft)
        (agreement.element ?_ readRight) failed
      · intro register named
        exact alive register (by simp [Instruction.uses, named])
      · intro register named
        exact alive register (by simp [Instruction.uses, named])

/-- An instruction whose result is known computes just that. -/
theorem evaluated (agreement : Agreement constants live mapping frame frame')
    {instruction : Instruction} {target : Register} {value : Literal}
    (known : constants.evaluate? instruction = some (target, value))
    {outcome : Memory × Option (Register × Slot)}
    (done : Machine.effect module memory frame instruction = .ok outcome) :
    outcome = (memory, some (target, .element value)) := by
  cases instruction with
  | binary register op left right =>
      obtain ⟨leftValue, readLeft, done⟩ := ok_of_bind done
      obtain ⟨rightValue, readRight, done⟩ := ok_of_bind done
      obtain ⟨result, computed, done⟩ := ok_of_bind done
      cases done
      simp only [Constants.evaluate?, Option.bind_eq_bind, Option.bind_eq_some_iff] at known
      obtain ⟨leftKnown, constantLeft, rightKnown, constantRight, known, evaluated, same⟩ := known
      cases same
      rw [agreement.value constantLeft readLeft, agreement.value constantRight readRight]
        at computed
      rw [ok_of_mapError computed] at evaluated
      cases evaluated
      rfl
  | unary register op operand =>
      obtain ⟨operandValue, read, done⟩ := ok_of_bind done
      obtain ⟨result, computed, done⟩ := ok_of_bind done
      cases done
      simp only [Constants.evaluate?, Option.bind_eq_bind, Option.bind_eq_some_iff] at known
      obtain ⟨operandKnown, constant, known, evaluated, same⟩ := known
      cases same
      rw [agreement.value constant read] at computed
      rw [ok_of_mapError computed] at evaluated
      cases evaluated
      rfl
  | compare register op left right =>
      obtain ⟨leftValue, readLeft, done⟩ := ok_of_bind done
      obtain ⟨rightValue, readRight, done⟩ := ok_of_bind done
      obtain ⟨result, computed, done⟩ := ok_of_bind done
      cases done
      simp only [Constants.evaluate?, Option.bind_eq_bind, Option.bind_eq_some_iff] at known
      obtain ⟨leftKnown, constantLeft, rightKnown, constantRight, known, evaluated, same⟩ := known
      cases same
      rw [agreement.value constantLeft readLeft, agreement.value constantRight readRight]
        at computed
      rw [ok_of_mapError computed] at evaluated
      cases evaluated
      rfl
  | cast register operand dtype =>
      obtain ⟨operandValue, read, done⟩ := ok_of_bind done
      cases done
      simp only [Constants.evaluate?, Option.bind_eq_bind, Option.bind_eq_some_iff] at known
      obtain ⟨operandKnown, constant, same⟩ := known
      cases same
      rw [agreement.value constant read]
  | alloca _ _ _ | address _ _ | offset _ _ _ | load _ _ | store _ _ | move _ _ _ | call _ _ =>
      cases known

/-- An instruction whose result is known does not fail. -/
theorem evaluated_not_miscomputes (agreement : Agreement constants live mapping frame frame')
    {instruction : Instruction} {found : Register × Literal}
    (known : constants.evaluate? instruction = some found) {cause : Error}
    (failed : Miscomputes frame cause instruction) : False := by
  cases failed with
  | binary target op left right leftValue rightValue readLeft readRight failed =>
      simp only [Constants.evaluate?, Option.bind_eq_bind, Option.bind_eq_some_iff] at known
      obtain ⟨leftKnown, constantLeft, rightKnown, constantRight, known, evaluated, _⟩ := known
      rw [← agreement.value constantLeft readLeft, ← agreement.value constantRight readRight,
        failed] at evaluated
      cases evaluated
  | unary target op operand value read failed =>
      simp only [Constants.evaluate?, Option.bind_eq_bind, Option.bind_eq_some_iff] at known
      obtain ⟨operandKnown, constant, known, evaluated, _⟩ := known
      rw [← agreement.value constant read, failed] at evaluated
      cases evaluated
  | compare target op left right leftValue rightValue readLeft readRight failed =>
      simp only [Constants.evaluate?, Option.bind_eq_bind, Option.bind_eq_some_iff] at known
      obtain ⟨leftKnown, constantLeft, rightKnown, constantRight, known, evaluated, _⟩ := known
      rw [← agreement.value constantLeft readLeft, ← agreement.value constantRight readRight,
        failed] at evaluated
      cases evaluated

end Agreement
end TensorGraph.Optimize

/-
Effects of instructions.

Every instruction but a call reads the frame and the memory, and either traps or
changes the memory and defines at most one register.  `effect` says which; one
transition of the machine is an effect, a call, or a terminator.
-/

import Mathlib
import TensorGraph.Machine.Step

namespace TensorGraph.Machine

open Code Execution

/-! ### Sizes of memory

Allocating adds one allocation at the end and releasing drops the last ones, so
the number of an allocation never changes while it lives.
-/

theorem getElem?_release (memory : Memory) (floor allocation : Nat) :
    (memory.release floor).allocations[allocation]? =
      if allocation < floor then memory.allocations[allocation]? else none := by
  simp only [Memory.release, Array.shrink_eq_take, Array.take, Array.getElem?_extract, Nat.zero_add,
    Nat.sub_zero]
  by_cases kept : allocation < floor
  · by_cases within : allocation < memory.allocations.size
    · rw [if_pos (by omega), if_pos kept]
    · rw [if_neg (by omega), if_pos kept, Array.getElem?_eq_none (by omega)]
  · rw [if_neg (by omega), if_neg kept]

theorem size_release {memory : Memory} {floor : Nat} (within : floor ≤ memory.size) :
    (memory.release floor).size = floor := by
  simp only [Memory.size] at within
  simp [Memory.release, Memory.size, Nat.min_eq_left within]

theorem size_allocate (memory : Memory) (image : Array UInt8) :
    (memory.allocate image).size = memory.size + 1 := by
  simp [Memory.allocate, Memory.size]

namespace Memory

/-- The sizes of the allocations in bytes. -/
def sizes (memory : Memory) : List Nat :=
  memory.allocations.toList.map Array.size

theorem length_sizes (memory : Memory) : memory.sizes.length = memory.size := by
  rw [sizes, List.length_map, Array.length_toList, size]

theorem sizes_allocate (memory : Memory) (image : Array UInt8) :
    (memory.allocate image).sizes = memory.sizes ++ [image.size] := by
  rw [sizes, allocate, Array.toList_push, List.map_append, sizes, List.map_singleton]

@[simp]
theorem sizes_put (memory : Memory) (pointer : Pointer) (bytes : List UInt8) :
    (memory.put pointer bytes).sizes = memory.sizes := by
  rw [sizes, sizes, ← Array.toList_map, map_size_put, Array.toList_map]

theorem sizes_release (memory : Memory) (count : Nat) :
    (memory.release count).sizes = memory.sizes.take count := by
  simp [sizes, release, List.map_take]

end Memory

/-! ### Effects -/

theorem ok_of_bind {ε α β : Type} {first : Except ε α} {rest : α → Except ε β} {result : β}
    (done : (first >>= rest) = .ok result) :
    ∃ value, first = .ok value ∧ rest value = .ok result := by
  cases first with
  | error cause => cases done
  | ok value => exact ⟨value, rfl, done⟩

theorem error_of_bind {ε α β : Type} {first : Except ε α} {rest : α → Except ε β} {cause : ε}
    (failed : (first >>= rest) = .error cause) :
    first = .error cause ∨ ∃ value, first = .ok value ∧ rest value = .error cause := by
  cases first with
  | error other =>
      cases failed
      exact .inl rfl
  | ok value => exact .inr ⟨value, rfl, failed⟩

theorem ok_of_mapError {ε δ α : Type} {change : ε → δ} {first : Except ε α} {result : α}
    (done : first.mapError change = .ok result) : first = .ok result := by
  cases first with
  | error cause => cases done
  | ok value =>
      cases done
      rfl

/-- What an instruction other than a call does: the memory afterwards, and the register
that it defines. -/
def effect (module : Module) (memory : Memory) (frame : Frame) :
    Instruction → Except Trap (Memory × Option (Register × Slot))
  | .alloca target dtype count =>
      .ok (memory.allocate (Array.replicate (dtype.width * count) 0),
        some (target, .pointer memory.nextPointer))
  | .address target name =>
      match globalIndex? module name with
      | some index =>
          .ok (memory, some (target, .pointer
            { allocation := index
              offset := 0 }))
      | none => .error (.unknownGlobal name)
  | .offset target base index => do
      let pointer ← frame.pointer base
      let index ← frame.element index
      let dtype ← frame.pointee base
      let moved ← pointer.moved index.toInt64.toInt dtype.width
      return (memory, some (target, .pointer moved))
  | .load target pointer => do
      let place ← frame.pointer pointer
      let dtype ← frame.pointee pointer
      let image ← (memory.read place dtype.width).mapError Trap.access
      return (memory, some (target, .element (Literal.ofImage dtype image)))
  | .store pointer value => do
      let place ← frame.pointer pointer
      let value ← frame.element value
      (memory.check place value.bytes.length).mapError Trap.access
      return (memory.put place value.bytes, none)
  | .binary target op left right => do
      let left ← frame.element left
      let right ← frame.element right
      let result ← (left.binary op right).mapError Trap.arithmetic
      return (memory, some (target, .element result))
  | .unary target op operand => do
      let operand ← frame.element operand
      let result ← (operand.unary op).mapError Trap.arithmetic
      return (memory, some (target, .element result))
  | .compare target op left right => do
      let left ← frame.element left
      let right ← frame.element right
      let result ← (left.compare op right).mapError Trap.arithmetic
      return (memory, some (target, .element (.bool result)))
  | .cast target operand dtype => do
      let operand ← frame.element operand
      return (memory, some (target, .element (operand.cast dtype)))
  | .move destination source bytes => do
      let destination ← frame.pointer destination
      let source ← frame.pointer source
      let image ← (memory.read source bytes).mapError Trap.access
      (memory.check destination image.length).mapError Trap.access
      return (memory.put destination image, none)
  | .call _ _ => .ok (memory, none)

def Instruction.isCall : Instruction → Bool
  | .call _ _ => true
  | _ => false

/-- The frame with the register that an instruction defined. -/
def Frame.defining (frame : Frame) : Option (Register × Slot) → Frame
  | some (register, slot) => frame.define register slot
  | none => frame

@[simp]
theorem function_defining (frame : Frame) (defined : Option (Register × Slot)) :
    (frame.defining defined).function = frame.function := by
  rcases defined with _ | ⟨register, slot⟩ <;> rfl

@[simp]
theorem block_defining (frame : Frame) (defined : Option (Register × Slot)) :
    (frame.defining defined).block = frame.block := by
  rcases defined with _ | ⟨register, slot⟩ <;> rfl

@[simp]
theorem pending_defining (frame : Frame) (defined : Option (Register × Slot)) :
    (frame.defining defined).pending = frame.pending := by
  rcases defined with _ | ⟨register, slot⟩ <;> rfl

@[simp]
theorem floor_defining (frame : Frame) (defined : Option (Register × Slot)) :
    (frame.defining defined).floor = frame.floor := by
  rcases defined with _ | ⟨register, slot⟩ <;> rfl

@[simp]
theorem registers_defining_pending (frame : Frame) (pending : List Instruction)
    (defined : Option (Register × Slot)) :
    (Frame.defining { frame with pending := pending } defined).registers =
      (frame.defining defined).registers := by
  rcases defined with _ | ⟨register, slot⟩ <;> rfl

/-- The state after an effect. -/
def State.after (state : State) (outcome : Memory × Option (Register × Slot)) : State :=
  { state with
    memory := outcome.1
    frame := state.frame.defining outcome.2 }

/-- The state when an instruction has been taken from the block. -/
def State.fetched (state : State) (rest : List Instruction) : State :=
  { state with
    frame := { state.frame with pending := rest }
    steps := state.steps + 1 }

/-- Executing an instruction other than a call is its effect. -/
theorem execute_eq_effect (program : Program) (instruction : Instruction) (state : State)
    (plain : Instruction.isCall instruction = false) :
    execute program instruction state =
      match effect program.module state.memory state.frame instruction with
      | .ok outcome => .ok () (state.after outcome)
      | .error trap => .error trap state := by
  cases instruction with
  | alloca target dtype count => rfl
  | address target name =>
      simp only [execute, effect]
      cases globalIndex? program.module name <;> rfl
  | offset target base index =>
      simp only [execute, effect, bind, EStateM.bind, Except.bind, ask]
      cases state.frame.pointer base <;> simp only
      cases state.frame.element index <;> simp only
      cases state.frame.pointee base <;> simp only
      rename_i place value dtype
      cases place.moved value.toInt64.toInt dtype.width <;> rfl
  | load target pointer =>
      simp only [execute, effect, bind, EStateM.bind, Except.bind, ask]
      cases state.frame.pointer pointer <;> simp only
      cases state.frame.pointee pointer <;> simp only [Execution.read]
      rename_i place dtype
      cases state.memory.read place dtype.width <;> rfl
  | store pointer value =>
      simp only [execute, effect, bind, EStateM.bind, Except.bind, ask]
      cases state.frame.pointer pointer <;> simp only
      cases state.frame.element value <;> simp only [Execution.write]
      rename_i place value
      cases state.memory.check place value.bytes.length <;> rfl
  | binary target op left right =>
      simp only [execute, effect, bind, EStateM.bind, Except.bind, ask]
      cases state.frame.element left <;> simp only
      rename_i left
      cases state.frame.element right <;> simp only
      rename_i right
      cases left.binary op right <;> rfl
  | unary target op operand =>
      simp only [execute, effect, bind, EStateM.bind, Except.bind, ask]
      cases state.frame.element operand <;> simp only
      rename_i operand
      cases operand.unary op <;> rfl
  | compare target op left right =>
      simp only [execute, effect, bind, EStateM.bind, Except.bind, ask]
      cases state.frame.element left <;> simp only
      rename_i left
      cases state.frame.element right <;> simp only
      rename_i right
      cases left.compare op right <;> rfl
  | cast target operand dtype =>
      simp only [execute, effect, bind, EStateM.bind, Except.bind, ask]
      cases state.frame.element operand <;> rfl
  | move destination source bytes =>
      simp only [execute, effect, bind, EStateM.bind, Except.bind, ask]
      cases state.frame.pointer destination <;> simp only
      rename_i destination
      cases state.frame.pointer source <;> simp only [Execution.read]
      rename_i source
      cases state.memory.read source bytes <;> simp only [Except.mapError, Execution.write]
      rename_i image
      cases state.memory.check destination image.length <;> rfl
  | call name arguments => simp [Instruction.isCall] at plain

/-- An instruction other than a call succeeds exactly when it has an effect. -/
theorem execute_ok {program : Program} {instruction : Instruction} {state next : State}
    (plain : Instruction.isCall instruction = false) :
    execute program instruction state = .ok () next ↔
      ∃ outcome, effect program.module state.memory state.frame instruction = .ok outcome ∧
        next = state.after outcome := by
  rw [execute_eq_effect program instruction state plain]
  cases effect program.module state.memory state.frame instruction with
  | error trap => simp
  | ok outcome => simp [eq_comm]

/-! ### What an effect leaves alone -/

/-- An instruction without side effects defines its target, and at most allocates. -/
theorem effect_of_pure {module : Module} {memory : Memory} {frame : Frame}
    {instruction : Instruction} {target : Register} (defines : instruction.target? = some target)
    {outcome : Memory × Option (Register × Slot)}
    (done : effect module memory frame instruction = .ok outcome) :
    (outcome.1 = memory ∨ ∃ image, outcome.1 = memory.allocate image) ∧
      ∃ slot, outcome.2 = some (target, slot) := by
  cases instruction with
  | alloca register dtype count =>
      cases defines
      cases done
      exact ⟨.inr ⟨_, rfl⟩, _, rfl⟩
  | address register name =>
      cases defines
      simp only [effect] at done
      split at done <;> cases done
      exact ⟨.inl rfl, _, rfl⟩
  | offset register base index =>
      cases defines
      obtain ⟨_, _, done⟩ := ok_of_bind done
      obtain ⟨_, _, done⟩ := ok_of_bind done
      obtain ⟨_, _, done⟩ := ok_of_bind done
      obtain ⟨_, _, done⟩ := ok_of_bind done
      cases done
      exact ⟨.inl rfl, _, rfl⟩
  | load register pointer =>
      cases defines
      obtain ⟨_, _, done⟩ := ok_of_bind done
      obtain ⟨_, _, done⟩ := ok_of_bind done
      obtain ⟨_, _, done⟩ := ok_of_bind done
      cases done
      exact ⟨.inl rfl, _, rfl⟩
  | binary register op left right =>
      cases defines
      obtain ⟨_, _, done⟩ := ok_of_bind done
      obtain ⟨_, _, done⟩ := ok_of_bind done
      obtain ⟨_, _, done⟩ := ok_of_bind done
      cases done
      exact ⟨.inl rfl, _, rfl⟩
  | unary register op operand =>
      cases defines
      obtain ⟨_, _, done⟩ := ok_of_bind done
      obtain ⟨_, _, done⟩ := ok_of_bind done
      cases done
      exact ⟨.inl rfl, _, rfl⟩
  | compare register op left right =>
      cases defines
      obtain ⟨_, _, done⟩ := ok_of_bind done
      obtain ⟨_, _, done⟩ := ok_of_bind done
      obtain ⟨_, _, done⟩ := ok_of_bind done
      cases done
      exact ⟨.inl rfl, _, rfl⟩
  | cast register operand dtype =>
      cases defines
      obtain ⟨_, _, done⟩ := ok_of_bind done
      cases done
      exact ⟨.inl rfl, _, rfl⟩
  | store _ _ | move _ _ _ | call _ _ => cases defines

/-- An instruction adds at most an allocation. -/
theorem sizes_of_effect {module : Module} {memory : Memory} {frame : Frame}
    {instruction : Instruction} {outcome : Memory × Option (Register × Slot)}
    (done : effect module memory frame instruction = .ok outcome) :
    memory.sizes <+: outcome.1.sizes := by
  cases named : instruction.target? with
  | some target =>
      rcases (effect_of_pure named done).1 with same | ⟨image, grown⟩
      · rw [same]
      · rw [grown, Memory.sizes_allocate]
        exact List.prefix_append _ _
  | none =>
      cases instruction with
      | store pointer value =>
          obtain ⟨_, _, done⟩ := ok_of_bind done
          obtain ⟨_, _, done⟩ := ok_of_bind done
          obtain ⟨_, _, done⟩ := ok_of_bind done
          cases done
          simp
      | move destination source bytes =>
          obtain ⟨_, _, done⟩ := ok_of_bind done
          obtain ⟨_, _, done⟩ := ok_of_bind done
          obtain ⟨_, _, done⟩ := ok_of_bind done
          obtain ⟨_, _, done⟩ := ok_of_bind done
          cases done
          simp
      | call name arguments =>
          cases done
          exact List.prefix_refl _
      | alloca _ _ _ | address _ _ | offset _ _ _ | load _ _ | binary _ _ _ _ | unary _ _ _
      | compare _ _ _ _ | cast _ _ _ => cases named

/-- No instruction but a return releases memory. -/
theorem size_of_effect {module : Module} {memory : Memory} {frame : Frame}
    {instruction : Instruction} {outcome : Memory × Option (Register × Slot)}
    (done : effect module memory frame instruction = .ok outcome) :
    memory.size ≤ outcome.1.size := by
  rw [← Memory.length_sizes, ← Memory.length_sizes]
  exact (sizes_of_effect done).length_le

/-- What an effect defines is the target of the instruction. -/
theorem target_of_effect {module : Module} {memory : Memory} {frame : Frame}
    {instruction : Instruction} {outcome : Memory × Option (Register × Slot)}
    (done : effect module memory frame instruction = .ok outcome)
    {register : Register} {slot : Slot} (defined : outcome.2 = some (register, slot)) :
    instruction.target? = some register := by
  cases named : instruction.target? with
  | some target =>
      obtain ⟨_, found, same⟩ := effect_of_pure named done
      rw [defined] at same
      cases same
      rfl
  | none =>
      cases instruction with
      | store pointer value =>
          obtain ⟨_, _, done⟩ := ok_of_bind done
          obtain ⟨_, _, done⟩ := ok_of_bind done
          obtain ⟨_, _, done⟩ := ok_of_bind done
          cases done
          cases defined
      | move destination source bytes =>
          obtain ⟨_, _, done⟩ := ok_of_bind done
          obtain ⟨_, _, done⟩ := ok_of_bind done
          obtain ⟨_, _, done⟩ := ok_of_bind done
          obtain ⟨_, _, done⟩ := ok_of_bind done
          cases done
          cases defined
      | call name arguments =>
          cases done
          cases defined
      | alloca _ _ _ | address _ _ | offset _ _ _ | load _ _ | binary _ _ _ _ | unary _ _ _
      | compare _ _ _ _ | cast _ _ _ => cases named

/-! ### Failing arithmetic -/

theorem slot_ne_arithmetic (frame : Frame) (register : Register) (cause : Error) :
    frame.slot register ≠ .error (.arithmetic cause) := by
  unfold Frame.slot
  split <;> simp

theorem element_ne_arithmetic (frame : Frame) (operand : Operand) (cause : Error) :
    frame.element operand ≠ .error (.arithmetic cause) := by
  cases operand with
  | constant value => simp [Frame.element]
  | register register =>
      simp only [Frame.element]
      split
      · simp
      · simp
      · rename_i trap failed
        intro same
        cases same
        exact slot_ne_arithmetic frame register cause failed

theorem pointer_ne_arithmetic (frame : Frame) (register : Register) (cause : Error) :
    frame.pointer register ≠ .error (.arithmetic cause) := by
  simp only [Frame.pointer]
  split
  · simp
  · simp
  · rename_i trap failed
    intro same
    cases same
    exact slot_ne_arithmetic frame register cause failed

theorem pointee_ne_arithmetic (frame : Frame) (register : Register) (cause : Error) :
    frame.pointee register ≠ .error (.arithmetic cause) := by
  simp only [Frame.pointee]
  split <;> simp

theorem mapError_access_ne_arithmetic {α : Type} (result : Except AccessFault α) (cause : Error) :
    result.mapError Trap.access ≠ .error (.arithmetic cause) := by
  cases result <;> simp [Except.mapError]

/-- How an instruction fails by arithmetic: its operands are read, and the operation on
them fails. -/
inductive Miscomputes (frame : Frame) (cause : Error) : Instruction → Prop where
  | binary (target : Register) (op : BinaryOp) (left right : Operand)
      (leftValue rightValue : Literal) (readLeft : frame.element left = .ok leftValue)
      (readRight : frame.element right = .ok rightValue)
      (failed : leftValue.binary op rightValue = .error cause) :
      Miscomputes frame cause (.binary target op left right)
  | unary (target : Register) (op : UnaryOp) (operand : Operand) (value : Literal)
      (read : frame.element operand = .ok value) (failed : value.unary op = .error cause) :
      Miscomputes frame cause (.unary target op operand)
  | compare (target : Register) (op : CompareOp) (left right : Operand)
      (leftValue rightValue : Literal) (readLeft : frame.element left = .ok leftValue)
      (readRight : frame.element right = .ok rightValue)
      (failed : leftValue.compare op rightValue = .error cause) :
      Miscomputes frame cause (.compare target op left right)

theorem effect_of_miscomputes (module : Module) (memory : Memory) {frame : Frame} {cause : Error}
    {instruction : Instruction} (miscomputes : Miscomputes frame cause instruction) :
    effect module memory frame instruction = .error (.arithmetic cause) := by
  cases miscomputes with
  | binary target op left right leftValue rightValue readLeft readRight failed =>
      simp only [effect, bind, Except.bind, readLeft, readRight, failed, Except.mapError]
  | unary target op operand value read failed =>
      simp only [effect, bind, Except.bind, read, failed, Except.mapError]
  | compare target op left right leftValue rightValue readLeft readRight failed =>
      simp only [effect, bind, Except.bind, readLeft, readRight, failed, Except.mapError]

private theorem arithmetic_of_mapError {α : Type} {result : Except Error α} {cause : Error}
    (failed : result.mapError Trap.arithmetic = .error (.arithmetic cause)) :
    result = .error cause := by
  cases result with
  | error other =>
      cases failed
      rfl
  | ok value => cases failed

theorem miscomputes_of_effect {module : Module} {memory : Memory} {frame : Frame} {cause : Error}
    {instruction : Instruction}
    (failed : effect module memory frame instruction = .error (.arithmetic cause)) :
    Miscomputes frame cause instruction := by
  cases instruction with
  | alloca target dtype count => cases failed
  | address target name =>
      simp only [effect] at failed
      split at failed <;> cases failed
  | offset target base index =>
      rcases error_of_bind failed with failed | ⟨place, _, failed⟩
      · exact absurd failed (pointer_ne_arithmetic _ _ _)
      rcases error_of_bind failed with failed | ⟨value, _, failed⟩
      · exact absurd failed (element_ne_arithmetic _ _ _)
      rcases error_of_bind failed with failed | ⟨dtype, _, failed⟩
      · exact absurd failed (pointee_ne_arithmetic _ _ _)
      rcases error_of_bind failed with failed | ⟨moved, _, failed⟩
      · simp only [Pointer.moved] at failed
        split at failed <;> cases failed
      · cases failed
  | load target pointer =>
      rcases error_of_bind failed with failed | ⟨place, _, failed⟩
      · exact absurd failed (pointer_ne_arithmetic _ _ _)
      rcases error_of_bind failed with failed | ⟨dtype, _, failed⟩
      · exact absurd failed (pointee_ne_arithmetic _ _ _)
      rcases error_of_bind failed with failed | ⟨image, _, failed⟩
      · exact absurd failed (mapError_access_ne_arithmetic _ _)
      · cases failed
  | store pointer value =>
      rcases error_of_bind failed with failed | ⟨place, _, failed⟩
      · exact absurd failed (pointer_ne_arithmetic _ _ _)
      rcases error_of_bind failed with failed | ⟨literal, _, failed⟩
      · exact absurd failed (element_ne_arithmetic _ _ _)
      rcases error_of_bind failed with failed | ⟨_, _, failed⟩
      · exact absurd failed (mapError_access_ne_arithmetic _ _)
      · cases failed
  | binary target op left right =>
      rcases error_of_bind failed with failed | ⟨leftValue, readLeft, failed⟩
      · exact absurd failed (element_ne_arithmetic _ _ _)
      rcases error_of_bind failed with failed | ⟨rightValue, readRight, failed⟩
      · exact absurd failed (element_ne_arithmetic _ _ _)
      rcases error_of_bind failed with failed | ⟨result, _, failed⟩
      · exact .binary target op left right leftValue rightValue readLeft readRight
          (arithmetic_of_mapError failed)
      · cases failed
  | unary target op operand =>
      rcases error_of_bind failed with failed | ⟨value, read, failed⟩
      · exact absurd failed (element_ne_arithmetic _ _ _)
      rcases error_of_bind failed with failed | ⟨result, _, failed⟩
      · exact .unary target op operand value read (arithmetic_of_mapError failed)
      · cases failed
  | compare target op left right =>
      rcases error_of_bind failed with failed | ⟨leftValue, readLeft, failed⟩
      · exact absurd failed (element_ne_arithmetic _ _ _)
      rcases error_of_bind failed with failed | ⟨rightValue, readRight, failed⟩
      · exact absurd failed (element_ne_arithmetic _ _ _)
      rcases error_of_bind failed with failed | ⟨result, _, failed⟩
      · exact .compare target op left right leftValue rightValue readLeft readRight
          (arithmetic_of_mapError failed)
      · cases failed
  | cast target operand dtype =>
      rcases error_of_bind failed with failed | ⟨value, _, failed⟩
      · exact absurd failed (element_ne_arithmetic _ _ _)
      · cases failed
  | move destination source bytes =>
      rcases error_of_bind failed with failed | ⟨place, _, failed⟩
      · exact absurd failed (pointer_ne_arithmetic _ _ _)
      rcases error_of_bind failed with failed | ⟨origin, _, failed⟩
      · exact absurd failed (pointer_ne_arithmetic _ _ _)
      rcases error_of_bind failed with failed | ⟨image, _, failed⟩
      · exact absurd failed (mapError_access_ne_arithmetic _ _)
      rcases error_of_bind failed with failed | ⟨_, _, failed⟩
      · exact absurd failed (mapError_access_ne_arithmetic _ _)
      · cases failed
  | call name arguments => cases failed

end TensorGraph.Machine

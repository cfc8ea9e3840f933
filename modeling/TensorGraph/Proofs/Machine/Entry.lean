/-
Entering a function.

The arguments of a call are laid behind the globals, and the parameters of the
function point at them.  Its first block then begins with a prologue, which
obtains memory and takes addresses of globals.  What was in memory stays the
front of it.
-/

import TensorGraph.Proofs.Machine.Call
import TensorGraph.Proofs.Machine.Image
import TensorGraph.Proofs.Optimize.WellFormed

namespace TensorGraph

open Code Machine
open Optimize (targets)

/-! ### Buffers -/

/-- Memory with more allocations behind those that it has. -/
def Machine.Memory.extend (memory : Memory) (images : List (Array UInt8)) : Memory :=
  { allocations := memory.allocations ++ images.toArray }

/-- Pointers to allocations that stand one after the other. -/
def Machine.pointersFrom (next : Nat) : Nat → List Slot
  | 0 => []
  | count + 1 => .pointer ⟨next, 0⟩ :: pointersFrom (next + 1) count

namespace Machine

@[simp]
theorem length_pointersFrom (next count : Nat) : (pointersFrom next count).length = count := by
  induction count generalizing next with
  | zero => rfl
  | succ count ih => rw [pointersFrom, List.length_cons, ih]

theorem getElem?_pointersFrom {next count position : Nat} (within : position < count) :
    (pointersFrom next count)[position]? = some (.pointer ⟨next + position, 0⟩) := by
  induction count generalizing next position with
  | zero => cases within
  | succ count ih =>
      cases position with
      | zero => rfl
      | succ position =>
          rw [pointersFrom, List.getElem?_cons_succ, ih (Nat.lt_of_succ_lt_succ within)]
          congr 3
          omega

namespace Memory

variable (memory : Memory)

@[simp]
theorem size_extend (images : List (Array UInt8)) :
    (memory.extend images).size = memory.size + images.length := by
  simp [extend, size]

theorem extend_nil : memory.extend [] = memory := by
  simp [extend]

theorem extend_cons (image : Array UInt8) (images : List (Array UInt8)) :
    memory.extend (image :: images) = (memory.allocate image).extend images := by
  simp [extend, allocate]

theorem extend_extend (images images' : List (Array UInt8)) :
    (memory.extend images).extend images' = memory.extend (images ++ images') := by
  simp [extend]

theorem getElem?_extend_of_lt (images : List (Array UInt8)) {allocation : Nat}
    (within : allocation < memory.size) :
    (memory.extend images).allocations[allocation]? = memory.allocations[allocation]? :=
  Array.getElem?_append_left within

theorem getElem?_extend_add (images : List (Array UInt8)) (position : Nat) :
    (memory.extend images).allocations[memory.size + position]? = images[position]? := by
  unfold extend size
  rw [Array.getElem?_append_right (Nat.le_add_right _ _), Nat.add_sub_cancel_left]
  exact List.getElem?_toArray

theorem release_extend (images : List (Array UInt8)) :
    (memory.extend images).release memory.size = memory := by
  simp [extend, release, size]

end Memory
end Machine

/-- Buffers of the types of the parameters can be laid into memory. -/
theorem laid_buffers {function : Function} {buffers : List Storage} {parameters : List Register}
    (typed : List.Forall₂ (fun (buffer : Storage) parameter =>
      function.typeOf? parameter = some (.pointer buffer.dtype)) buffers parameters)
    (memory : Memory) :
    Laid function ((buffers.map Argument.buffer).zip parameters) memory
      (pointersFrom memory.size buffers.length) (memory.extend (buffers.map Storage.image)) := by
  induction typed generalizing memory with
  | nil =>
      rw [List.map_nil, List.map_nil, Memory.extend_nil]
      exact .done memory
  | @cons buffer parameter buffers parameters head tail ih =>
      have further := ih (memory.allocate buffer.image)
      have next : (memory.allocate buffer.image).size = memory.size + 1 := by
        simp [Memory.allocate, Memory.size]
      rw [next] at further
      rw [List.map_cons, List.map_cons, Memory.extend_cons]
      exact .buffer buffer parameter _ memory _ _ head further

/-! ### Parameters -/

namespace Machine

/-- Registers that are filled one after the other. -/
theorem bind_apart {registers : Array (Option Slot)} {pairs : List (Register × Slot)}
    (apart : (pairs.map Prod.fst).Nodup) (within : ∀ pair ∈ pairs, pair.1 < registers.size) :
    ∃ bound, Frame.bind registers pairs = .ok bound ∧ bound.size = registers.size ∧
      ∀ pair ∈ pairs, bound[pair.1]? = some (some pair.2) := by
  suffices more : ∃ bound, Frame.bind registers pairs = .ok bound ∧ bound.size = registers.size ∧
      (∀ pair ∈ pairs, bound[pair.1]? = some (some pair.2)) ∧
      ∀ register ∉ pairs.map Prod.fst, bound[register]? = registers[register]? by
    obtain ⟨bound, done, size, held, -⟩ := more
    exact ⟨bound, done, size, held⟩
  induction pairs generalizing registers with
  | nil => exact ⟨registers, rfl, rfl, by simp, fun _ _ => rfl⟩
  | cons pair rest ih =>
      obtain ⟨parameter, slot⟩ := pair
      have inside : parameter < registers.size := within (parameter, slot) List.mem_cons_self
      rw [List.map_cons, List.nodup_cons] at apart
      obtain ⟨bound, done, size, held, others⟩ :=
        @ih (registers.setIfInBounds parameter (some slot)) apart.2 (by
          intro pair member
          rw [Array.size_setIfInBounds]
          exact within pair (List.mem_cons_of_mem _ member))
      refine ⟨bound, ?_, size.trans Array.size_setIfInBounds, ?_, ?_⟩
      · rw [Frame.bind, if_pos inside]
        exact done
      · intro pair member
        rcases List.mem_cons.mp member with rfl | member
        · rw [others parameter apart.1]
          simp [inside]
        · exact held pair member
      · intro register outside
        rw [List.map_cons, List.mem_cons, not_or] at outside
        rw [others register outside.2, Array.getElem?_setIfInBounds_ne (Ne.symm outside.1)]

/-- A function whose parameters are its first registers is entered. -/
theorem enter_ok {function : Function} {entry : Block} {blocks : List Block} {count : Nat}
    (begins : function.blocks = entry :: blocks)
    (parameters : function.parameters = List.range count)
    (within : count ≤ function.registerTypes.size) (next floor : Nat) :
    ∃ registers, Frame.enter function (pointersFrom next count) floor =
        .ok
          { function := function
            registers := registers
            block := entry
            pending := entry.instructions
            floor := floor } ∧
      registers.size = function.registerTypes.size ∧
      ∀ register < count, registers[register]? = some (some (.pointer ⟨next + register, 0⟩)) := by
  have firsts : ((List.range count).zip (pointersFrom next count)).map Prod.fst = List.range count :=
    List.map_fst_zip (by simp)
  obtain ⟨registers, done, size, held⟩ := @bind_apart
    (Array.replicate function.registerTypes.size none)
    ((List.range count).zip (pointersFrom next count))
    (by
      rw [firsts]
      exact List.nodup_range)
    (by
      intro pair member
      have member' : pair.1 ∈ List.range count := (List.of_mem_zip member).1
      rw [Array.size_replicate]
      exact Nat.lt_of_lt_of_le (List.mem_range.mp member') within)
  refine ⟨registers, ?_, size.trans Array.size_replicate, ?_⟩
  · unfold Frame.enter
    rw [parameters, done, begins]
    rfl
  · intro register inside
    refine held (register, .pointer ⟨next + register, 0⟩) (List.mem_iff_getElem?.mpr ⟨register, ?_⟩)
    rw [List.getElem?_zip_eq_some]
    exact ⟨List.getElem?_range inside, getElem?_pointersFrom inside⟩

/-! ### The prologue -/

/-- What an instruction obtains: the register that will point there, and the elements. -/
def allocation? : Instruction → Option (Register × DType × Nat)
  | .alloca register dtype count => some (register, dtype, count)
  | _ => none

/-- All that a prologue obtains, in order. -/
def allocations (prologue : List Instruction) : List (Register × DType × Nat) :=
  prologue.filterMap allocation?

/-- The memory that a prologue obtains, filled with zeros. -/
def images (prologue : List Instruction) : List (Array UInt8) :=
  (allocations prologue).map fun entry => Array.replicate (entry.2.1.width * entry.2.2) 0

/-- An instruction that a prologue may have in a module. -/
inductive Preparing (module : Module) : Instruction → Prop where
  | alloca (register : Register) (dtype : DType) (count : Nat) :
      Preparing module (.alloca register dtype count)
  | address (register : Register) (name : String) (index : Nat)
      (found : globalIndex? module name = some index) : Preparing module (.address register name)

/-- What a prologue leaves. -/
structure Opening (module : Module) (prologue rest : List Instruction) (state next : State) :
    Prop where
  reaches : Reaches module state next
  frame : next.frame = { state.frame with
    registers := next.frame.registers
    pending := rest }
  callers : next.callers = state.callers
  memory : next.memory = state.memory.extend (images prologue)
  size : next.frame.registers.size = state.frame.registers.size
  others : ∀ register ∉ targets prologue,
    next.frame.registers[register]? = state.frame.registers[register]?
  places : ∀ (position : Nat) (entry : Register × DType × Nat),
    (allocations prologue)[position]? = some entry →
      next.frame.registers[entry.1]? = some (some (.pointer ⟨state.memory.size + position, 0⟩))
  addresses : ∀ register name, .address register name ∈ prologue →
    ∃ index, globalIndex? module name = some index ∧
      next.frame.registers[register]? = some (some (.pointer ⟨index, 0⟩))

/-- One instruction before the rest of the prologue. -/
private theorem Opening.step {module : Module} {instruction : Instruction}
    {prologue rest : List Instruction} {state next : State} {memory : Memory} {register : Register}
    {slot : Slot} (waiting : state.frame.pending = instruction :: (prologue ++ rest))
    (plain : Instruction.isCall instruction = false)
    (done : effect module state.memory state.frame instruction =
      .ok (memory, some (register, slot)))
    (opening : Opening module prologue rest
      ((state.fetched (prologue ++ rest)).after (memory, some (register, slot))) next)
    (apart : register ∉ targets prologue) (within : register < state.frame.registers.size) :
    Reaches module state next ∧ next.frame.registers[register]? = some (some slot) ∧
      next.frame.registers.size = state.frame.registers.size ∧
      ∀ other ∉ targets prologue, other ≠ register →
        next.frame.registers[other]? = state.frame.registers[other]? := by
  refine ⟨.head (.effect instruction (prologue ++ rest) _ waiting plain done) opening.reaches, ?_,
    ?_, ?_⟩
  · rw [opening.others register apart]
    simp [State.after, State.fetched, Frame.defining, Frame.define, within]
  · rw [opening.size]
    simp [State.after, State.fetched, Frame.defining, Frame.define]
  · intro other outside different
    rw [opening.others other outside]
    simp [State.after, State.fetched, Frame.defining, Frame.define,
      Array.getElem?_setIfInBounds_ne (Ne.symm different)]

theorem opens {module : Module} {prologue rest : List Instruction} {state : State}
    (waiting : state.frame.pending = prologue ++ rest)
    (prepared : ∀ instruction ∈ prologue, Preparing module instruction)
    (apart : (targets prologue).Nodup)
    (within : ∀ register ∈ targets prologue, register < state.frame.registers.size) :
    ∃ next, Opening module prologue rest state next := by
  induction prologue generalizing state with
  | nil =>
      refine ⟨state, .refl, ?_, rfl, ?_, rfl, fun _ _ => rfl, by simp [allocations], by simp⟩
      · rw [List.nil_append] at waiting
        rw [← waiting]
      · exact (Memory.extend_nil _).symm
  | cons instruction prologue ih =>
      -- Either kind of instruction defines one register, and the rest of the prologue leaves it.
      have onward : ∀ (register : Register) (memory : Memory) (slot : Slot),
          targets (instruction :: prologue) = register :: targets prologue →
          Instruction.isCall instruction = false →
          effect module state.memory state.frame instruction =
            .ok (memory, some (register, slot)) →
          ∃ next, Opening module prologue rest
              ((state.fetched (prologue ++ rest)).after (memory, some (register, slot))) next ∧
            Reaches module state next ∧ next.frame.registers[register]? = some (some slot) ∧
            next.frame.registers.size = state.frame.registers.size ∧
            ∀ other ∉ targets (instruction :: prologue),
              next.frame.registers[other]? = state.frame.registers[other]? := by
        intro register memory slot defines plain done
        rw [defines] at apart within
        obtain ⟨next, opening⟩ := @ih
          ((state.fetched (prologue ++ rest)).after (memory, some (register, slot))) rfl
          (fun other member => prepared other (List.mem_cons_of_mem _ member))
          (List.nodup_cons.mp apart).2 (by
            intro other member
            have inside := within other (List.mem_cons_of_mem _ member)
            simpa [State.after, State.fetched, Frame.defining, Frame.define] using inside)
        obtain ⟨reaches, held, size, others⟩ := Opening.step waiting plain done opening
          (List.nodup_cons.mp apart).1 (within register List.mem_cons_self)
        refine ⟨next, opening, reaches, held, size, fun other outside => ?_⟩
        rw [defines, List.mem_cons, not_or] at outside
        exact others other outside.2 outside.1
      cases prepared instruction List.mem_cons_self with
      | alloca register dtype count =>
          obtain ⟨next, opening, reaches, held, size, others⟩ :=
            onward register _ _ rfl rfl rfl
          refine ⟨next, reaches, opening.frame, opening.callers, ?_, size, others, ?_, ?_⟩
          · rw [opening.memory]
            exact (Memory.extend_cons _ _ _).symm
          · intro position entry found
            cases position with
            | zero =>
                cases found
                exact held
            | succ position =>
                rw [opening.places position entry found]
                simp only [State.after, State.fetched, Memory.size, Memory.allocate, Array.size_push]
                congr 4
                omega
          · intro other name member
            rcases List.mem_cons.mp member with same | member
            · cases same
            · exact opening.addresses other name member
      | address register name index found =>
          obtain ⟨next, opening, reaches, held, size, others⟩ :=
            onward register state.memory (.pointer ⟨index, 0⟩) rfl rfl (by simp only [effect, found])
          refine ⟨next, reaches, opening.frame, opening.callers, opening.memory, size, others,
            opening.places, ?_⟩
          intro other name' member
          rcases List.mem_cons.mp member with same | member
          · cases same
            exact ⟨index, found, held⟩
          · exact opening.addresses other name' member

end Machine
end TensorGraph

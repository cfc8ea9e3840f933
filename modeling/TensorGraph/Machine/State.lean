/-
Machine states.

The machine runs one instruction or one terminator at a time.  Its state holds
the memory, the frame of the function that runs and the frames that wait for
it, so a call is a transition like any other.  The registers of a frame are
empty until an instruction defines them.
-/

import TensorGraph.Code.Text
import TensorGraph.Machine.Memory

namespace TensorGraph.Machine

open Code

/-- What a register holds. -/
inductive Slot where
  | element (value : Literal)
  | pointer (pointer : Pointer)
  deriving DecidableEq

/-- One call in progress. -/
structure Frame where
  function : Function
  registers : Array (Option Slot)
  block : Block
  /-- The instructions of the block that are still to run. -/
  pending : List Instruction
  /-- Number of allocations when the frame was entered. -/
  floor : Nat

structure State where
  memory : Memory
  frame : Frame
  /-- The frames that wait for the current one, the innermost first. -/
  callers : List Frame
  /-- Instructions begun so far, over all frames. -/
  steps : Nat

/-- Why a run stopped before its end. -/
inductive Trap where
  | stepLimit
  | unknownGlobal (name : String)
  | unknownFunction (name : String)
  | negativeOffset (offset : Int)
  | undefinedRegister (register : Register)
  | isPointer (register : Register)
  | notPointer (register : Register)
  | access (fault : AccessFault)
  | unterminated (label : String)
  | missingBlock (block : BlockId)
  | arithmetic (cause : Error)
  /-- A register or block was taken that the function does not have. -/
  | malformed (index count : Nat)
  /-- The run goes round for ever without an instruction. -/
  | endless
  deriving DecidableEq, Repr

def AccessFault.message : AccessFault → String
  | dangling => "dangling pointer"
  | outside bytes offset size =>
      "access of " ++ toString bytes ++ " bytes at offset " ++ toString offset ++
        " outside allocation of " ++ toString size ++ " bytes"

def Trap.message : Trap → String
  | stepLimit => "step limit exceeded"
  | unknownGlobal name => "unknown global '" ++ name ++ "'"
  | unknownFunction name => "call to unknown '" ++ name ++ "'"
  | negativeOffset offset => "negative address offset " ++ toString offset
  | undefinedRegister register =>
      "register " ++ registerText register ++ " read before definition"
  | isPointer register => registerText register ++ " is a pointer"
  | notPointer register => registerText register ++ " is not a pointer"
  | access fault => fault.message
  | unterminated label => "block " ++ label ++ " falls off"
  | missingBlock block => "missing block " ++ blockText block
  | arithmetic cause => cause.message
  | malformed index count =>
      "index out of bounds: the len is " ++ toString count ++ " but the index is " ++
        toString index
  | endless => "endless loop without an instruction"

/-- What a trap in a function means to the caller of the machine. -/
def Trap.fault (function : String) : Trap → Fault
  | malformed index count => .abort (malformed index count).message
  | endless => .abort endless.message
  | other => .error (.execution ("in '" ++ function ++ "': " ++ other.message))

namespace Frame

def slot (frame : Frame) (register : Register) : Except Trap Slot :=
  match frame.registers[register]?.join with
  | some slot => .ok slot
  | none => .error (.undefinedRegister register)

/-- The element that an operand stands for. -/
def element (frame : Frame) : Operand → Except Trap Literal
  | .constant value => .ok value
  | .register register =>
      match frame.slot register with
      | .ok (.element value) => .ok value
      | .ok (.pointer _) => .error (.isPointer register)
      | .error trap => .error trap

def pointer (frame : Frame) (register : Register) : Except Trap Pointer :=
  match frame.slot register with
  | .ok (.pointer pointer) => .ok pointer
  | .ok (.element _) => .error (.notPointer register)
  | .error trap => .error trap

/-- The type that a register declared as a pointer points to. -/
def pointee (frame : Frame) (register : Register) : Except Trap DType :=
  match frame.function.typeOf? register with
  | some (.pointer dtype) => .ok dtype
  | _ => .error (.notPointer register)

/-- What an operand hands over to a call. -/
def argument (frame : Frame) : Operand → Except Trap Slot
  | .constant value => .ok (.element value)
  | .register register => frame.slot register

def define (frame : Frame) (register : Register) (slot : Slot) : Frame :=
  { frame with registers := frame.registers.setIfInBounds register (some slot) }

/-- The block with the given number; of several the last one. -/
def blockOf? (function : Function) (id : BlockId) : Option Block :=
  function.blocks.foldl (fun found block => if block.id = id then some block else found) none

/-- The frame at the start of a block. -/
def goto (frame : Frame) (block : Block) : Frame :=
  { frame with
    block := block
    pending := block.instructions }

def bind : Array (Option Slot) → List (Register × Slot) →
    Except Trap (Array (Option Slot))
  | registers, [] => .ok registers
  | registers, (parameter, slot) :: rest =>
      if parameter < registers.size then
        bind (registers.setIfInBounds parameter (some slot)) rest
      else
        .error (.malformed parameter registers.size)

/-- A frame at the entry of a function.  Arguments beyond the parameters are not
looked at. -/
def enter (function : Function) (arguments : List Slot) (floor : Nat) : Except Trap Frame := do
  let registers ← bind (Array.replicate function.registerTypes.size none)
    (function.parameters.zip arguments)
  match function.blocks with
  | [] => throw (.malformed 0 0)
  | entry :: _ =>
      return { function := function
               registers := registers
               block := entry
               pending := entry.instructions
               floor := floor }

end Frame
end TensorGraph.Machine

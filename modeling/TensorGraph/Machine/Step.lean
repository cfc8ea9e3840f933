/-
Machine transitions.

One transition runs one instruction, or takes the terminator of a block whose
instructions are done.  Only instructions count against the step limit.
-/

import TensorGraph.Machine.State

namespace TensorGraph.Machine

open Code

/-- What runs, and how many instructions it may run. -/
structure Program where
  module : Module
  limit : Nat

/-- A part of a transition; it leaves the state behind when it traps. -/
abbrev Execution := EStateM Trap State

namespace Execution

/-- A question to the current frame. -/
@[inline]
def ask {α : Type} (question : Frame → Except Trap α) : Execution α := fun state =>
  match question state.frame with
  | .ok answer => .ok answer state
  | .error trap => .error trap state

@[inline]
def onFrame (change : Frame → Frame) : Execution Unit :=
  modify fun state => { state with frame := change state.frame }

def define (register : Register) (slot : Slot) : Execution Unit :=
  onFrame fun frame => frame.define register slot

/-- The bytes at a pointer. -/
def read (pointer : Pointer) (bytes : Nat) : Execution (List UInt8) := fun state =>
  match state.memory.read pointer bytes with
  | .ok image => .ok image state
  | .error fault => .error (.access fault) state

def write (pointer : Pointer) (image : List UInt8) : Execution Unit := fun state =>
  match state.memory.check pointer image.length with
  | .ok () => .ok () { state with memory := state.memory.put pointer image }
  | .error fault => .error (.access fault) state

def computed (register : Register) (result : Except Error Literal) : Execution Unit :=
  match result with
  | .ok value => define register (.element value)
  | .error cause => throw (.arithmetic cause)

end Execution

open Execution

/-- The position of a global among the globals of a module, which is the number of its
allocation. -/
def globalIndex? (module : Module) (name : String) : Option Nat :=
  module.globals.findIdx? fun global => global.name == name

/-- The pointer `index` elements of the given width further on. -/
def Pointer.moved (pointer : Pointer) (index : Int) (width : Nat) : Except Trap Pointer :=
  let offset := (pointer.offset : Int) + index * width
  if 0 ≤ offset then
    .ok { pointer with offset := offset.toNat }
  else
    .error (.negativeOffset offset)

/-- Begins a call: the current frame waits. -/
def enter (function : Function) (arguments : List Slot) : Execution Unit := fun state =>
  match Frame.enter function arguments state.memory.size with
  | .ok frame =>
      .ok ()
        { state with
          frame := frame
          callers := state.frame :: state.callers }
  | .error trap => .error trap state

def execute (program : Program) : Instruction → Execution Unit
  | .alloca target dtype count => fun state =>
      .ok ()
        { state with
          frame := state.frame.define target (.pointer state.memory.nextPointer)
          memory := state.memory.allocate (Array.replicate (dtype.width * count) 0) }
  | .address target name =>
      match globalIndex? program.module name with
      | some index =>
          define target (.pointer
            { allocation := index
              offset := 0 })
      | none => throw (.unknownGlobal name)
  | .offset target base index => do
      let pointer ← ask fun frame => frame.pointer base
      let index ← ask fun frame => frame.element index
      let dtype ← ask fun frame => frame.pointee base
      match pointer.moved index.toInt64.toInt dtype.width with
      | .ok moved => define target (.pointer moved)
      | .error trap => throw trap
  | .load target pointer => do
      let place ← ask fun frame => frame.pointer pointer
      let dtype ← ask fun frame => frame.pointee pointer
      let image ← read place dtype.width
      define target (.element (Literal.ofImage dtype image))
  | .store pointer value => do
      let place ← ask fun frame => frame.pointer pointer
      let value ← ask fun frame => frame.element value
      write place value.bytes
  | .binary target op left right => do
      let left ← ask fun frame => frame.element left
      let right ← ask fun frame => frame.element right
      computed target (left.binary op right)
  | .unary target op operand => do
      let operand ← ask fun frame => frame.element operand
      computed target (operand.unary op)
  | .compare target op left right => do
      let left ← ask fun frame => frame.element left
      let right ← ask fun frame => frame.element right
      computed target (Literal.bool <$> left.compare op right)
  | .cast target operand dtype => do
      let operand ← ask fun frame => frame.element operand
      define target (.element (operand.cast dtype))
  | .move destination source bytes => do
      let destination ← ask fun frame => frame.pointer destination
      let source ← ask fun frame => frame.pointer source
      write destination (← read source bytes)
  | .call name arguments =>
      match program.module.function? name with
      | none => throw (.unknownFunction name)
      | some function => do
          enter function (← ask fun frame => arguments.mapM frame.argument)

/-- Goes on in another block of the current function. -/
def jump (target : BlockId) : Execution Unit := do
  let block ← ask fun frame =>
    match Frame.blockOf? frame.function target with
    | some block => .ok block
    | none => .error (.missingBlock target)
  onFrame fun frame => frame.goto block

/-- Ends the current call: its memory is released, and the caller goes on.  Answers
whether there is one. -/
def leave : Execution Bool := fun state =>
  let memory := state.memory.release state.frame.floor
  match state.callers with
  | [] => .ok false { state with memory := memory }
  | caller :: callers =>
      .ok true
        { state with
          memory := memory
          frame := caller
          callers := callers }

/-- Takes one instruction from the block, unless the limit is reached. -/
def begin (program : Program) (rest : List Instruction) : Execution Unit := fun state =>
  if state.steps < program.limit then
    .ok ()
      { state with
        frame := { state.frame with pending := rest }
        steps := state.steps + 1 }
  else
    .error .stepLimit state

/-- One transition; answers whether the run goes on. -/
def transition (program : Program) : Execution Bool := do
  match ← ask fun frame => .ok frame.pending with
  | instruction :: rest => do
      begin program rest
      execute program instruction
      return true
  | [] =>
      match ← ask fun frame => .ok frame.block.terminator? with
      | some (.jump target) => do
          jump target
          return true
      | some (.branch condition onTrue onFalse _) => do
          let condition ← ask fun frame => frame.element condition
          jump (if condition.isTrue then onTrue else onFalse)
          return true
      | some .leave => leave
      | none => do
          let label ← ask fun frame => .ok frame.block.label
          throw (.unterminated label)

/-- Transitions until the outermost function returns, at most as many as `patience`. -/
def run (program : Program) : Nat → Execution Unit
  | 0 => throw .endless
  | patience + 1 => fun state =>
      match transition program state with
      | .ok true state => run program patience state
      | .ok false state => .ok () state
      | .error trap state => .error trap state

/-- More transitions than any run makes that ends: between two instructions or returns
no block is entered twice. -/
def Program.patience (program : Program) : Nat :=
  (2 * program.limit + 3) *
    ((program.module.functions.map fun function => function.blocks.length).foldl max 0 + 1)

end TensorGraph.Machine

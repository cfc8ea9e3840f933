/-
The engine.

An engine holds a verified module and the contents of its globals.  The globals
are the first allocations of its memory and persist from call to call; the
argument buffers and the frames of a call come after them and are released when
its run is over.  The caller's buffers are copied in before the run and copied
back when it has succeeded.
-/

import TensorGraph.Code.Verify
import TensorGraph.Machine.Step

namespace TensorGraph

open Code Machine

structure Engine where
  module : Module
  memory : Memory
  limit : Nat

/-- One argument of an exported function: memory for a pointer, or an element. -/
inductive Argument where
  | buffer (storage : Storage)
  | scalar (value : Literal)

namespace Engine

/-- Instructions that one call may run unless told otherwise. -/
def standardLimit : Nat := 1000000000

def ofModule (module : Module) : Except Error Engine := do
  module.verify
  return { module := module
           memory :=
             { allocations :=
                 (module.globals.map fun global => global.data.bytes.toArray).toArray }
           limit := standardLimit }

def withLimit (engine : Engine) (limit : Nat) : Engine :=
  { engine with limit := limit }

/-- The present contents of a global. -/
def global (engine : Engine) (name : String) : Except Error Storage :=
  match globalIndex? engine.module name, engine.module.global? name with
  | some index, some global =>
      Storage.ofBytes global.dtype (engine.memory.allocations.getD index #[]).toList
  | _, _ => .error (.execution ("unknown global '" ++ name ++ "'"))

/-- The exported function of a name, for a number of arguments. -/
def callee (engine : Engine) (name : String) (count : Nat) : Except Error Function :=
  match engine.module.function? name with
  | none => .error (.execution ("no function named '" ++ name ++ "'"))
  | some function =>
      if !function.exported then
        .error (.execution ("function '" ++ name ++ "' is not exported"))
      else if function.parameters.length ≠ count then
        .error (.execution ("function '" ++ name ++ "' takes " ++
          toString function.parameters.length ++ " arguments, got " ++ toString count))
      else
        .ok function

/-- Lays the buffers into memory behind what is there; what each parameter receives.  An
argument that does not match its parameter releases everything behind the globals; a
parameter without a type leaves what was laid down. -/
def bindArguments (function : Function) (globals : Nat) :
    Nat → List (Argument × Register) → Action Memory (List Slot)
  | _, [] => pure []
  | position, (argument, parameter) :: rest =>
      match function.typeOf? parameter with
      | none =>
          Action.fail (.execution ("parameter " ++ toString position ++ " of '" ++
            function.name ++ "' has no type"))
      | some type =>
          let mismatch : Action Memory (List Slot) := do
            modify fun memory => memory.release globals
            Action.fail (.execution ("argument " ++ toString position ++ " of '" ++
              function.name ++ "' does not match parameter type " ++ type.text))
          match argument, type with
          | .buffer storage, .pointer dtype =>
              if storage.dtype = dtype then do
                let pointer ← modifyGet fun memory =>
                  (memory.nextPointer, memory.allocate storage.bytes.toArray)
                return .pointer pointer :: (← bindArguments function globals (position + 1) rest)
              else
                mismatch
          | .scalar value, .element dtype =>
              if value.dtype = dtype then do
                return .element value :: (← bindArguments function globals (position + 1) rest)
              else
                mismatch
          | _, _ => mismatch

/-- Copies the buffers back to their caller, as memory holds them from allocation `next`
on.  The arguments afterwards: a buffer that cannot be read ends the copying, and those
before it are written by then. -/
def copyBack (memory : Memory) :
    Nat → List Argument → EStateM.Result Fault (List Argument) Unit
  | _, [] => .ok () []
  | next, .scalar value :: rest =>
      match copyBack memory next rest with
      | .ok () rest => .ok () (.scalar value :: rest)
      | .error fault rest => .error fault (.scalar value :: rest)
  | next, .buffer storage :: rest =>
      match Storage.ofBytes storage.dtype (memory.allocations.getD next #[]).toList with
      | .error cause => .error (.error cause) (.buffer storage :: rest)
      | .ok changed =>
          match copyBack memory (next + 1) rest with
          | .ok () rest => .ok () (.buffer changed :: rest)
          | .error fault rest => .error fault (.buffer changed :: rest)

/-- An engine and the arguments that a caller hands to it. -/
structure Visit where
  engine : Engine
  arguments : List Argument

/-- Calls an exported function on the arguments of the caller.  What is behind the globals
is released when the run is over; the buffers of the caller change when it has succeeded. -/
def serve (name : String) : Action Visit Unit := fun ⟨engine, arguments⟩ =>
  let globals := engine.module.globals.length
  let left (memory : Memory) (arguments : List Argument) : Visit :=
    { engine := { engine with memory := memory }
      arguments := arguments }
  match engine.callee name arguments.length with
  | .error cause => .error (.error cause) ⟨engine, arguments⟩
  | .ok function =>
      match bindArguments function globals 0 (arguments.zip function.parameters)
          engine.memory with
      | .error fault memory => .error fault (left memory arguments)
      | .ok slots memory =>
          match Frame.enter function slots memory.size with
          | .error trap => .error (trap.fault name) (left memory arguments)
          | .ok frame =>
              let program : Program :=
                { module := engine.module
                  limit := engine.limit }
              let state : Machine.State :=
                { memory := memory
                  frame := frame
                  callers := []
                  steps := 0 }
              match Machine.run program program.patience state with
              | .error trap state =>
                  .error (trap.fault state.frame.function.name)
                    (left (state.memory.release globals) arguments)
              | .ok () state =>
                  match copyBack state.memory engine.memory.size arguments with
                  | .ok () arguments => .ok () (left (state.memory.release globals) arguments)
                  | .error fault arguments => .error fault (left state.memory arguments)

/-- Calls an exported function and answers with the arguments afterwards. -/
def call (name : String) (arguments : List Argument) : Action Engine (List Argument) :=
  fun engine =>
    match serve name ⟨engine, arguments⟩ with
    | .ok () visit => .ok visit.arguments visit.engine
    | .error fault visit => .error fault visit.engine

end Engine
end TensorGraph

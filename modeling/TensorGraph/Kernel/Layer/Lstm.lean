/-
Long short-term memory.

One run is one time step.  The weights stack the four gates input, forget,
candidate and output.  With `z = wx * x + wh * h + bx + bh` a step is

  c := f * c + i * g        h := o * activation c

where `i`, `f` and `o` are the recurrent activation of their parts of `z`, and
`g` is the activation of its part.  A trigger that was one in the step before
and is zero now clears `h` and `c` first.
-/

import TensorGraph.Kernel.Layer.Dense

namespace TensorGraph.Kernel

variable {m : Type → Type} [Kernel m]

/-- The parameters of a cell as they lie in memory. -/
structure LstmParameters where
  hiddenUnits : Nat
  inputWeights : Matrix
  hiddenWeights : Matrix
  inputBias : Vector
  hiddenBias : Vector
  activation : ActivationFunction
  recurrent : ActivationFunction

/-- The memory of a cell between steps. -/
structure LstmState where
  hidden : Value
  cell : Value
  trigger : Value

def vectorOf (value : Value) : m Vector :=
  ofExcept (Vector.ofValue value)

/-- Clears the state at a falling edge of the trigger, and keeps the trigger. -/
def applyTrigger (dtype : DType) (hidden cell last : Vector) (trigger : Value) :
    m Unit := do
  let trigger ← row trigger
  let now ← trigger.element (← Scalar.index 0)
  let before ← last.element (← Scalar.index 0)
  let wasOn ← before.compare .eq (← before.like 1.0)
  let nowOff ← now.compare .eq (← now.like 0.0)
  let zero ← Scalar.constant (.zero dtype)
  let clear : m Unit := do
    hidden.fill zero
    cell.fill zero
  ifElse wasOn.value (ifElse nowOff.value clear (pure ())) (pure ())
  before.assign now

/-- The part of a gate that belongs to a unit. -/
def gate (parameters : LstmParameters) (gates : Vector) (unit : Scalar) (number : Nat) :
    m Scalar := do
  let offset ← Scalar.index (number * parameters.hiddenUnits)
  gates.element (← unit.binary .add offset)

/-- The new state and output of one hidden unit. -/
def stepUnit (parameters : LstmParameters) (gates hidden cell : Vector)
    (hiddenOutput cellOutput : Vector) (unit : Scalar) : m Unit := do
  let inputPart ← gate parameters gates unit 0
  let forgetPart ← gate parameters gates unit 1
  let candidatePart ← gate parameters gates unit 2
  let outputPart ← gate parameters gates unit 3
  let i ← parameters.recurrent.apply inputPart
  let f ← parameters.recurrent.apply forgetPart
  let g ← parameters.activation.apply candidatePart
  let o ← parameters.recurrent.apply outputPart
  let previous ← cell.element unit
  let kept ← f.binary .mul previous
  let added ← i.binary .mul g
  let c ← kept.binary .add added
  let activated ← parameters.activation.apply c
  let h ← o.binary .mul activated
  previous.assign c
  (← hidden.element unit).assign h
  (← cellOutput.element unit).assign c
  (← hiddenOutput.element unit).assign h

/-- Memory of the cell as a vector. -/
def heldVector (name : String) (value : Value) : m Vector := do
  vectorOf (← state name value)

def freshVector (dtype : DType) (size : Nat) : m Vector := do
  vectorOf (← allocate dtype (Layout.packed [size]))

/-- Clears the state as the trigger asks for, if there is one. -/
def followTrigger (dtype : DType) (memory : LstmState) (hidden cell : Vector) :
    Option Value → m Unit
  | some trigger => do
      let last ← heldVector "lstm.trigger" memory.trigger
      applyTrigger dtype hidden cell last trigger
  | none => pure ()

/-- The sums `wx * x + wh * h + bx + bh` of all gates. -/
def gateSums (parameters : LstmParameters) (x hidden : Vector) : m Vector := do
  let dtype := parameters.inputWeights.dtype
  let gates ← freshVector dtype (4 * parameters.hiddenUnits)
  let recurrent ← freshVector dtype (4 * parameters.hiddenUnits)
  parameters.inputWeights.multiply x gates
  parameters.hiddenWeights.multiply hidden recurrent
  Vector.combine .add gates recurrent
  Vector.combine .add gates parameters.inputBias
  Vector.combine .add gates parameters.hiddenBias
  return gates

/-- One step.  The state is taken up before any branch, so that its addresses are known
on every path. -/
def lstmStep (parameters : LstmParameters) (memory : LstmState) (trigger? : Option Value)
    (input hiddenOutput cellOutput : Value) : m Unit := do
  let hidden ← heldVector "lstm.hidden" memory.hidden
  let cell ← heldVector "lstm.cell" memory.cell
  followTrigger parameters.inputWeights.dtype memory hidden cell trigger?
  let x ← row input
  let gates ← gateSums parameters x hidden
  let hiddenOutput ← vectorOf hiddenOutput
  let cellOutput ← vectorOf cellOutput
  forRange 0 parameters.hiddenUnits 1
    (stepUnit parameters gates hidden cell hiddenOutput cellOutput)

end TensorGraph.Kernel

/-
Loops.

A counted loop is five blocks: the counter is set up, compared, the body runs,
the counter moves on and is compared again, and code goes on after the loop.
The counter lives in memory of its own.  A conditional loop tests before every
turn.  A loop is begun once and ended once; the body may close in another block
than it started in.
-/

import TensorGraph.Code.FunctionBuilder

namespace TensorGraph.Code

inductive LoopPhase where
  | uninitialized
  | initialized
  | bodyOpen
  | closed
  deriving DecidableEq, Repr

private def bodyClosed (label : String) : String :=
  "loop '" ++ label ++ "': end without matching begin"

private def alreadyBegun (label : String) : String :=
  "loop '" ++ label ++ "' already begun"

/-! ### Counted loops -/

structure ForBlocks where
  init : BlockId
  condition : BlockId
  body : BlockId
  increment : BlockId
  after : BlockId
  deriving DecidableEq, Repr

structure ForLoop where
  label : String
  phase : LoopPhase
  blocks? : Option ForBlocks
  counter? : Option Register
  step : Operand
  hint : LoopHint

def ForLoop.start (label : String) (hint : LoopHint) : ForLoop :=
  { label := label
    phase := .uninitialized
    blocks? := none
    counter? := none
    step := .constant (.i64 1)
    hint := hint }

/-- A step of building a function around a counted loop. -/
abbrev ForBuilding := Action (ForLoop × FunctionBuilder)

namespace ForLoop

def onBuilder {α : Type} (building : Building α) : ForBuilding α :=
  Action.within Prod.snd (fun builder state => (state.1, builder)) building

def change (change : ForLoop → ForLoop) : ForBuilding Unit :=
  modify fun (forLoop, builder) => (change forLoop, builder)

def createBlocks : ForBuilding ForBlocks := do
  let forLoop := (← get).1
  if forLoop.phase ≠ .uninitialized then
    Action.abort (alreadyBegun forLoop.label)
  let init ← onBuilder (Building.appendBlock (forLoop.label ++ ".init"))
  let condition ← onBuilder (Building.appendBlock (forLoop.label ++ ".cond"))
  let body ← onBuilder (Building.appendBlock (forLoop.label ++ ".body"))
  let increment ← onBuilder (Building.appendBlock (forLoop.label ++ ".inc"))
  let after ← onBuilder (Building.appendBlock (forLoop.label ++ ".after"))
  let blocks : ForBlocks :=
    { init := init
      condition := condition
      body := body
      increment := increment
      after := after }
  change fun forLoop =>
    { forLoop with
      blocks? := some blocks
      phase := .initialized }
  return blocks

/-- Begins a loop from `first` by `step` below `limit`; answers with the pointer to
the counter and goes on in the body. -/
def beginValues (first limit step : Operand) : ForBuilding Register := do
  let blocks ← createBlocks
  let counter ← onBuilder (Building.alloca .i64 1)
  change fun forLoop =>
    { forLoop with
      counter? := some counter
      step := step }
  let hint := (← get).1.hint
  onBuilder do
    Building.jump blocks.init
    Building.setInsertPoint blocks.init
    Building.store counter first
    Building.jump blocks.condition
    Building.setInsertPoint blocks.condition
    let current ← Building.load counter
    let below ← Building.compare .lt (.register current) limit
    Building.branch (.register below) blocks.body blocks.after
      (if hint.isEmpty then none else some hint)
    Building.setInsertPoint blocks.body
  change fun forLoop => { forLoop with phase := .bodyOpen }
  return counter

/-- The same with constant bounds; the step has to be positive. -/
def beginRange (first limit step : Int64) : ForBuilding Register := do
  if step ≤ 0 then
    Action.abort ("loop '" ++ (← get).1.label ++ "': step must be positive")
  beginValues (.constant (.i64 first)) (.constant (.i64 limit)) (.constant (.i64 step))

/-- `count` turns from zero. -/
def beginRepeat (count : Nat) : ForBuilding Register := do
  if count > 9223372036854775807 then
    Action.fail (.invalidArgument ("loop '" ++ (← get).1.label ++ "': count " ++
      toString count ++ " exceeds i64"))
  beginRange 0 (Int64.ofNat count) 1

def beginRepeatValue (count : Operand) : ForBuilding Register :=
  beginValues (.constant (.i64 0)) count (.constant (.i64 1))

/-- The counter as an element, inside the body. -/
def loadCounter : ForBuilding Register := do
  let forLoop := (← get).1
  match forLoop.phase, forLoop.counter? with
  | .bodyOpen, some counter => onBuilder (Building.load counter)
  | _, _ => Action.abort ("loop '" ++ forLoop.label ++ "' has no open body")

/-- Closes the body: the counter moves on, and code goes on after the loop. -/
def finish : ForBuilding Unit := do
  let forLoop := (← get).1
  match forLoop.phase, forLoop.blocks?, forLoop.counter? with
  | .bodyOpen, some blocks, some counter =>
      change fun forLoop => { forLoop with phase := .closed }
      onBuilder do
        if !(← get).isTerminated then
          Building.jump blocks.increment
        Building.setInsertPoint blocks.increment
        let current ← Building.load counter
        let next ← Building.binary .add (.register current) forLoop.step
        Building.store counter (.register next)
        Building.jump blocks.condition
        Building.setInsertPoint blocks.after
  | _, _, _ => Action.abort (bodyClosed forLoop.label)

/-- A loop over constant bounds, begun at once; the loop and the pointer to its
counter. -/
def opened (label : String) (hint : LoopHint) (first limit step : Int64) :
    Building (ForLoop × Register) := fun builder =>
  match beginRange first limit step (ForLoop.start label hint, builder) with
  | .ok counter (forLoop, builder) => .ok (forLoop, counter) builder
  | .error fault (_, builder) => .error fault builder

/-- Ends a loop that is not looked at again. -/
def close (forLoop : ForLoop) : Building Unit := fun builder =>
  match finish (forLoop, builder) with
  | .ok () (_, builder) => .ok () builder
  | .error fault (_, builder) => .error fault builder

end ForLoop

/-! ### Conditional loops -/

structure WhileBlocks where
  condition : BlockId
  body : BlockId
  after : BlockId
  deriving DecidableEq, Repr

structure WhileLoop where
  label : String
  phase : LoopPhase
  blocks? : Option WhileBlocks

def WhileLoop.start (label : String) : WhileLoop :=
  { label := label
    phase := .uninitialized
    blocks? := none }

/-- A step of building a function around a conditional loop. -/
abbrev WhileBuilding := Action (WhileLoop × FunctionBuilder)

namespace WhileLoop

def onBuilder {α : Type} (building : Building α) : WhileBuilding α :=
  Action.within Prod.snd (fun builder state => (state.1, builder)) building

private def change (change : WhileLoop → WhileLoop) : WhileBuilding Unit :=
  modify fun (whileLoop, builder) => (change whileLoop, builder)

/-- Creates the blocks and goes on in the one that computes the condition. -/
def enter : WhileBuilding WhileBlocks := do
  let whileLoop := (← get).1
  if whileLoop.phase ≠ .uninitialized then
    Action.abort (alreadyBegun whileLoop.label)
  let condition ← onBuilder (Building.appendBlock (whileLoop.label ++ ".cond"))
  let body ← onBuilder (Building.appendBlock (whileLoop.label ++ ".body"))
  let after ← onBuilder (Building.appendBlock (whileLoop.label ++ ".after"))
  let blocks : WhileBlocks :=
    { condition := condition
      body := body
      after := after }
  change fun whileLoop =>
    { whileLoop with
      blocks? := some blocks
      phase := .initialized }
  onBuilder do
    Building.jump blocks.condition
    Building.setInsertPoint blocks.condition
  return blocks

/-- Closes the condition with its result and goes on in the body. -/
def test (blocks : WhileBlocks) (condition : Operand) : WhileBuilding Unit := do
  onBuilder do
    Building.branch condition blocks.body blocks.after none
    Building.setInsertPoint blocks.body
  change fun whileLoop => { whileLoop with phase := .bodyOpen }

/-- Begins a loop whose condition is computed before every turn. -/
def beginWith (condition : Building Operand) : WhileBuilding Unit := do
  let blocks ← enter
  let result ← onBuilder condition
  test blocks result

/-- Begins a loop that runs as long as the truth value at `flag` is true. -/
def beginFlag (flag : Register) : WhileBuilding Unit :=
  beginWith do return .register (← Building.load flag)

/-- Closes the body: back to the condition, and code goes on after the loop. -/
def finish : WhileBuilding Unit := do
  let whileLoop := (← get).1
  match whileLoop.phase, whileLoop.blocks? with
  | .bodyOpen, some blocks =>
      change fun whileLoop => { whileLoop with phase := .closed }
      onBuilder do
        if !(← get).isTerminated then
          Building.jump blocks.condition
        Building.setInsertPoint blocks.after
  | _, _ => Action.abort (bodyClosed whileLoop.label)

end WhileLoop
end TensorGraph.Code

/-
Kernels written down as code.

The emitting strategy appends instructions to a function instead of touching
memory; the values that it hands out are pointer registers.  Host values are
constants of the code: a rank-zero one becomes an operand, and an array becomes
an immutable global when its address is needed first.  Emitted code cannot reach
host memory, so writing to it is refused.

Arithmetic on known operands is done while emitting.  A loop without turns emits
nothing, and one with a single turn is its body with a constant index.  Memory
obtained inside a loop is cleared on every turn, like the fresh memory that a
kernel gets when it runs at once.
-/

import TensorGraph.Code.Loop
import TensorGraph.Kernel.Basic

namespace TensorGraph

structure EmissionState (ρ : Type) where
  heap : Heap
  builder : Code.FunctionBuilder
  /-- The globals that hold host storages. -/
  constants : List (Nat × String)
  /-- The globals that took the place of host storages as state. -/
  states : List (Nat × String)
  /-- The globals that hold zeros, by type and count. -/
  zeros : List ((DType × Nat) × String)
  /-- The hint on every loop. -/
  hint : Code.LoopHint
  loopDepth : Nat
  /-- Number of labels given out. -/
  labels : Nat
  scratch : ρ

def EmissionState.start {ρ : Type} (heap : Heap) (builder : Code.FunctionBuilder)
    (hint : Code.LoopHint) (scratch : ρ) : EmissionState ρ :=
  { heap := heap
    builder := builder
    constants := []
    states := []
    zeros := []
    hint := hint
    loopDepth := 0
    labels := 0
    scratch := scratch }

/-- A kernel that is written down. -/
def Emission (ρ : Type) (α : Type) : Type :=
  Action (EmissionState ρ) α

namespace Emission

open Code

variable {ρ α : Type}

instance : Monad (Emission ρ) :=
  inferInstanceAs (Monad (EStateM Fault (EmissionState ρ)))

instance : MonadStateOf ρ (Emission ρ) where
  get := fun state => .ok state.scratch state
  set scratch := fun state => .ok () { state with scratch := scratch }
  modifyGet change := fun state =>
    let (answer, scratch) := change state.scratch
    .ok answer { state with scratch := scratch }

def run (kernel : Emission ρ α) (state : EmissionState ρ) :
    EStateM.Result Fault (EmissionState ρ) α :=
  kernel state

/-- An action on the heap alone. -/
def onHeap (action : Action Heap α) : Emission ρ α :=
  Action.within EmissionState.heap (fun heap state => { state with heap := heap }) action

/-- A step of building the function. -/
def building (action : Building α) : Emission ρ α :=
  Action.within EmissionState.builder (fun builder state => { state with builder := builder })
    action

def state : Emission ρ (EmissionState ρ) := fun state =>
  .ok state state

def change (change : EmissionState ρ → EmissionState ρ) : Emission ρ Unit := fun state =>
  .ok () (change state)

def ofExcept (result : Except Error α) : Emission ρ α :=
  onHeap (Action.ofExcept result)

def fail (cause : Error) : Emission ρ α :=
  ofExcept (.error cause)

/-- A value over the memory that a pointer parameter addresses. -/
def parameter (index : Nat) (dtype : DType) (layout : Layout) : Emission ρ Value := do
  match (← state).builder.parameter? index with
  | some register => return Value.emitted dtype register (some layout)
  | none => fail (.invalidArgument ("no parameter " ++ toString index))

/-- A label that no other loop or branch of the function has. -/
def label (hint : String) : Emission ρ String := fun state =>
  .ok (hint ++ toString (state.labels + 1)) { state with labels := state.labels + 1 }

/-! ### Operands -/

/-- The element of a rank-zero host value. -/
def literal? (value : Value) (heap : Heap) : Option Literal :=
  if value.isHost && value.layout?.map Layout.rank == some 0 then
    (value.literal heap).toOption
  else
    none

def known (value : Value) : Emission ρ (Option Literal) := fun state =>
  .ok (literal? value state.heap) state

def index (position : Nat) : Operand :=
  .constant (.i64 (Int64.ofNat position))

/-- The address of the global that stands for a host storage. -/
def embed (storage : Nat) : Emission ρ Register := do
  let current ← state
  match current.states.lookup storage with
  | some name => building (Building.globalAddress name)
  | none =>
      match current.constants.lookup storage with
      | some name => building (Building.globalAddress name)
      | none => do
          let name ← building (Building.global "const" (current.heap.storage storage) false)
          change fun state => { state with constants := (storage, name) :: state.constants }
          building (Building.globalAddress name)

/-- A pointer to the base of a value. -/
def pointer (value : Value) : Emission ρ Register := do
  match value.place with
  | .emitted register => return register
  | .host storage base =>
      let address ← embed storage
      building (Building.offset address (index base))
  | .unbound => fail (.invalidArgument "value is undefined")

def writablePointer (value : Value) : Emission ρ Register :=
  match value.place with
  | .emitted register => pure register
  | .host _ _ => fail (.invalidArgument "cannot write to host memory from emitted code")
  | .unbound => fail (.invalidArgument "value is undefined")

/-- The element of a rank-zero value as an operand. -/
def operand (value : Value) : Emission ρ Operand := do
  match ← known value with
  | some literal => return .constant literal
  | none =>
      let address ← pointer value
      return .register (← building (Building.load address))

/-- A computed element put into fresh memory. -/
def spill (dtype : DType) (register : Register) : Emission ρ Value := do
  let slot ← building (Building.alloca dtype 1)
  building (Building.store slot (.register register))
  return Value.emitted dtype slot (some Layout.scalar)

/-- An integer scalar as a number of elements. -/
def indexOperand (scalar : Scalar) : Emission ρ Operand := do
  let operand ← operand scalar.value
  if scalar.dtype = .i64 then
    return operand
  if !scalar.dtype.isInteger then
    fail (.dtypes .i64 scalar.dtype)
  return .register (← building (Building.cast operand .i64))

/-! ### Memory -/

def clear (address : Register) (dtype : DType) (count : Nat) : Emission ρ Unit := do
  let name ←
    match (← state).zeros.lookup (dtype, count) with
    | some name => pure name
    | none => do
        let name ← building (Building.global "zeros" (Storage.zeros dtype count) false)
        change fun state => { state with zeros := ((dtype, count), name) :: state.zeros }
        pure name
  let source ← building (Building.globalAddress name)
  building (Building.move address source (count * dtype.width))

def allocate (dtype : DType) (layout : Layout) : Emission ρ Value := do
  let address ← building (Building.alloca dtype layout.memorySize)
  if (← state).loopDepth > 0 then
    clear address dtype layout.memorySize
  return Value.emitted dtype address (some layout)

/-- Host storage taken over by the code; it keeps its contents between runs. -/
def takeState (name : String) (value : Value) : Emission ρ Value := do
  let layout ← ofExcept value.ready
  let dtype ← ofExcept value.dtype
  match value.place with
  | .host storage base =>
      let current ← state
      let global ←
        match current.states.lookup storage with
        | some global => pure global
        | none => do
            let global ← building (Building.stateGlobal name (current.heap.storage storage))
            change fun state => { state with states := (storage, global) :: state.states }
            pure global
      let address ← building (Building.globalAddress global)
      let place ← building (Building.offset address (index base))
      return Value.emitted dtype place (some layout)
  | _ => fail (.invalidArgument "node state must live in host memory")

def knownIndices : List Scalar → Emission ρ (List (Option Int))
  | [] => pure []
  | scalar :: rest => do
      let literal? ← known scalar.value
      return literal?.map (fun literal => literal.toInt64.toInt) :: (← knownIndices rest)

/-- The part of a position that is computed by the code, and the part known already,
over the axes of a layout. -/
def address (indices : List Scalar) (positions : List (Option Int)) :
    List Axis → Option Operand → Int → Emission ρ (Option Operand × Int)
  | [], computed, fixed => pure (computed, fixed)
  | axis :: rest, computed, fixed => do
      let fixed := fixed + axis.offset * axis.increment
      match (positions[axis.logical]?).join, indices[axis.logical]? with
      | some position, _ =>
          address indices positions rest computed (fixed + position * axis.increment)
      | none, none => address indices positions rest computed fixed
      | none, some scalar => do
          let factor ← indexOperand scalar
          let term ←
            if axis.increment = 1 then
              pure factor
            else
              .register <$> building (Building.binary .mul factor (index axis.increment))
          let total ←
            match computed with
            | none => pure term
            | some sum => .register <$> building (Building.binary .add sum term)
          address indices positions rest (some total) fixed

def offset (value : Value) (indices : List Scalar) : Emission ρ Value := do
  let layout ← ofExcept value.ready
  if indices.length ≠ layout.rank then
    fail (.invalidArgument ("offset needs " ++ toString layout.rank ++ " indices, got " ++
      toString indices.length))
  let positions ← knownIndices indices
  if let some negative := (positions.filterMap id).find? fun position => position < 0 then
    fail (.invalidArgument ("negative index " ++ toString negative))
  if positions.all Option.isSome then
    let position ← ofExcept (layout.flatOffset ((positions.filterMap id).map Int.toNat))
    if value.isHost then
      onHeap (do Action.ofExcept (value.advanced position (← get)))
    else
      let base ← pointer value
      let place ← building (Building.offset base (index position))
      return Value.emitted (← ofExcept value.dtype) place none
  else
    let (computed, fixed) ← address indices positions layout.axes none 0
    let start := computed.getD (index 0)
    let total ←
      if fixed = 0 then
        pure start
      else
        .register <$> building
          (Building.binary .add start (.constant (.i64 (Int64.ofInt fixed))))
    let base ← pointer value
    let place ← building (Building.offset base total)
    return Value.emitted (← ofExcept value.dtype) place none

def checkTypes (target source : Value) : Emission ρ DType := do
  let targetType ← ofExcept target.dtype
  let sourceType ← ofExcept source.dtype
  if targetType ≠ sourceType then
    fail (.dtypes targetType sourceType)
  return targetType

def store (target source : Value) : Emission ρ Unit := do
  let _ ← checkTypes target source
  let place ← writablePointer target
  let element ← operand source
  building (Building.store place element)

def move (target : Value) (targetOffset : Nat) (source : Value) (sourceOffset count : Nat) :
    Emission ρ Unit := do
  let dtype ← checkTypes target source
  if count = 0 then
    return
  let targetBase ← writablePointer target
  let targetPlace ← building (Building.offset targetBase (index targetOffset))
  let sourceBase ← pointer source
  let sourcePlace ← building (Building.offset sourceBase (index sourceOffset))
  building (Building.move targetPlace sourcePlace (count * dtype.width))

/-! ### Arithmetic -/

def constant (literal : Literal) : Emission ρ Value :=
  onHeap (Value.ofLiteral literal)

/-- Known operands are combined at once, unless that fails: then the code fails when
it comes there. -/
def binary (op : BinaryOp) (left right : Value) : Emission ρ Value := do
  let known? : Option Literal :=
    match ← known left, ← known right with
    | some left, some right => (left.binary op right).toOption
    | _, _ => none
  match known? with
  | some result => constant result
  | none =>
      let dtype ← ofExcept left.dtype
      let left ← operand left
      let right ← operand right
      spill dtype (← building (Building.binary op left right))

def unary (op : UnaryOp) (value : Value) : Emission ρ Value := do
  match ← known value with
  | some literal => constant (← ofExcept (literal.unary op))
  | none =>
      let dtype ← ofExcept value.dtype
      let element ← operand value
      spill dtype (← building (Building.unary op element))

def compare (op : CompareOp) (left right : Value) : Emission ρ Value := do
  match ← known left, ← known right with
  | some left, some right => constant (.bool (← ofExcept (left.compare op right)))
  | _, _ =>
      let left ← operand left
      let right ← operand right
      spill .bool (← building (Building.compare op left right))

def cast (value : Value) (dtype : DType) : Emission ρ Value := do
  match ← known value with
  | some literal => constant (literal.cast dtype)
  | none =>
      let element ← operand value
      spill dtype (← building (Building.cast element dtype))

/-! ### Control -/

/-- A bound of a loop in sixty-four bits. -/
def bound (limit : Nat) : Emission ρ Int64 :=
  if limit < Nat.pow 2 63 then
    pure (Int64.ofNat limit)
  else
    fail (.invalidArgument ("loop bound " ++ toString limit ++ " exceeds i64"))

/-- The loop is closed even when its body fails. -/
def closing (forLoop : ForLoop) (body : Emission ρ Unit) : Emission ρ Unit :=
  let close : Emission ρ Unit := building forLoop.close
  fun state =>
    let inner := { state with loopDepth := state.loopDepth + 1 }
    match body inner with
    | .ok () after => close { after with loopDepth := state.loopDepth }
    | .error (.abort message) after => .error (.abort message) after
    | .error fault after =>
        match close { after with loopDepth := state.loopDepth } with
        | .ok () closed => .error fault closed
        | .error later closed => .error later closed

def forRange (start stop step : Nat) (body : Scalar → Emission ρ Unit) : Emission ρ Unit := do
  if step = 0 then
    onHeap (throw (.abort "for_range step must be positive"))
  else if start ≥ stop then
    return
  else if (stop - start + (step - 1)) / step = 1 then
    body (← onHeap (Scalar.ofIndex start))
  else
    let label ← label "loop"
    let first ← bound start
    let limit ← bound stop
    let stride ← bound step
    let hint := (← state).hint
    let (forLoop, counter) ← building (ForLoop.opened label hint first limit stride)
    let index ← ofExcept (Scalar.ofValue (Value.emitted .i64 counter (some Layout.scalar)))
    closing forLoop (body index)

def closeBranch (merge : BlockId) : Emission ρ Unit :=
  building do
    if !(← get).isTerminated then
      Building.jump merge

def ifElse (condition : Value) (onTrue onFalse : Emission ρ Unit) : Emission ρ Unit := do
  match ← known condition with
  | some literal => if literal.isTrue then onTrue else onFalse
  | none =>
      let test ← operand condition
      let trueLabel ← label "if.then"
      let falseLabel ← label "if.else"
      let mergeLabel ← label "if.end"
      let trueBlock ← building (Building.appendBlock trueLabel)
      let falseBlock ← building (Building.appendBlock falseLabel)
      let merge ← building (Building.appendBlock mergeLabel)
      building do
        Building.branch test trueBlock falseBlock none
        Building.setInsertPoint trueBlock
      onTrue
      closeBranch merge
      building (Building.setInsertPoint falseBlock)
      onFalse
      closeBranch merge
      building (Building.setInsertPoint merge)

instance : Kernel (Emission ρ) where
  onHost := onHeap
  allocate := allocate
  state := takeState
  offset := offset
  known := known
  store := store
  move := move
  binary := binary
  unary := unary
  compare := compare
  cast := cast
  forRange := forRange
  ifElse := ifElse

end Emission
end TensorGraph

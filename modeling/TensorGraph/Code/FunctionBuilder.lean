/-
Building functions.

A builder keeps an insertion point and appends each instruction to that block.
Memory and addresses of globals are gathered in a prologue that goes to the top
of the entry block when the function is finished, so that a loop body obtains
its memory once a call.  Appending to a block that is closed, or that does not
exist, aborts.
-/

import TensorGraph.Code.Verify

namespace TensorGraph.Code

/-- A mutable global together with the image that a reset copies over it. -/
structure StateGlobal where
  state : String
  image : String
  bytes : Nat
  deriving DecidableEq, Repr

structure FunctionBuilder where
  function : Function
  current : BlockId
  nextBlock : Nat
  prologue : List Instruction
  /-- The registers that hold addresses of globals. -/
  addresses : List (String × Register)
  globals : List Global
  /-- Globals of the module that this function may name. -/
  imported : List (String × DType)
  states : List StateGlobal
  nameCounter : Nat

/-- A step of building a function. -/
abbrev Building := Action FunctionBuilder

namespace FunctionBuilder

/-- A function with one parameter register for each type, and an open entry block. -/
def start (name : String) (parameters : List RegisterType) : FunctionBuilder :=
  { function :=
      { name := name
        parameters := List.range parameters.length
        registerTypes := parameters.toArray
        blocks := [Block.empty 0 "entry"]
        exported := true }
    current := 0
    nextBlock := 1
    prologue := []
    addresses := []
    globals := []
    imported := []
    states := []
    nameCounter := 0 }

def parameter? (builder : FunctionBuilder) (index : Nat) : Option Register :=
  builder.function.parameters[index]?

def isTerminated (builder : FunctionBuilder) : Bool :=
  match builder.function.block? builder.current with
  | some block => block.terminator?.isSome
  | none => false

/-! ### Types -/

def typeOf (builder : FunctionBuilder) (register : Register) : Except Error RegisterType :=
  match builder.function.typeOf? register with
  | some type => .ok type
  | none => .error (.other ("unknown register " ++ registerText register))

def operandType (builder : FunctionBuilder) : Operand → Except Error RegisterType
  | .register register => builder.typeOf register
  | .constant value => .ok (.element value.dtype)

/-- The type of an operand that has to be an element. -/
def elementType (builder : FunctionBuilder) (operand : Operand) : Except Error DType := do
  match ← builder.operandType operand with
  | .element dtype => return dtype
  | .pointer dtype => throw (.typeMismatch "value" (dtype.name ++ "*"))

/-- What a register that has to be a pointer points to. -/
def pointeeType (builder : FunctionBuilder) (register : Register) : Except Error DType := do
  match ← builder.typeOf register with
  | .pointer dtype => return dtype
  | .element dtype => throw (.typeMismatch "pointer" dtype.name)

end FunctionBuilder

namespace Building

open FunctionBuilder

/-- A pure question to the builder. -/
def query {α : Type} (question : FunctionBuilder → Except Error α) : Building α := do
  Action.ofExcept (question (← get))

def sameTypes (left right : DType) : Building Unit :=
  if left = right then pure () else Action.fail (.dtypes left right)

def setExported (exported : Bool) : Building Unit :=
  modify fun builder => { builder with function := { builder.function with exported := exported } }

def newRegister (type : RegisterType) : Building Register :=
  modifyGet fun builder =>
    (builder.function.registerTypes.size,
      { builder with
        function :=
          { builder.function with registerTypes := builder.function.registerTypes.push type } })

/-! ### Blocks -/

/-- A new open block; the insertion point stays. -/
def appendBlock (label : String) : Building BlockId :=
  modifyGet fun builder =>
    (builder.nextBlock,
      { builder with
        nextBlock := builder.nextBlock + 1
        function :=
          { builder.function with
            blocks := builder.function.blocks ++ [Block.empty builder.nextBlock label] } })

def setInsertPoint (block : BlockId) : Building Unit :=
  modify fun builder => { builder with current := block }

/-- Changes the first block with the given number. -/
def changeBlock (id : BlockId) (change : Block → Block) : List Block → List Block
  | [] => []
  | block :: rest =>
      if block.id = id then change block :: rest else block :: changeBlock id change rest

/-- Changes the current block, which has to be open. -/
def onCurrent (closed : Block → String) (change : Block → Block) : Building Unit := do
  let builder ← get
  match builder.function.block? builder.current with
  | none => Action.abort ("block " ++ blockText builder.current ++ " does not exist")
  | some block =>
      if block.terminator?.isSome then
        Action.abort (closed block)
      else
        set
          { builder with
            function :=
              { builder.function with
                blocks := changeBlock builder.current change builder.function.blocks } }

def push (instruction : Instruction) : Building Unit :=
  onCurrent (fun block => "emitting into terminated block " ++ block.label) fun block =>
    { block with instructions := block.instructions ++ [instruction] }

def terminate (terminator : Terminator) : Building Unit :=
  onCurrent (fun block => "block " ++ block.label ++ " is already terminated") fun block =>
    { block with terminator? := some terminator }

def pushPrologue (instruction : Instruction) : Building Unit :=
  modify fun builder => { builder with prologue := builder.prologue ++ [instruction] }

/-! ### Memory -/

/-- Memory filled with zeros, obtained when the function is entered. -/
def alloca (dtype : DType) (count : Nat) : Building Register := do
  let target ← newRegister (.pointer dtype)
  pushPrologue (.alloca target dtype count)
  return target

/-- A global of this function; its name is made unique by a number. -/
def global (hint : String) (data : Storage) (isMutable : Bool) : Building String :=
  modifyGet fun builder =>
    let name := builder.function.name ++ "." ++ hint ++ "." ++ toString builder.nameCounter
    (name,
      { builder with
        nameCounter := builder.nameCounter + 1
        globals :=
          insertGlobal
            { name := name
              data := data
              isMutable := isMutable }
            builder.globals })

/-- A mutable global seeded with `data`, and the zeros that a reset restores. -/
def stateGlobal (hint : String) (data : Storage) : Building String := do
  let state ← global hint data true
  let image ← global (hint ++ ".reset") data.cleared false
  modify fun builder =>
    { builder with
      states := builder.states ++
        [{ state := state
           image := image
           bytes := data.size * data.dtype.width }] }
  return state

/-- Makes a global of the module known to this function. -/
def importGlobal (name : String) (dtype : DType) : Building Unit :=
  modify fun builder =>
    { builder with
      imported := (name, dtype) :: builder.imported.filter fun entry => entry.1 != name }

/-- The address of a global, taken once in the prologue. -/
def globalAddress (name : String) : Building Register := do
  let builder ← get
  match builder.addresses.lookup name with
  | some register => return register
  | none =>
      let own? := (builder.globals.find? fun global => global.name == name).map Global.dtype
      match own?.or (builder.imported.lookup name) with
      | none => Action.fail (.other ("unknown global '" ++ name ++ "'"))
      | some dtype =>
          let target ← newRegister (.pointer dtype)
          pushPrologue (.address target name)
          modify fun builder =>
            { builder with addresses := (name, target) :: builder.addresses }
          return target

/-- The pointer `index` elements after `base`; a constant zero leaves it as it is. -/
def offset (base : Register) (index : Operand) : Building Register := do
  let dtype ← query (·.pointeeType base)
  let indexType ← query (·.elementType index)
  sameTypes .i64 indexType
  if index = .constant (.i64 0) then
    return base
  let target ← newRegister (.pointer dtype)
  push (.offset target base index)
  return target

def load (pointer : Register) : Building Register := do
  let dtype ← query (·.pointeeType pointer)
  let target ← newRegister (.element dtype)
  push (.load target pointer)
  return target

def store (pointer : Register) (value : Operand) : Building Unit := do
  let pointee ← query (·.pointeeType pointer)
  let stored ← query (·.elementType value)
  sameTypes pointee stored
  push (.store pointer value)

def move (destination source : Register) (bytes : Nat) : Building Unit := do
  let destinationType ← query (·.pointeeType destination)
  let sourceType ← query (·.pointeeType source)
  sameTypes destinationType sourceType
  push (.move destination source bytes)

def call (function : String) (arguments : List Operand) : Building Unit :=
  push (.call function arguments)

/-! ### Arithmetic -/

def binary (op : BinaryOp) (left right : Operand) : Building Register := do
  let leftType ← query (·.elementType left)
  let rightType ← query (·.elementType right)
  sameTypes leftType rightType
  let target ← newRegister (.element leftType)
  push (.binary target op left right)
  return target

def unary (op : UnaryOp) (operand : Operand) : Building Register := do
  let dtype ← query (·.elementType operand)
  let target ← newRegister (.element dtype)
  push (.unary target op operand)
  return target

def compare (op : CompareOp) (left right : Operand) : Building Register := do
  let leftType ← query (·.elementType left)
  let rightType ← query (·.elementType right)
  sameTypes leftType rightType
  let target ← newRegister (.element .bool)
  push (.compare target op left right)
  return target

def cast (operand : Operand) (dtype : DType) : Building Register := do
  let _ ← query (·.elementType operand)
  let target ← newRegister (.element dtype)
  push (.cast target operand dtype)
  return target

/-! ### Terminators -/

def jump (target : BlockId) : Building Unit :=
  terminate (.jump target)

def branch (condition : Operand) (onTrue onFalse : BlockId) (hint? : Option LoopHint) :
    Building Unit := do
  let dtype ← query (·.elementType condition)
  sameTypes .bool dtype
  terminate (.branch condition onTrue onFalse hint?)

def leave : Building Unit :=
  terminate .leave

/-- Closes the function: an open current block returns, the prologue goes to the top
of the entry block, and the result is verified. -/
def finish : Building Function := do
  if !(← get).isTerminated then
    leave
  modify fun builder =>
    { builder with
      prologue := []
      function :=
        { builder.function with
          blocks :=
            match builder.function.blocks with
            | [] => []
            | entry :: rest =>
                { entry with instructions := builder.prologue ++ entry.instructions } :: rest } }
  let function := (← get).function
  Action.ofExcept function.verify
  return function

end Building
end TensorGraph.Code

/-
Code.

A module is a set of named globals and a list of functions.  A function is a
list of basic blocks over numbered, typed registers; a block is a straight run
of instructions closed by one terminator.  Memory is addressed in bytes: an
`offset` counts elements of the pointed-to type, and the length of a `move` is
a number of bytes.
-/

import TensorGraph.Storage

namespace TensorGraph.Code

/-- The number of a register. -/
abbrev Register := Nat

/-- The number of a block. -/
abbrev BlockId := Nat

inductive RegisterType where
  | element (dtype : DType)
  | pointer (dtype : DType)
  deriving DecidableEq, Repr

/-- The element type, held or pointed to. -/
def RegisterType.dtype : RegisterType → DType
  | element dtype | pointer dtype => dtype

def RegisterType.isPointer : RegisterType → Bool
  | element _ => false
  | pointer _ => true

inductive Operand where
  | register (register : Register)
  | constant (value : Literal)
  deriving DecidableEq

namespace Operand

def register? : Operand → Option Register
  | register number => some number
  | constant _ => none

def constant? : Operand → Option Literal
  | register _ => none
  | constant value => some value

end Operand

/-- One instruction.  `target` is the register that it defines; `move` and `store`
write through pointers and define none. -/
inductive Instruction where
  /-- Fresh memory filled with zeros, released when the function returns. -/
  | alloca (target : Register) (dtype : DType) (count : Nat)
  /-- The address of a global. -/
  | address (target : Register) (name : String)
  /-- The pointer `index` elements after `base`. -/
  | offset (target base : Register) (index : Operand)
  | load (target pointer : Register)
  | store (pointer : Register) (value : Operand)
  | binary (target : Register) (op : BinaryOp) (left right : Operand)
  | unary (target : Register) (op : UnaryOp) (operand : Operand)
  | compare (target : Register) (op : CompareOp) (left right : Operand)
  | cast (target : Register) (operand : Operand) (dtype : DType)
  /-- `bytes` bytes copied between two places that may overlap. -/
  | move (destination source : Register) (bytes : Nat)
  | call (function : String) (arguments : List Operand)
  deriving DecidableEq

namespace Instruction

/-- The register that an instruction defines. -/
def target? : Instruction → Option Register
  | alloca target _ _ | address target _ | offset target _ _ | load target _
  | binary target _ _ _ | unary target _ _ | compare target _ _ _ | cast target _ _ => some target
  | store _ _ | move _ _ _ | call _ _ => none

/-- The effect is visible beyond the defined register. -/
def hasSideEffects : Instruction → Bool
  | store _ _ | move _ _ _ | call _ _ => true
  | _ => false

/-- The registers that an instruction reads, in the order of its operands. -/
def uses : Instruction → List Register
  | alloca _ _ _ | address _ _ => []
  | offset _ base index => base :: index.register?.toList
  | load _ pointer => [pointer]
  | store pointer value => pointer :: value.register?.toList
  | binary _ _ left right | compare _ _ left right =>
      left.register?.toList ++ right.register?.toList
  | unary _ _ operand | cast _ operand _ => operand.register?.toList
  | move destination source _ => [destination, source]
  | call _ arguments => arguments.filterMap Operand.register?

/-- The operands that may hold a constant in place of a register. -/
def operands : Instruction → List Operand
  | offset _ _ index => [index]
  | store _ value => [value]
  | binary _ _ left right | compare _ _ left right => [left, right]
  | unary _ _ operand | cast _ operand _ => [operand]
  | call _ arguments => arguments
  | alloca _ _ _ | address _ _ | load _ _ | move _ _ _ => []

/-- The same instruction with every such operand replaced. -/
def mapOperands (change : Operand → Operand) : Instruction → Instruction
  | offset target base index => offset target base (change index)
  | store pointer value => store pointer (change value)
  | binary target op left right => binary target op (change left) (change right)
  | unary target op operand => unary target op (change operand)
  | compare target op left right => compare target op (change left) (change right)
  | cast target operand dtype => cast target (change operand) dtype
  | call function arguments => call function (arguments.map change)
  | other => other

end Instruction

/-- Hints on the branch that closes a loop.  They never change what runs. -/
structure LoopHint where
  unroll : Bool
  parallel : Bool
  deriving DecidableEq, Repr

def LoopHint.none : LoopHint :=
  { unroll := false
    parallel := false }

def LoopHint.isEmpty (hint : LoopHint) : Bool :=
  !hint.unroll && !hint.parallel

inductive Terminator where
  | jump (target : BlockId)
  | branch (condition : Operand) (onTrue onFalse : BlockId) (hint? : Option LoopHint)
  | leave
  deriving DecidableEq

namespace Terminator

def successors : Terminator → List BlockId
  | jump target => [target]
  | branch _ onTrue onFalse _ => [onTrue, onFalse]
  | leave => []

/-- Every target put through `change`. -/
def mapTargets (change : BlockId → BlockId) : Terminator → Terminator
  | jump target => jump (change target)
  | branch condition onTrue onFalse hint? => branch condition (change onTrue) (change onFalse) hint?
  | leave => leave

/-- Every target `source` replaced by `target`. -/
def retarget (source target : BlockId) (terminator : Terminator) : Terminator :=
  terminator.mapTargets fun block => if block = source then target else block

end Terminator

structure Block where
  id : BlockId
  label : String
  instructions : List Instruction
  terminator? : Option Terminator
  deriving DecidableEq

def Block.empty (id : BlockId) (label : String) : Block :=
  { id := id
    label := label
    instructions := []
    terminator? := none }

/-- A function.  The first block is the entry. -/
structure Function where
  name : String
  parameters : List Register
  registerTypes : Array RegisterType
  blocks : List Block
  exported : Bool
  deriving DecidableEq

namespace Function

def entry? (function : Function) : Option BlockId :=
  function.blocks.head?.map Block.id

/-- The first block with the given number. -/
def block? (function : Function) (id : BlockId) : Option Block :=
  function.blocks.find? fun block => block.id == id

def typeOf? (function : Function) (register : Register) : Option RegisterType :=
  function.registerTypes[register]?

def instructions (function : Function) : List Instruction :=
  function.blocks.flatMap Block.instructions

def instructionCount (function : Function) : Nat :=
  function.instructions.length

/-- The names of the functions that this one calls, call by call. -/
def callees (function : Function) : List String :=
  function.instructions.filterMap fun instruction =>
    match instruction with
    | .call callee _ => some callee
    | _ => none

/-- The names of the globals whose address this function takes. -/
def referencedGlobals (function : Function) : List String :=
  function.instructions.filterMap fun instruction =>
    match instruction with
    | .address _ name => some name
    | _ => none

end Function

/-- Named memory with its first contents. -/
structure Global where
  name : String
  data : Storage
  isMutable : Bool
  deriving DecidableEq

def Global.dtype (global : Global) : DType :=
  global.data.dtype

/-- Size of the memory image. -/
def Global.byteSize (global : Global) : Nat :=
  global.data.size * global.dtype.width

/-- A module.  The globals are kept in the order of their names. -/
structure Module where
  name : String
  globals : List Global
  functions : List Function
  deriving DecidableEq

namespace Module

def empty (name : String) : Module :=
  { name := name
    globals := []
    functions := [] }

def function? (module : Module) (name : String) : Option Function :=
  module.functions.find? fun function => function.name == name

def global? (module : Module) (name : String) : Option Global :=
  module.globals.find? fun global => global.name == name

end Module

/-- A global put into a list in the order of names, in the place of one of the same
name. -/
def insertGlobal (global : Global) : List Global → List Global
  | [] => [global]
  | head :: rest =>
      if global.name = head.name then global :: rest
      else if global.name < head.name then global :: head :: rest
      else head :: insertGlobal global rest

end TensorGraph.Code

/-
Constant folding.

Registers computed from constants are replaced by the constants themselves.
Evaluation uses the arithmetic of literals, and an operation that fails to
evaluate is left for run time.  The order of blocks says nothing about the order
of execution, so all constants are collected before anything is rewritten.
-/

import TensorGraph.Code.Syntax

namespace TensorGraph.Optimize

open Code

/-- Registers with the constants that they hold. -/
abbrev Constants := List (Register × Literal)

namespace Constants

/-- The value of an operand, where it is known. -/
def value? (constants : Constants) : Operand → Option Literal
  | .constant value => some value
  | .register register => constants.lookup register

/-- The register that an instruction defines and its value, where all operands are
known and the operation succeeds. -/
def evaluate? (constants : Constants) : Instruction → Option (Register × Literal)
  | .binary target op left right => do
      let left ← constants.value? left
      let right ← constants.value? right
      let result ← (left.binary op right).toOption
      return (target, result)
  | .unary target op operand => do
      let operand ← constants.value? operand
      let result ← (operand.unary op).toOption
      return (target, result)
  | .compare target op left right => do
      let left ← constants.value? left
      let right ← constants.value? right
      let result ← (left.compare op right).toOption
      return (target, .bool result)
  | .cast target operand dtype => do
      let operand ← constants.value? operand
      return (target, operand.cast dtype)
  | _ => none

def holds (constants : Constants) (register : Register) : Bool :=
  (constants.lookup register).isSome

/-- One instruction taken into account; the first constant of a register stays. -/
def collect (constants : Constants) (instruction : Instruction) : Constants :=
  if (instruction.target?.map constants.holds).getD false then
    constants
  else
    match constants.evaluate? instruction with
    | some found => found :: constants
    | none => constants

/-- Rounds over all instructions until one finds nothing new.  `rounds` bounds their
number. -/
def collectAll (instructions : List Instruction) : Nat → Constants → Constants
  | 0, constants => constants
  | rounds + 1, constants =>
      let next := instructions.foldl collect constants
      if next.length = constants.length then
        next
      else
        collectAll instructions rounds next

/-- The constants of a function.  Every round but the last finds a register more. -/
def ofFunction (function : Function) : Constants :=
  collectAll function.instructions (function.instructionCount + 1) []

/-- A register that holds a constant replaced by it. -/
def substitute (constants : Constants) : Operand → Operand
  | .register register =>
      match constants.lookup register with
      | some value => .constant value
      | none => .register register
  | operand => operand

def isRewritten (constants : Constants) (operand : Operand) : Bool :=
  (operand.register?.map constants.holds).getD false

def isComputed (constants : Constants) (instruction : Instruction) : Bool :=
  (instruction.target?.map constants.holds).getD false

/-- The block without the instructions that only computed constants, with the
constants in their place, and whether that changed anything. -/
def foldBlock (constants : Constants) (block : Block) : Block × Bool :=
  let kept := block.instructions.filter fun instruction => !constants.isComputed instruction
  let rewritten := kept.any fun instruction => instruction.operands.any constants.isRewritten
  let target? :=
    match block.terminator? with
    | some (.branch condition onTrue onFalse _) =>
        (constants.value? condition).map fun value => if value.isTrue then onTrue else onFalse
    | _ => none
  ({ block with
      instructions := kept.map (Instruction.mapOperands constants.substitute)
      terminator? :=
        match target? with
        | some target => some (.jump target)
        | none => block.terminator? },
    kept.length != block.instructions.length || rewritten || target?.isSome)

end Constants

/-- Folds constants, and says whether anything changed. -/
def foldConstants (function : Function) : Function × Bool :=
  let constants := Constants.ofFunction function
  let folded := function.blocks.map constants.foldBlock
  ({ function with blocks := folded.map Prod.fst }, folded.any Prod.snd)

end TensorGraph.Optimize

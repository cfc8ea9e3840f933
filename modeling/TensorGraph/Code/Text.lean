/-
Code as text.

One line an instruction, indented below its block; registers are written `%n`,
blocks `bbn` and globals `@name`.
-/

import TensorGraph.Code.Syntax
import TensorGraph.Literal.Text

namespace TensorGraph.Code

def registerText (register : Register) : String :=
  "%" ++ toString register

def blockText (block : BlockId) : String :=
  "bb" ++ toString block

def RegisterType.text : RegisterType → String
  | element dtype => dtype.name
  | pointer dtype => dtype.name ++ "*"

def Operand.text : Operand → String
  | register number => registerText number
  | constant value => value.text .shortest

private def defining (target : Register) (rest : String) : String :=
  registerText target ++ " = " ++ rest

private def listed (items : List String) : String :=
  ", ".intercalate items

def Instruction.text : Instruction → String
  | alloca target dtype count =>
      defining target ("alloca " ++ dtype.name ++ " x " ++ toString count)
  | address target name => defining target ("addr @" ++ name)
  | offset target base index =>
      defining target ("gep " ++ registerText base ++ ", " ++ index.text)
  | load target pointer => defining target ("load " ++ registerText pointer)
  | store pointer value => "store " ++ value.text ++ ", " ++ registerText pointer
  | binary target op left right =>
      defining target (op.name ++ " " ++ left.text ++ ", " ++ right.text)
  | unary target op operand => defining target (op.name ++ " " ++ operand.text)
  | compare target op left right =>
      defining target ("cmp " ++ op.name ++ " " ++ left.text ++ ", " ++ right.text)
  | cast target operand dtype =>
      defining target ("cast " ++ operand.text ++ " to " ++ dtype.name)
  | move destination source bytes =>
      "memmove " ++ registerText destination ++ ", " ++ registerText source ++ ", " ++
        toString bytes ++ " bytes"
  | call function arguments =>
      "call @" ++ function ++ "(" ++ listed (arguments.map Operand.text) ++ ")"

private def flagText (flag : Bool) : String :=
  if flag then "true" else "false"

def LoopHint.text (hint : LoopHint) : String :=
  " !loop(unroll=" ++ flagText hint.unroll ++ ", parallel=" ++ flagText hint.parallel ++ ")"

def Terminator.text : Terminator → String
  | jump target => "br " ++ blockText target
  | branch condition onTrue onFalse hint? =>
      "br " ++ condition.text ++ ", " ++ blockText onTrue ++ ", " ++ blockText onFalse ++
        (hint?.map LoopHint.text).getD ""
  | leave => "ret"

private def line (text : String) : String :=
  "    " ++ text ++ "\n"

def Block.text (block : Block) : String :=
  blockText block.id ++ ":  ; " ++ block.label ++ "\n" ++
    String.join (block.instructions.map fun instruction => line instruction.text) ++
    line ((block.terminator?.map Terminator.text).getD "<unterminated>")

private def Function.parameterText (function : Function) (register : Register) : String :=
  match function.typeOf? register with
  | some type => registerText register ++ ": " ++ type.text
  | none => registerText register

def Function.text (function : Function) : String :=
  (if function.exported then "export " else "") ++ "fn @" ++ function.name ++ "(" ++
    listed (function.parameters.map function.parameterText) ++ ") \x7b\n" ++
    String.join (function.blocks.map Block.text) ++ "\x7d\n"

def Global.text (global : Global) : String :=
  "@" ++ global.name ++ " = " ++ (if global.isMutable then "global" else "constant") ++ " " ++
    global.dtype.name ++ " x " ++ toString global.data.size ++ "\n"

def Module.text (module : Module) : String :=
  "; module " ++ module.name ++ "\n" ++ String.join (module.globals.map Global.text) ++
    String.join (module.functions.map fun function => "\n" ++ function.text)

end TensorGraph.Code

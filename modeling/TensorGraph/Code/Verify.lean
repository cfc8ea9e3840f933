/-
Well-formed code.

Every block is closed, every branch leads to a block of the function, every
register is defined once and has a type, and every global that is named exists.
-/

import TensorGraph.Code.Text

namespace TensorGraph.Code

private def inFunction (function : Function) (reason : String) : Error :=
  .other ("function '" ++ function.name ++ "': " ++ reason)

/-- The registers defined by some instructions added to those defined before. -/
def Function.checkDefinitions (function : Function) :
    List Instruction → List Register → Except Error (List Register)
  | [], defined => .ok defined
  | instruction :: rest, defined =>
      match instruction.target? with
      | none => function.checkDefinitions rest defined
      | some target =>
          if defined.contains target then
            .error (inFunction function ("register " ++ registerText target ++ " defined twice"))
          else if (function.typeOf? target).isNone then
            .error (inFunction function ("register " ++ registerText target ++ " has no type"))
          else
            function.checkDefinitions rest (target :: defined)

/-- One block after another, with the registers defined so far. -/
def Function.checkBlocks (function : Function) : List Block → List Register → Except Error Unit
  | [], _ => .ok ()
  | block :: rest, defined =>
      match block.terminator? with
      | none => .error (inFunction function ("block " ++ block.label ++ " has no terminator"))
      | some terminator =>
          match terminator.successors.find? fun target => (function.block? target).isNone with
          | some missing =>
              .error (inFunction function ("block " ++ block.label ++
                " branches to missing block " ++ blockText missing))
          | none => do
              let defined ← function.checkDefinitions block.instructions defined
              function.checkBlocks rest defined

def Function.verify (function : Function) : Except Error Unit :=
  function.checkBlocks function.blocks function.parameters

def Module.checkGlobals (module : Module) (function : Function) : Except Error Unit :=
  match function.referencedGlobals.find? fun name => (module.global? name).isNone with
  | some missing =>
      .error (.other ("function '" ++ function.name ++ "' references unknown global '" ++
        missing ++ "'"))
  | none => .ok ()

def Module.checkFunctions (module : Module) : List Function → Except Error Unit
  | [] => .ok ()
  | function :: rest => do
      function.verify
      module.checkGlobals function
      module.checkFunctions rest

def Module.verify (module : Module) : Except Error Unit :=
  module.checkFunctions module.functions

end TensorGraph.Code

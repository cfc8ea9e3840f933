/-
Fields.

Fields are the named arguments from which a node is made and which it writes
down.  A reader takes the fields that it knows and passes over the others.  The
ports that a node reads stand in the field `inputs`.
-/

import TensorGraph.Graph.Connect
import TensorGraph.Json.Basic

namespace TensorGraph

/-- Named values, sorted by name. -/
structure Fields where
  entries : List (String × Json)

namespace Fields

def empty : Fields :=
  { entries := [] }

instance : Inhabited Fields where
  default := empty

/-- The fields in an order that does not depend on how they were given. -/
def ofEntries (entries : List (String × Json)) : Fields :=
  { entries := entries.foldl (fun found (key, value) => Json.insertSorted key value found) [] }

def set (fields : Fields) (key : String) (value : Json) : Fields :=
  { entries := Json.insertSorted key value fields.entries }

def erase (fields : Fields) (key : String) : Fields :=
  { entries := Json.eraseKey key fields.entries }

def get? (fields : Fields) (key : String) : Option Json :=
  fields.entries.lookup key

def contains (fields : Fields) (key : String) : Bool :=
  (fields.get? key).isSome

def keys (fields : Fields) : List String :=
  fields.entries.map Prod.fst

/-- A field of a known form. -/
def read {α : Type} (fields : Fields) (key : String) (decode : Json → Option α) :
    Except Error α :=
  match fields.get? key with
  | none => .error (.archive ("missing field '" ++ key ++ "'"))
  | some value =>
      match decode value with
      | some decoded => .ok decoded
      | none => .error (.archive ("field '" ++ key ++ "': unexpected form"))

/-- A field that may be left out. -/
def readOr {α : Type} (fields : Fields) (key : String) (decode : Json → Option α)
    (default : α) : Except Error α :=
  if fields.contains key then
    fields.read key decode
  else
    .ok default

end Fields

/-! ### Forms of values -/

def DType.ofDocument? : Json → Option DType :=
  Json.choice? DType.ofName?

def BinaryOp.ofDocument? : Json → Option BinaryOp :=
  Json.choice? BinaryOp.ofName?

namespace EpsilonSummand

def name : EpsilonSummand → String
  | variance => "variance"
  | sqrtVariance => "sqrt_variance"

def ofName? (text : String) : Option EpsilonSummand :=
  [variance, sqrtVariance].find? fun summand => summand.name == text

def ofDocument? : Json → Option EpsilonSummand :=
  Json.choice? ofName?

end EpsilonSummand

namespace PoolingKind

def name : PoolingKind → String
  | max => "max"
  | mean => "mean"

def ofName? (text : String) : Option PoolingKind :=
  [max, mean].find? fun kind => kind.name == text

def ofDocument? : Json → Option PoolingKind :=
  Json.choice? ofName?

end PoolingKind

namespace ActivationFunction

/-- The tag of a function, and its parameter when it has one. -/
def document : ActivationFunction → Json
  | relu => .object [("type", .string "relu")]
  | leakyRelu alpha => .object [("alpha", .ofFloat alpha), ("type", .string "leaky_relu")]
  | sigmoid => .object [("type", .string "sigmoid")]
  | tanh => .object [("type", .string "tanh")]
  | hardSigmoid => .object [("type", .string "hard_sigmoid")]

def ofTag? (tag : String) (alpha : Option Json) : Option ActivationFunction :=
  match tag with
  | "relu" => some relu
  | "leaky_relu" => do return leakyRelu (← (← alpha).number?)
  | "sigmoid" => some sigmoid
  | "tanh" => some tanh
  | "hard_sigmoid" => some hardSigmoid
  | _ => none

def hasParameter (tag : String) : Bool :=
  tag == "leaky_relu"

/-- A tagged object, or an array of the tag and the parameter. -/
def ofDocument? : Json → Option ActivationFunction
  | .object entries => do
      let tag ← (← entries.lookup "type").text?
      ofTag? tag (entries.lookup "alpha")
  | .array [.string tag] => if hasParameter tag then none else ofTag? tag none
  | .array [.string tag, alpha] => if hasParameter tag then ofTag? tag (some alpha) else none
  | _ => none

end ActivationFunction

namespace Port

def document (port : Port) : Json :=
  .object [("node", .nat port.node), ("output", .nat port.output)]

def ofDocument? (document : Json) : Option Port :=
  match document.record? ["node", "output"] 2 with
  | some [some node, some output] => do
      return { node := ← node.natural?
               output := ← output.natural? }
  | _ => none

end Port

namespace Fields

/-- The ports that a node is to read; none when nothing is said of them. -/
def inputs (fields : Fields) : Except Error (List Port) :=
  fields.readOr "inputs" (Json.list? Port.ofDocument?) []

def input (fields : Fields) (position : Nat) : Except Error Port := do
  sourceAt (← fields.inputs) position

def withInputs (fields : Fields) (ports : List Port) : Fields :=
  fields.set "inputs" (.array (ports.map Port.document))

end Fields
end TensorGraph

/-
Documents that build models and maps.
-/

import TensorGraph.Archive.Registry
import TensorGraph.Document.Code
import TensorGraph.Graph.Compile

namespace TensorGraph.Document

/-- A port as a pair of its node and its number. -/
def asPort : Json → Reading Port
  | .array [node, output] => do
      return { node := ← asNat node
               output := ← asNat output }
  | _ => malformed "port"

def portField (document : Json) (key : String) : Reading Port := do
  asPort (← field document key)

def numbersField (document : Json) (key : String) : Reading (List Float) := do
  asNumbers (← field document key)

/-- Rows of numbers, one a port. -/
def asRows (document : Json) : Reading (List (List Float)) := do
  (← asArray document).mapM asNumbers

/-- Free fields, whatever they hold. -/
def asFields (document : Json) : Reading Fields :=
  match document.sorted? (document.height + 1) with
  | some (.object entries) => .ok (Fields.ofEntries entries)
  | _ => malformed "fields"

def asKind (document : Json) : Reading Kind := do
  let name ← asString document
  match Kind.ofName? name with
  | some kind => .ok kind
  | none => malformed ("kind " ++ name)

/-- Pairs of a name and a kind; without them every kind has its own name. -/
def asRegistry (document : Json) : Reading Registry := do
  match ← option document "registry" asArray with
  | none => return Registry.standard
  | some entries =>
      entries.foldlM (fun registry entry => do
        match entry with
        | .array [.string name, kind] => return registry.register name (← asKind kind)
        | _ => malformed "registry") Registry.empty

def asFeeds (document : Json) : Reading (List Feed) := do
  match ← field document "feeds" with
  | .object entries =>
      entries.mapM fun (key, buffer) => do
        match key.toNat? with
        | none => malformed ("node " ++ key)
        | some node => do
            let data ← asBuffer buffer
            let layout ← option buffer "layout" asLayout
            return { node := node
                     data := data
                     layout := layout.getD (Layout.packed [data.size]) }
  | _ => malformed "feeds"

private def asLstm (document : Json) : Reading (Operation × List Port) := do
  let start := LstmWeights.plain (← natField document "hidden_units")
    (← numbersField document "input_weights") (← numbersField document "hidden_weights")
  let biased ←
    match ← option document "input_bias" asNumbers with
    | none => .ok start
    | some inputBias => do
        .ok { start with
          inputBias := inputBias
          hiddenBias := ← numbersField document "hidden_bias" }
  let weights : LstmWeights :=
    if ← flag document "piecewise" then
      { biased with
        activation := .relu
        recurrent := .hardSigmoid }
    else
      biased
  let trigger? ← option document "trigger" asPort
  return (.lstm weights, (← portField document "input") :: trigger?.toList)

private def asInsertedOperation (document : Json) : Kind → Reading Operation
  | .bias => do return .bias (← numbersField document "bias")
  | .scaling => do return .scaling (← numbersField document "scale")
  | .fullyConnected => do
      return .fullyConnected (← natField document "units") (← numbersField document "weights")
  | .denseLayer => do
      return .denseLayer
        { units := ← natField document "units"
          weights := ← numbersField document "weights"
          bias := ← numbersField document "bias"
          function := .relu }
  | .batchNormalization => do
      return .batchNormalization
        { mean := ← numbersField document "mean"
          variance := ← numbersField document "variance"
          epsilon := ← asNumber (← field document "epsilon")
          summand := .variance }
  | .convolution => do
      return .convolution
        { filters := ← natField document "filters"
          kernel := ← natField document "kernel_size"
          stride := 1
          padding := 0
          weights := ← numbersField document "weights" }
  | kind => malformed ("kind " ++ kind.name)

/-- An operation with its parameters as numbers, and the ports that it reads. -/
def asInsertion (document : Json) : Reading (Operation × List Port) := do
  match ← asKind (← field document "kind") with
  | .constant => do
      let operation ← lift (Operation.constantOfFloats (← asDType (← field document "dtype"))
        (← numbersField document "values") (← natList (← field document "shape")))
      return (operation, [])
  | .lstm => asLstm document
  | kind => do
      return (← asInsertedOperation document kind, [← portField document "input"])

private def asNamed {α : Type} (read : Json → Reading α) : Json → Reading (String × α)
  | .array [.string name, target] => do return (name, ← read target)
  | _ => malformed "named port"

def asMapInputs (document : Json) : Reading (List (String × NodeId)) := do
  (← arrayField document "inputs").mapM (asNamed asNat)

def asMapOutputs (document : Json) : Reading (List (String × Port)) := do
  (← arrayField document "outputs").mapM (asNamed asPort)

def asCompilerOptions (document : Json) : Reading CompilerOptions := do
  let standard := CompilerOptions.standard
  let optimizer? ← option document "optimizer" asOptimizer
  let name? ← option document "function_name" asString
  let optimize? ← option document "optimize" asBool
  let passes? ← option document "refine_iterations" asNat
  return { functionName := name?.getD standard.functionName
           optimize := optimize?.getD standard.optimize
           config := (optimizer?.map Optimize.Optimizer.config).getD standard.config
           hint :=
             { unroll := ← flag document "unroll"
               parallel := ← flag document "parallel" }
           refinePasses := passes?.getD standard.refinePasses }

/-! ### Writing -/

def shapeParts (port : OutputPort) : List Json :=
  [.string port.dtype.name, .nats port.sizes, .nat port.size]

def ofNode (id : NodeId) (node : Node) : Json :=
  let input (port : InputPort) : Json :=
    .array
      [.string port.name, .string port.source.text, .string port.dtype.name, .nats port.sizes,
        .nat port.size]
  .object
    [("id", .string (nodeText id)),
     ("kind", .string node.kind.name),
     ("inputs", .array (node.inputs.map input)),
     ("outputs", .array (node.outputs.map fun port =>
       .array (.string port.name :: shapeParts port))),
     ("state", .bool node.hasState)]

def ofSpec (spec : PortSpec) : Json :=
  .object
    [("name", .string spec.name),
     ("dtype", .string spec.dtype.name),
     ("shape", .nats spec.shape),
     ("size", .nat spec.size)]

def ofSpecs (specs : List PortSpec) : Json :=
  .array (specs.map ofSpec)

/-- The parameters of a node, in a form of their own for each kind. -/
def ofParameters (floats : FloatText) (node : Node) : Json :=
  match node.operation with
  | .input dtype sizes =>
      .array [.string dtype.name, .nats sizes, .nat (elementCount sizes)]
  | .constant values _ => ofStorage floats values
  | .activation function => function.document
  | .binary op => .string op.name
  | .bias values | .scaling values => ofNumbers floats values
  | .batchNormalization statistics => ofNumbers floats statistics.scale
  | .fullyConnected units weights => .array [.nat units, ofNumbers floats weights]
  | .delay window => .nat window
  | .lstm weights => .array [.nat weights.hiddenUnits, .bool (node.inputs.length > 1)]
  | _ => .string "ok"

end TensorGraph.Document

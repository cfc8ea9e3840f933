/-
Registries and descriptions.

`Operation.fields` writes an operation down, and `Kind.describe` reads an
operation of a given kind together with the ports that its node is to read.
Parameters that have a usual value may be left out.  A registry gives names to
the kinds of nodes that can be made by name.  Nothing has a name that was not
registered.
-/

import TensorGraph.Archive.Buffer

namespace TensorGraph

def Operation.fields (operation : Operation) : Fields :=
  Fields.ofEntries <|
    match operation with
    | .input dtype sizes => [("dtype", .string dtype.name), ("shape", .nats sizes)]
    | .constant values sizes =>
        [("shape", .nats sizes), ("values", (BufferRecord.ofStorage values).fieldDocument)]
    | .activation function => [("function", function.document)]
    | .binary op => [("operation", .string op.name)]
    | .bias values => [("bias", .floats values)]
    | .scaling values => [("scale", .floats values)]
    | .batchNormalization statistics =>
        [("mean", .floats statistics.mean),
         ("variance", .floats statistics.variance),
         ("epsilon", .ofFloat statistics.epsilon),
         ("epsilon_summand", .string statistics.summand.name)]
    | .fullyConnected units weights => [("units", .nat units), ("weights", .floats weights)]
    | .convolution parameters =>
        [("filters", .nat parameters.filters),
         ("kernel_size", .nat parameters.kernel),
         ("stride", .nat parameters.stride),
         ("padding", .nat parameters.padding),
         ("weights", .floats parameters.weights)]
    | .pooling kind window stride =>
        [("pooling", .string kind.name), ("window", .nat window), ("stride", .nat stride)]
    | .softmax => []
    | .regionDetection anchors classes => [("anchors", .nat anchors), ("classes", .nat classes)]
    | .denseLayer parameters =>
        [("units", .nat parameters.units),
         ("weights", .floats parameters.weights),
         ("bias", .floats parameters.bias),
         ("activation", parameters.function.document)]
    | .delay window => [("window_size", .nat window)]
    | .lstm weights =>
        [("hidden_units", .nat weights.hiddenUnits),
         ("input_weights", .floats weights.inputWeights),
         ("hidden_weights", .floats weights.hiddenWeights),
         ("input_bias", .floats weights.inputBias),
         ("hidden_bias", .floats weights.hiddenBias),
         ("activation", weights.activation.document),
         ("recurrent_activation", weights.recurrent.document)]

namespace Kind

def naturals? : Json → Option (List Nat) :=
  Json.list? Json.natural?

def numbers? : Json → Option (List Float) :=
  Json.list? Json.number?

/-- The values of a constant are an archived buffer, or numbers of a type that is
given beside them. -/
def describeConstant (fields : Fields) : Except Error Operation := do
  let sizes ← fields.read "shape" naturals?
  match fields.read "values" BufferRecord.ofDocument? with
  | .ok buffer => return .constant (← buffer.toStorage) sizes
  | .error _ => do
      let dtype ← fields.read "dtype" DType.ofDocument?
      Operation.constantOfFloats dtype (← fields.read "values" numbers?) sizes

def describeLstm (fields : Fields) : Except Error (Operation × List Port) := do
  let units ← fields.read "hidden_units" Json.natural?
  let zeros := LstmWeights.zeroBias units
  let weights : LstmWeights :=
    { hiddenUnits := units
      inputWeights := ← fields.read "input_weights" numbers?
      hiddenWeights := ← fields.read "hidden_weights" numbers?
      inputBias := ← fields.readOr "input_bias" numbers? zeros
      hiddenBias := ← fields.readOr "hidden_bias" numbers? zeros
      activation := ← fields.readOr "activation" ActivationFunction.ofDocument? .tanh
      recurrent := ← fields.readOr "recurrent_activation" ActivationFunction.ofDocument? .sigmoid }
  let trigger? := (← fields.inputs)[1]?
  return (.lstm weights, (← fields.input 0) :: trigger?.toList)

/-- An operation of the kind, and the ports that its node is to read. -/
def describe (kind : Kind) (fields : Fields) : Except Error (Operation × List Port) := do
  let natural (key : String) := fields.read key Json.natural?
  let numbers (key : String) := fields.read key numbers?
  match kind with
  | .input => do
      let dtype ← fields.read "dtype" DType.ofDocument?
      return (.input dtype (← fields.read "shape" naturals?), [])
  | .constant => do return (← describeConstant fields, [])
  | .activation => do
      let source ← fields.input 0
      return (.activation (← fields.read "function" ActivationFunction.ofDocument?), [source])
  | .binary => do
      let left ← fields.input 0
      let right ← fields.input 1
      return (.binary (← fields.read "operation" BinaryOp.ofDocument?), [left, right])
  | .bias => do
      let source ← fields.input 0
      return (.bias (← numbers "bias"), [source])
  | .scaling => do
      let source ← fields.input 0
      return (.scaling (← numbers "scale"), [source])
  | .batchNormalization => do
      let source ← fields.input 0
      let statistics : Normalization :=
        { mean := ← numbers "mean"
          variance := ← numbers "variance"
          epsilon := ← fields.readOr "epsilon" Json.number? 1e-5
          summand := ← fields.readOr "epsilon_summand" EpsilonSummand.ofDocument? .variance }
      return (.batchNormalization statistics, [source])
  | .fullyConnected => do
      let source ← fields.input 0
      let units ← natural "units"
      return (.fullyConnected units (← numbers "weights"), [source])
  | .convolution => do
      let source ← fields.input 0
      let parameters : ConvolutionWeights :=
        { filters := ← natural "filters"
          kernel := ← natural "kernel_size"
          stride := ← fields.readOr "stride" Json.natural? 1
          padding := ← fields.readOr "padding" Json.natural? 0
          weights := ← numbers "weights" }
      return (.convolution parameters, [source])
  | .pooling => do
      let window ← natural "window"
      let source ← fields.input 0
      let kind ← fields.read "pooling" PoolingKind.ofDocument?
      return (.pooling kind window (← fields.readOr "stride" Json.natural? window), [source])
  | .softmax => do return (.softmax, [← fields.input 0])
  | .regionDetection => do
      let source ← fields.input 0
      let anchors ← natural "anchors"
      return (.regionDetection anchors (← natural "classes"), [source])
  | .denseLayer => do
      let source ← fields.input 0
      let parameters : DenseWeights :=
        { units := ← natural "units"
          weights := ← numbers "weights"
          bias := ← numbers "bias"
          function := ← fields.read "activation" ActivationFunction.ofDocument? }
      return (.denseLayer parameters, [source])
  | .delay => do
      let source ← fields.input 0
      return (.delay (← natural "window_size"), [source])
  | .lstm => describeLstm fields

end Kind
/-! ### Registries -/

/-- Names of kinds, sorted, with one kind a name. -/
structure Registry where
  entries : List (String × Kind)
  deriving DecidableEq, Repr

namespace Registry

def empty : Registry :=
  { entries := [] }

def insertKind (name : String) (kind : Kind) :
    List (String × Kind) → List (String × Kind)
  | [] => [(name, kind)]
  | entry :: rest =>
      if name = entry.1 then (name, kind) :: rest
      else if name < entry.1 then (name, kind) :: entry :: rest
      else entry :: insertKind name kind rest

/-- A name given to a kind, in the place of what had the name before. -/
def register (registry : Registry) (name : String) (kind : Kind) : Registry :=
  { entries := insertKind name kind registry.entries }

/-- Every kind under its own name. -/
def standard : Registry :=
  Kind.all.foldl (fun registry kind => registry.register kind.name kind) empty

def names (registry : Registry) : List String :=
  registry.entries.map Prod.fst

def contains (registry : Registry) (name : String) : Bool :=
  (registry.entries.lookup name).isSome

def get (registry : Registry) (name : String) : Except Error Kind :=
  match registry.entries.lookup name with
  | some kind => .ok kind
  | none => .error (.unknownNodeKind name)

end Registry

/-- Makes a node of a named kind from its fields and adds it. -/
def Model.addNamed (model : Model) (registry : Registry) (name : String) (fields : Fields) :
    Except Error (Model × NodeId) := do
  let kind ← registry.get name
  let (operation, sources) ← kind.describe fields
  model.add operation sources

end TensorGraph

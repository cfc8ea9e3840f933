/-
Connecting operations.

`Model.connect` makes a node from an operation and the ports that it reads.  The
operation has to suit the types and shapes of these ports, and every parameter
has to be finite and of the right length, so that running the node cannot fail
for want of them.
-/

import TensorGraph.Graph.Model

namespace TensorGraph

/-- Some parameters have the expected number and are finite. -/
def checkParameters (what : String) (values : List Float) (expected : Nat) : Except Error Unit :=
  if values.length ≠ expected then
    .error (.sizeMismatch [expected] [values.length])
  else if values.any fun value => !value.isFinite then
    .error (.invalidArgument (what ++ " contains non-finite values"))
  else
    .ok ()

/-- A constant of numbers converted to a type. -/
def Operation.constantOfFloats (dtype : DType) (values : List Float) (sizes : List Nat) :
    Except Error Operation := do
  checkParameters "constant values" values (elementCount sizes)
  return .constant (Storage.ofFloats dtype values.toArray) sizes

namespace InputPort

def requireFloat (port : InputPort) (kind : Kind) : Except Error Unit :=
  if port.dtype.isFloat then
    .ok ()
  else
    .error (.typeMismatch "f32 or f64" (port.dtype.name ++ " for " ++ kind.name))

/-- Rows, columns and channels. -/
def planes (port : InputPort) : Except Error (Nat × Nat × Nat) :=
  match port.sizes with
  | [rows, columns, channels] => .ok (rows, columns, channels)
  | sizes => .error (.rankMismatch 3 sizes.length)

end InputPort

def outputOf (dtype : DType) (sizes : List Nat) : OutputPort :=
  { name := "output"
    dtype := dtype
    sizes := sizes }

/-- A node without memory. -/
def Node.stateless (operation : Operation) (inputs : List InputPort)
    (output : OutputPort) : Node :=
  { operation := operation
    inputs := inputs
    outputs := [output]
    state := [] }

/-- A node whose output has the type and shape of its input. -/
def Node.alike (operation : Operation) (source : InputPort) : Node :=
  Node.stateless operation [source] (outputOf source.dtype source.sizes)

/-! ### Shapes -/

/-- How often a window fits along a side, at a distance of `stride`. -/
def windowCount (side window stride : Nat) : Nat :=
  (side - window) / stride + 1

def normalizing (statistics : Normalization) (source : InputPort) : Except Error Node := do
  checkParameters "mean" statistics.mean source.channels
  checkParameters "variance" statistics.variance source.channels
  if statistics.variance.any (fun value => value < 0.0) || statistics.epsilon < 0.0 then
    throw (.invalidArgument "variance and epsilon must be non-negative")
  return Node.alike (.batchNormalization statistics) source

def convolving (parameters : ConvolutionWeights) (source : InputPort) :
    Except Error Node := do
  let (rows, columns, channels) ← source.planes
  let kernel := parameters.kernel
  if kernel = 0 || parameters.stride = 0 then
    throw (.invalidArgument "kernel size and stride must be positive")
  let height := rows + 2 * parameters.padding
  let width := columns + 2 * parameters.padding
  if height < kernel || width < kernel then
    throw (.invalidArgument ("kernel " ++ toString kernel ++ " does not fit a padded " ++
      toString height ++ "x" ++ toString width ++ " input"))
  checkParameters "weights" parameters.weights (parameters.filters * kernel * kernel * channels)
  return Node.stateless (.convolution parameters) [source]
    (outputOf source.dtype
      [windowCount height kernel parameters.stride, windowCount width kernel parameters.stride,
        parameters.filters])

def reducing (kind : PoolingKind) (window stride : Nat) (source : InputPort) :
    Except Error Node := do
  let (rows, columns, channels) ← source.planes
  if window = 0 || stride = 0 || window > rows || window > columns then
    throw (.invalidArgument ("pooling window " ++ toString window ++ " with stride " ++
      toString stride ++ " does not fit a " ++ toString rows ++ "x" ++ toString columns ++
      " input"))
  return Node.stateless (.pooling kind window stride) [source]
    (outputOf source.dtype
      [windowCount rows window stride, windowCount columns window stride, channels])

def detecting (anchors classes : Nat) (source : InputPort) : Except Error Node := do
  let (_, _, channels) ← source.planes
  if anchors = 0 || channels ≠ anchors * (5 + classes) then
    throw (.invalidArgument (toString channels ++ " channels cannot hold " ++ toString anchors ++
      " anchors of " ++ toString classes ++ " classes"))
  return Node.alike (.regionDetection anchors classes) source

def multiplying (units : Nat) (weights : List Float) (source : InputPort) :
    Except Error Node := do
  checkParameters "weights" weights (units * source.size)
  return Node.stateless (.fullyConnected units weights) [source] (outputOf source.dtype [units])

def dense (parameters : DenseWeights) (source : InputPort) : Except Error Node := do
  checkParameters "weights" parameters.weights (parameters.units * source.size)
  checkParameters "bias" parameters.bias parameters.units
  return Node.stateless (.denseLayer parameters) [source]
    (outputOf source.dtype [parameters.units])

def delaying (window : Nat) (source : InputPort) : Except Error Node := do
  if window = 0 then
    throw (.invalidArgument "delay window must be at least 1")
  return { Node.alike (.delay window) source with
    state := [Storage.zeros source.dtype (window * source.size)] }

def checkLstm (weights : LstmWeights) (source : InputPort) : Except Error Unit := do
  let units := weights.hiddenUnits
  if units = 0 then
    throw (.invalidArgument "lstm needs at least one hidden unit")
  checkParameters "input weights" weights.inputWeights (4 * units * source.size)
  checkParameters "hidden weights" weights.hiddenWeights (4 * units * units)
  checkParameters "input bias" weights.inputBias (4 * units)
  checkParameters "hidden bias" weights.hiddenBias (4 * units)

/-- The memory is the hidden state, the cell state and the last trigger. -/
def recurring (weights : LstmWeights) (source : InputPort) (trigger? : Option InputPort) :
    Except Error Node := do
  let units := weights.hiddenUnits
  let dtype := source.dtype
  if let some trigger := trigger? then
    if trigger.size ≠ 1 then
      throw (.sizeMismatch [1] trigger.sizes)
  let triggerType := (trigger?.map InputPort.dtype).getD dtype
  return { operation := .lstm weights
           inputs := source :: trigger?.toList
           outputs :=
             [outputOf dtype [units], { outputOf dtype [units] with name := "cell_state" }]
           state :=
             [Storage.zeros dtype units, Storage.zeros dtype units, Storage.zeros triggerType 1] }

/-! ### Ports -/

/-- The port at a position among those that an operation was given. -/
def sourceAt (sources : List Port) (position : Nat) : Except Error Port :=
  match sources[position]? with
  | some port => .ok port
  | none =>
      .error (.invalidArgument ("node arguments are missing input " ++ toString position))

namespace Model

/-- An input named `name` that reads from a port of the model. -/
def inputFrom (model : Model) (name : String) (source : Port) : Except Error InputPort := do
  let output ← model.outputPort source
  return { name := name
           source := source
           dtype := output.dtype
           sizes := output.sizes }

def combining (model : Model) (op : BinaryOp) (sources : List Port) :
    Except Error Node := do
  let left ← model.inputFrom "input1" (← sourceAt sources 0)
  let right ← model.inputFrom "input2" (← sourceAt sources 1)
  if left.dtype ≠ right.dtype then
    throw (.dtypes left.dtype right.dtype)
  if left.sizes ≠ right.sizes then
    throw (.sizeMismatch left.sizes right.sizes)
  return Node.stateless (.binary op) [left, right] (outputOf left.dtype left.sizes)

/-- A node of the operation that reads from ports of the model.  Ports that the
operation has no use for are left out. -/
def connect (model : Model) (operation : Operation) (sources : List Port) : Except Error Node := do
  let source : Except Error InputPort := do
    model.inputFrom "input" (← sourceAt sources 0)
  let floatSource : Except Error InputPort := do
    let port ← source
    port.requireFloat operation.kind
    return port
  match operation with
  | .input dtype sizes => return Node.stateless operation [] (outputOf dtype sizes)
  | .constant values sizes => do
      if values.size ≠ elementCount sizes then
        throw (.sizeMismatch sizes [values.size])
      return Node.stateless operation [] (outputOf values.dtype sizes)
  | .binary op => model.combining op sources
  | .activation _ | .softmax => return Node.alike operation (← floatSource)
  | .bias values | .scaling values => do
      let port ← floatSource
      checkParameters operation.kind.name values port.channels
      return Node.alike operation port
  | .batchNormalization statistics => do normalizing statistics (← floatSource)
  | .fullyConnected units weights => do multiplying units weights (← floatSource)
  | .convolution parameters => do convolving parameters (← floatSource)
  | .pooling kind window stride => do reducing kind window stride (← floatSource)
  | .regionDetection anchors classes => do detecting anchors classes (← floatSource)
  | .denseLayer parameters => do dense parameters (← floatSource)
  | .delay window => do delaying window (← source)
  | .lstm weights => do
      let port ← floatSource
      checkLstm weights port
      let trigger? ←
        match sources[1]? with
        | some trigger => some <$> model.inputFrom "reset_trigger" trigger
        | none => pure none
      recurring weights port trigger?

/-- Connects an operation and adds the node. -/
def add (model : Model) (operation : Operation) (sources : List Port) :
    Except Error (Model × NodeId) := do
  model.insert (← model.connect operation sources)

end Model
end TensorGraph

/-
Running a model.

A run visits the nodes in order.  Each node is given the values of the ports
that it reads and fresh memory for its outputs.  A node without inputs is given
its feed, if there is one.  The run is a kernel, so the same definition is the
meaning of a model and of the code made from it.
-/

import TensorGraph.Graph.Connect
import TensorGraph.Kernel.Host
import TensorGraph.Kernel.Layer.Channel
import TensorGraph.Kernel.Layer.Convolution
import TensorGraph.Kernel.Layer.Lstm
import TensorGraph.Kernel.Layer.Region
import TensorGraph.Kernel.Window

namespace TensorGraph

/-- The values of output ports, the latest first. -/
abbrev PortValues := List (Port × Value)

/-- The values given to nodes without inputs; of two for one node the first counts. -/
abbrev FeedValues := List (NodeId × Value)

/-- Numbers that a node keeps in memory, and the shape in which it sees them. -/
structure Parameter where
  elements : Storage
  sizes : List Nat

def Parameter.ofFloats (dtype : DType) (values : List Float) (sizes : List Nat) : Parameter :=
  { elements := Storage.ofFloats dtype values.toArray
    sizes := sizes }

/-- The parameters of an operation, in the type and for the shape of its first input. -/
def Operation.parametersOn (source : InputPort) : Operation → List Parameter
  | bias values | scaling values => [.ofFloats source.dtype values [source.channels]]
  | batchNormalization statistics =>
      [.ofFloats source.dtype statistics.mean [source.channels],
        .ofFloats source.dtype statistics.scale [source.channels]]
  | fullyConnected units weights => [.ofFloats source.dtype weights [units, source.size]]
  | convolution parameters =>
      [.ofFloats source.dtype parameters.weights
        [parameters.filters, parameters.kernel, parameters.kernel, source.channels]]
  | denseLayer parameters =>
      [.ofFloats source.dtype parameters.weights [parameters.units, source.size],
        .ofFloats source.dtype parameters.bias [parameters.bias.length]]
  | lstm weights =>
      [.ofFloats source.dtype weights.inputWeights [4 * weights.hiddenUnits, source.size],
        .ofFloats source.dtype weights.hiddenWeights [4 * weights.hiddenUnits, weights.hiddenUnits],
        .ofFloats source.dtype weights.inputBias [weights.inputBias.length],
        .ofFloats source.dtype weights.hiddenBias [weights.hiddenBias.length]]
  | _ => []

def Node.parameters (node : Node) : List Parameter :=
  match node.operation, node.inputs with
  | .constant values sizes, _ =>
      [{ elements := values
         sizes := sizes }]
  | operation, source :: _ => operation.parametersOn source
  | _, [] => []

/-- A parameter in memory of its own. -/
def Parameter.place (parameter : Parameter) : Action Heap Value :=
  Value.ofStorage parameter.elements (Layout.packed parameter.sizes)

def placeParameters : List Parameter → Action Heap (List Value)
  | [] => pure []
  | parameter :: rest => do
      let value ← parameter.place
      return value :: (← placeParameters rest)

section Run

variable {m : Type → Type} [Kernel m]

def matrixOf (value : Value) : m Matrix :=
  Kernel.ofExcept (Matrix.ofValue value)

def vectorOf (value : Value) : m Vector :=
  Kernel.ofExcept (Vector.ofValue value)

/-- The value at a position among those that a node was given. -/
def given (kind : Kind) (values : List Value) (position : Nat) : m Value :=
  match values[position]? with
  | some value => pure value
  | none =>
      Kernel.fail (.invalidArgument (kind.name ++ " node is missing value " ++
        toString position))

def runConvolution (parameters : ConvolutionWeights) (sizes : List Nat)
    (weights input output : Value) : m Unit :=
  match sizes with
  | [rows, columns, channels] =>
      let shape : Kernel.ConvolutionShape :=
        { rows := rows
          columns := columns
          channels := channels
          kernel := parameters.kernel
          stride := parameters.stride
          padding := parameters.padding }
      Kernel.convolve shape weights input output
  | _ => Kernel.fail (.rankMismatch 3 sizes.length)

def runLstm (weights : LstmWeights) (parameters state : List Value)
    (trigger? : Option Value) (input hidden cell : Value) : m Unit := do
  let parameters : Kernel.LstmParameters :=
    { hiddenUnits := weights.hiddenUnits
      inputWeights := ← matrixOf (← given .lstm parameters 0)
      hiddenWeights := ← matrixOf (← given .lstm parameters 1)
      inputBias := ← vectorOf (← given .lstm parameters 2)
      hiddenBias := ← vectorOf (← given .lstm parameters 3)
      activation := weights.activation
      recurrent := weights.recurrent }
  let memory : Kernel.LstmState :=
    { hidden := ← given .lstm state 0
      cell := ← given .lstm state 1
      trigger := ← given .lstm state 2 }
  Kernel.lstmStep parameters memory trigger? input hidden cell

/-- Runs one node on the values of its parameters, its memory, its inputs and its outputs. -/
def Node.runOn (id : NodeId) (node : Node) (parameters state inputs outputs : List Value) :
    m Unit := do
  let output ← given node.kind outputs 0
  match node.operation, node.inputs with
  | .input _ _, _ =>
      match inputs with
      | feed :: _ => Kernel.assign output feed
      | [] =>
          Kernel.fail (.invalidArgument ("input node " ++ nodeText id ++ " was not fed"))
  | .constant _ _, _ => do Kernel.assign output (← given .constant parameters 0)
  | operation, source :: _ => do
      let input ← given node.kind inputs 0
      match operation with
      | .activation function => Kernel.activate function input output
      | .binary op => do
          Kernel.assign output input
          Kernel.elementwise output (← given .binary inputs 1) op
      | .bias _ => do
          Kernel.perChannel .add (← given .bias parameters 0) input output
      | .scaling _ => do
          Kernel.perChannel .mul (← given .scaling parameters 0) input output
      | .batchNormalization _ => do
          let mean ← given .batchNormalization parameters 0
          let scale ← given .batchNormalization parameters 1
          Kernel.normalize mean scale input output
      | .fullyConnected _ _ => do
          let weights ← matrixOf (← given .fullyConnected parameters 0)
          Kernel.multiply weights input output
      | .convolution shape => do
          let weights ← given .convolution parameters 0
          runConvolution shape source.sizes weights input output
      | .pooling kind window stride => Kernel.pool kind window stride input output
      | .softmax => do Kernel.softmax (← Kernel.row input) (← Kernel.row output)
      | .regionDetection anchors classes => Kernel.decodeRegions anchors classes input output
      | .denseLayer layer => do
          let weights ← matrixOf (← given .denseLayer parameters 0)
          let bias ← vectorOf (← given .denseLayer parameters 1)
          Kernel.dense weights bias layer.function input output
      | .delay _ => do
          let kept ← Kernel.state "delay" (← given .delay state 0)
          let window ← vectorOf kept
          Kernel.shift window (← Kernel.row input) (some (← Kernel.row output))
      | .lstm weights => do
          runLstm weights parameters state inputs[1]? input output (← given .lstm outputs 1)
      | .input _ _ | .constant _ _ => pure ()
  | operation, [] =>
      Kernel.fail (.invalidArgument (operation.kind.name ++ " node is missing value 0"))

/-- Runs one node by itself, with its parameters put into memory first. -/
def Node.run (id : NodeId) (node : Node) (state inputs outputs : List Value) : m Unit := do
  let parameters ← Kernel.onHost (placeParameters node.parameters)
  node.runOn id parameters state inputs outputs

/-- The values that a node reads. -/
def Node.readFrom (id : NodeId) (node : Node) (values : PortValues) (feeds : FeedValues) :
    Except Error (List Value) :=
  if node.inputs.isEmpty then
    .ok (feeds.lookup id).toList
  else
    node.inputs.mapM fun input =>
      match values.lookup input.source with
      | some value => .ok value
      | none => .error (.invalidArgument ("port " ++ input.source.text ++ " has no value"))

def allocateOutputs : List OutputPort → m (List Value)
  | [] => pure []
  | output :: rest => do
      let value ← Kernel.allocate output.dtype (Layout.packed output.sizes)
      return value :: (← allocateOutputs rest)

/-- How a node runs on what it holds, on its inputs and on its outputs. -/
abbrev Work (m : Type → Type) (κ : Type) :=
  NodeId → Node → κ → List Value → List Value → m Unit

/-- Runs one node behind those that left `values`. -/
def runStep {κ : Type} (work : Work m κ) (feeds : FeedValues) (id : NodeId) (node : Node)
    (held : κ) (values : PortValues) : m PortValues := do
  let inputs ← Kernel.ofExcept (node.readFrom id values feeds)
  let outputs ← allocateOutputs node.outputs
  work id node held inputs outputs
  let found := (Model.portsOf id node).map Prod.fst
  return (found.zip outputs).reverse ++ values

/-- Runs nodes from position `id` on; each stands with what it holds. -/
def runEach {κ : Type} (work : Work m κ) (feeds : FeedValues) :
    NodeId → List (Node × κ) → PortValues → m PortValues
  | _, [], values => pure values
  | id, (node, held) :: rest, values => do
      runEach work feeds (id + 1) rest (← runStep work feeds id node held values)

/-- Runs nodes from position `id` on; each stands with its memory. -/
def runNodes (feeds : FeedValues) :
    NodeId → List (Node × List Value) → PortValues → m PortValues :=
  runEach (fun id node state inputs outputs => node.run id state inputs outputs) feeds

/-- Runs every node once. -/
def Model.run (model : Model) (state : List (List Value)) (feeds : FeedValues) : m PortValues :=
  runNodes feeds 0 (model.nodes.zip state) []

end Run

/-! ### On the host -/

def placeAll : List Storage → Action Heap (List Value)
  | [] => pure []
  | storage :: rest => do
      let value ← Value.ofRow storage
      return value :: (← placeAll rest)

/-- Puts the memory of every node into the heap. -/
def placeMemory : List (List Storage) → Action Heap (List (List Value))
  | [] => pure []
  | state :: rest => do
      let values ← placeAll state
      return values :: (← placeMemory rest)

/-- The whole storage that a value lives in. -/
def contents (heap : Heap) (value : Value) : Storage :=
  match value.place with
  | .host storage _ => heap.storage storage
  | _ => default

/-- Data for a node without inputs. -/
structure Feed where
  node : NodeId
  data : Storage
  layout : Layout

/-- Puts the feeds into the heap; a later one for the same node takes the place of an
earlier one. -/
def placeFeeds : List Feed → FeedValues → Action Heap FeedValues
  | [], values => pure values
  | feed :: rest, values => do
      let value ← Value.ofStorage feed.data feed.layout
      placeFeeds rest ((feed.node, value) :: values)

/-- What a run on the host leaves. -/
structure Evaluation where
  values : PortValues
  heap : Heap
  /-- Scalar operations of the run. -/
  operations : Nat

/-- Runs a model once on the host.  The nodes that ran keep what they remembered, also
when a later one fails. -/
def Model.compute (feeds : List Feed) : Action Model Evaluation := fun model =>
  let prepare : Action Heap (List (List Value) × FeedValues) := do
    let state ← placeMemory model.memory
    return (state, ← placeFeeds feeds [])
  match prepare Heap.empty with
  | .error fault _ => .error fault model
  | .ok (state, feeds) heap =>
      let start : HostState Unit :=
        { heap := heap
          operations := 0
          scratch := () }
      let remembered (heap : Heap) : Model :=
        model.withMemory (state.map fun values => values.map (contents heap))
      match (model.run state feeds : Host Unit PortValues).run start with
      | .error fault final => .error fault (remembered final.heap)
      | .ok values final =>
          .ok
            { values := values
              heap := final.heap
              operations := final.operations }
            (remembered final.heap)

namespace Evaluation

/-- The elements of every port, in the order of the ports. -/
def storages (evaluation : Evaluation) : Except Error (List (Port × Storage)) :=
  evaluation.values.reverse.mapM fun (port, value) => do
    return (port, ← value.toStorage evaluation.heap)

/-- The elements of one port as numbers. -/
def floats? (evaluation : Evaluation) (port : Port) : Option (Except Error (List Float)) :=
  (evaluation.values.lookup port).map fun value => value.toFloats evaluation.heap

end Evaluation
end TensorGraph

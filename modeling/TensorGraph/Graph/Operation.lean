/-
Operations.

An operation is what a node does, with all parameters and without its inputs.
Parameters are plain numbers; they take the element type of the input when the
operation runs.
-/

import TensorGraph.Kernel.Layer.Activation
import TensorGraph.Kernel.Layer.Pooling
import TensorGraph.Storage

namespace TensorGraph

inductive Kind where
  | input
  | constant
  | activation
  | binary
  | bias
  | scaling
  | batchNormalization
  | fullyConnected
  | convolution
  | pooling
  | softmax
  | regionDetection
  | denseLayer
  | delay
  | lstm
  deriving DecidableEq, Repr, Inhabited

namespace Kind

def name : Kind → String
  | input => "input"
  | constant => "constant"
  | activation => "activation"
  | binary => "binary_operation"
  | bias => "bias"
  | scaling => "scaling"
  | batchNormalization => "batch_normalization"
  | fullyConnected => "fully_connected"
  | convolution => "convolution"
  | pooling => "pooling"
  | softmax => "softmax"
  | regionDetection => "region_detection"
  | denseLayer => "dense_layer"
  | delay => "delay"
  | lstm => "lstm"

def all : List Kind :=
  [input, constant, activation, binary, bias, scaling, batchNormalization, fullyConnected,
    convolution, pooling, softmax, regionDetection, denseLayer, delay, lstm]

def ofName? (text : String) : Option Kind :=
  all.find? fun kind => kind.name == text

theorem ofName?_name (kind : Kind) : ofName? kind.name = some kind := by
  cases kind <;> decide

/-- The kinds whose nodes keep memory between runs. -/
def hasState : Kind → Bool
  | delay | lstm => true
  | _ => false

end Kind

/-- Where epsilon enters the denominator of a normalization. -/
inductive EpsilonSummand where
  /-- `sqrt (variance + epsilon)` -/
  | variance
  /-- `sqrt variance + epsilon` -/
  | sqrtVariance
  deriving DecidableEq, Repr, Inhabited

/-- Statistics of a batch normalization, one entry a channel. -/
structure Normalization where
  mean : List Float
  variance : List Float
  epsilon : Float
  summand : EpsilonSummand
  deriving DecidableEq, Repr

namespace Normalization

def denominator (statistics : Normalization) (variance : Float) : Float :=
  match statistics.summand with
  | .variance => (variance + statistics.epsilon).sqrt
  | .sqrtVariance => variance.sqrt + statistics.epsilon

/-- The reciprocal of each channel's denominator. -/
def scale (statistics : Normalization) : List Float :=
  statistics.variance.map fun variance => 1.0 / statistics.denominator variance

/-- The summand that is left when the scale is applied first. -/
def shift (statistics : Normalization) : List Float :=
  List.zipWith (fun mean scale => -mean * scale) statistics.mean statistics.scale

end Normalization

structure ConvolutionWeights where
  filters : Nat
  kernel : Nat
  stride : Nat
  padding : Nat
  /-- Filter by filter, each by rows, columns and channels. -/
  weights : List Float
  deriving DecidableEq, Repr

structure DenseWeights where
  units : Nat
  weights : List Float
  bias : List Float
  function : ActivationFunction
  deriving DecidableEq, Repr

/-- Weights of a cell; each stacks the gates input, forget, candidate and output. -/
structure LstmWeights where
  hiddenUnits : Nat
  inputWeights : List Float
  hiddenWeights : List Float
  inputBias : List Float
  hiddenBias : List Float
  activation : ActivationFunction
  recurrent : ActivationFunction
  deriving DecidableEq, Repr

namespace LstmWeights

def zeroBias (hiddenUnits : Nat) : List Float :=
  List.replicate (4 * hiddenUnits) 0.0

/-- Without biases, and with the usual activations. -/
def plain (hiddenUnits : Nat) (inputWeights hiddenWeights : List Float) : LstmWeights :=
  { hiddenUnits := hiddenUnits
    inputWeights := inputWeights
    hiddenWeights := hiddenWeights
    inputBias := zeroBias hiddenUnits
    hiddenBias := zeroBias hiddenUnits
    activation := .tanh
    recurrent := .sigmoid }

end LstmWeights

inductive Operation where
  | input (dtype : DType) (sizes : List Nat)
  | constant (values : Storage) (sizes : List Nat)
  | activation (function : ActivationFunction)
  | binary (op : BinaryOp)
  | bias (values : List Float)
  | scaling (values : List Float)
  | batchNormalization (statistics : Normalization)
  | fullyConnected (units : Nat) (weights : List Float)
  | convolution (parameters : ConvolutionWeights)
  | pooling (kind : PoolingKind) (window stride : Nat)
  | softmax
  | regionDetection (anchors classes : Nat)
  | denseLayer (parameters : DenseWeights)
  | delay (window : Nat)
  | lstm (weights : LstmWeights)
  deriving DecidableEq

def Operation.kind : Operation → Kind
  | input _ _ => .input
  | constant _ _ => .constant
  | activation _ => .activation
  | binary _ => .binary
  | bias _ => .bias
  | scaling _ => .scaling
  | batchNormalization _ => .batchNormalization
  | fullyConnected _ _ => .fullyConnected
  | convolution _ => .convolution
  | pooling _ _ _ => .pooling
  | softmax => .softmax
  | regionDetection _ _ => .regionDetection
  | denseLayer _ => .denseLayer
  | delay _ => .delay
  | lstm _ => .lstm

end TensorGraph

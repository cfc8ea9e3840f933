/-
Shapes of connected nodes.

Connecting an operation checks everything that a run of the node relies on: that
there are as many inputs as it reads, that they have types and shapes which suit
it, and that its parameters are as long as these ask for.  This says once, kind
by kind, what a node that was connected looks like.
-/

import TensorGraph.Graph.Map
import TensorGraph.Proofs.Graph.Connect

namespace TensorGraph

/-- The type and the size of a storage. -/
def Storage.extent (storage : Storage) : DType × Nat :=
  (storage.dtype, storage.size)

theorem Storage.extents_eq {storages others : List Storage}
    (shapes : List.Forall₂ Storage.SameShape storages others) :
    others.map extent = storages.map extent := by
  induction shapes with
  | nil => rfl
  | cons head _ ih => rw [List.map_cons, List.map_cons, ih, extent, extent, head.1, head.2]

/-- Inputs, outputs and memory of a node that an operation was connected to. -/
inductive Shaped :
    Operation → List InputPort → List OutputPort → List (DType × Nat) → Prop where
  | input (dtype : DType) (sizes : List Nat) :
      Shaped (.input dtype sizes) [] [outputOf dtype sizes] []
  | constant {values : Storage} {sizes : List Nat} (full : values.size = elementCount sizes) :
      Shaped (.constant values sizes) [] [outputOf values.dtype sizes] []
  | binary (op : BinaryOp) {left right : InputPort} (typed : right.dtype = left.dtype)
      (sized : right.sizes = left.sizes) :
      Shaped (.binary op) [left, right] [outputOf left.dtype left.sizes] []
  | activation (function : ActivationFunction) {source : InputPort}
      (float : source.dtype.isFloat = true) :
      Shaped (.activation function) [source] [outputOf source.dtype source.sizes] []
  | softmax {source : InputPort} (float : source.dtype.isFloat = true) :
      Shaped .softmax [source] [outputOf source.dtype source.sizes] []
  | bias {values : List Float} {source : InputPort} (float : source.dtype.isFloat = true)
      (full : values.length = source.channels) :
      Shaped (.bias values) [source] [outputOf source.dtype source.sizes] []
  | scaling {values : List Float} {source : InputPort} (float : source.dtype.isFloat = true)
      (full : values.length = source.channels) :
      Shaped (.scaling values) [source] [outputOf source.dtype source.sizes] []
  | batchNormalization {statistics : Normalization} {source : InputPort}
      (float : source.dtype.isFloat = true) (mean : statistics.mean.length = source.channels)
      (variance : statistics.variance.length = source.channels) :
      Shaped (.batchNormalization statistics) [source] [outputOf source.dtype source.sizes] []
  | fullyConnected {units : Nat} {weights : List Float} {source : InputPort}
      (float : source.dtype.isFloat = true) (full : weights.length = units * source.size) :
      Shaped (.fullyConnected units weights) [source] [outputOf source.dtype [units]] []
  | convolution {parameters : ConvolutionWeights} {source : InputPort}
      {rows columns channels : Nat} (float : source.dtype.isFloat = true)
      (planes : source.sizes = [rows, columns, channels])
      (down : parameters.kernel ≤ rows + 2 * parameters.padding)
      (across : parameters.kernel ≤ columns + 2 * parameters.padding)
      (full : parameters.weights.length =
        parameters.filters * parameters.kernel * parameters.kernel * channels) :
      Shaped (.convolution parameters) [source]
        [outputOf source.dtype
          [windowCount (rows + 2 * parameters.padding) parameters.kernel parameters.stride,
            windowCount (columns + 2 * parameters.padding) parameters.kernel parameters.stride,
            parameters.filters]] []
  | pooling {kind : PoolingKind} {window stride : Nat} {source : InputPort}
      {rows columns channels : Nat} (float : source.dtype.isFloat = true)
      (planes : source.sizes = [rows, columns, channels]) (down : window ≤ rows)
      (across : window ≤ columns) :
      Shaped (.pooling kind window stride) [source]
        [outputOf source.dtype
          [windowCount rows window stride, windowCount columns window stride, channels]] []
  | regionDetection {anchors classes : Nat} {source : InputPort} {rows columns : Nat}
      (float : source.dtype.isFloat = true)
      (planes : source.sizes = [rows, columns, anchors * (5 + classes)]) :
      Shaped (.regionDetection anchors classes) [source] [outputOf source.dtype source.sizes] []
  | denseLayer {parameters : DenseWeights} {source : InputPort}
      (float : source.dtype.isFloat = true)
      (full : parameters.weights.length = parameters.units * source.size)
      (full' : parameters.bias.length = parameters.units) :
      Shaped (.denseLayer parameters) [source] [outputOf source.dtype [parameters.units]] []
  | delay {window : Nat} {source : InputPort} (positive : 0 < window) :
      Shaped (.delay window) [source] [outputOf source.dtype source.sizes]
        [(source.dtype, window * source.size)]
  | lstm {weights : LstmWeights} {source : InputPort} {triggers : List InputPort}
      (float : source.dtype.isFloat = true)
      (inputWeights : weights.inputWeights.length = 4 * weights.hiddenUnits * source.size)
      (hiddenWeights :
        weights.hiddenWeights.length = 4 * weights.hiddenUnits * weights.hiddenUnits)
      (inputBias : weights.inputBias.length = 4 * weights.hiddenUnits)
      (hiddenBias : weights.hiddenBias.length = 4 * weights.hiddenUnits)
      (few : triggers.length ≤ 1) (single : ∀ trigger ∈ triggers, trigger.size = 1) :
      Shaped (.lstm weights) (source :: triggers)
        [outputOf source.dtype [weights.hiddenUnits],
          { outputOf source.dtype [weights.hiddenUnits] with name := "cell_state" }]
        [(source.dtype, weights.hiddenUnits), (source.dtype, weights.hiddenUnits),
          ((triggers.head?.map InputPort.dtype).getD source.dtype, 1)]

/-! ### From connecting -/

/-- A node looks like what connecting its operation gives. -/
def Node.Shaped (node : Node) : Prop :=
  TensorGraph.Shaped node.operation node.inputs node.outputs (node.state.map Storage.extent)

private theorem planes_ok {source : InputPort} {rows columns channels : Nat}
    (found : source.planes = .ok (rows, columns, channels)) :
    source.sizes = [rows, columns, channels] := by
  unfold InputPort.planes at found
  split at found
  · rename_i same
    cases found
    exact same
  · cases found

private theorem channelwise_length {operation : Operation} {values : List Float} {source : InputPort}
    {made : Node} (done : channelwise operation values source = .ok made) :
    values.length = source.channels ∧ made = Node.alike operation source := by
  obtain ⟨_, checked, ⟨⟩⟩ := bind_eq_ok.mp done
  exact ⟨(checkParameters_iff.mp checked).1, rfl⟩

private theorem convolving_shaped {parameters : ConvolutionWeights} {source : InputPort}
    {made : Node} (float : source.dtype.isFloat = true)
    (done : convolving parameters source = .ok made) : made.Shaped := by
  obtain ⟨⟨rows, columns, channels⟩, planes, done⟩ := bind_eq_ok.mp done
  dsimp only at done
  split at done
  · cases done
  split at done
  · cases done
  rename_i fits
  obtain ⟨_, checked, ⟨⟩⟩ := bind_eq_ok.mp done
  rw [Bool.or_eq_true, decide_eq_true_eq, decide_eq_true_eq, not_or, not_lt, not_lt] at fits
  exact .convolution float (planes_ok planes) fits.1 fits.2 (checkParameters_iff.mp checked).1

private theorem reducing_shaped {kind : PoolingKind} {window stride : Nat} {source : InputPort}
    {made : Node} (float : source.dtype.isFloat = true)
    (done : reducing kind window stride source = .ok made) : made.Shaped := by
  obtain ⟨⟨rows, columns, channels⟩, planes, done⟩ := bind_eq_ok.mp done
  dsimp only at done
  split at done
  · cases done
  rename_i fits
  cases done
  simp only [Bool.or_eq_true, decide_eq_true_eq, not_or, not_lt] at fits
  exact .pooling float (planes_ok planes) fits.1.2 fits.2

private theorem detecting_shaped {anchors classes : Nat} {source : InputPort} {made : Node}
    (float : source.dtype.isFloat = true)
    (done : detecting anchors classes source = .ok made) : made.Shaped := by
  obtain ⟨⟨rows, columns, channels⟩, planes, done⟩ := bind_eq_ok.mp done
  dsimp only at done
  split at done
  · cases done
  rename_i fits
  cases done
  simp only [Bool.or_eq_true, decide_eq_true_eq, not_or, not_not] at fits
  refine @TensorGraph.Shaped.regionDetection anchors classes source rows columns float ?_
  rw [planes_ok planes, fits.2]

private theorem unary_shaped {operation : Operation} {make : InputPort → Except Error Node}
    {source : InputPort} {made : Node} (found : operation.unary? = some make)
    (float : source.dtype.isFloat = true) (done : make source = .ok made) : made.Shaped := by
  cases operation with
  | activation function =>
      cases found
      cases done
      exact .activation function float
  | softmax =>
      cases found
      cases done
      exact .softmax float
  | bias values =>
      cases found
      obtain ⟨full, rfl⟩ := channelwise_length done
      exact .bias float full
  | scaling values =>
      cases found
      obtain ⟨full, rfl⟩ := channelwise_length done
      exact .scaling float full
  | batchNormalization statistics =>
      cases found
      obtain ⟨_, mean, done⟩ := bind_eq_ok.mp done
      obtain ⟨_, variance, done⟩ := bind_eq_ok.mp done
      dsimp only at done
      split at done
      · cases done
      cases done
      exact .batchNormalization float (checkParameters_iff.mp mean).1
        (checkParameters_iff.mp variance).1
  | fullyConnected units weights =>
      cases found
      obtain ⟨_, checked, ⟨⟩⟩ := bind_eq_ok.mp done
      exact .fullyConnected float (checkParameters_iff.mp checked).1
  | convolution parameters =>
      cases found
      exact convolving_shaped float done
  | pooling kind window stride =>
      cases found
      exact reducing_shaped float done
  | regionDetection anchors classes =>
      cases found
      exact detecting_shaped float done
  | denseLayer parameters =>
      cases found
      obtain ⟨_, weights, done⟩ := bind_eq_ok.mp done
      obtain ⟨_, bias, ⟨⟩⟩ := bind_eq_ok.mp done
      exact .denseLayer float (checkParameters_iff.mp weights).1 (checkParameters_iff.mp bias).1
  | _ => cases found

private theorem delaying_shaped {window : Nat} {source : InputPort} {made : Node}
    (done : delaying window source = .ok made) : made.Shaped := by
  unfold delaying at done
  split at done
  · cases done
  rename_i positive
  cases done
  have kept : (Storage.zeros source.dtype (window * source.size)).extent =
      (source.dtype, window * source.size) := by
    simp [Storage.extent, Storage.zeros, Storage.size]
  change TensorGraph.Shaped _ _ _ [_]
  rw [kept]
  exact .delay (Nat.pos_of_ne_zero positive)

private theorem recurring_shaped {weights : LstmWeights} {source : InputPort}
    {trigger? : Option InputPort} {made : Node} (float : source.dtype.isFloat = true)
    (checked : checkLstm weights source = .ok ())
    (done : recurring weights source trigger? = .ok made) : made.Shaped := by
  unfold checkLstm at checked
  dsimp only at checked
  split at checked
  · cases checked
  obtain ⟨_, one, checked⟩ := bind_eq_ok.mp checked
  obtain ⟨_, two, checked⟩ := bind_eq_ok.mp checked
  obtain ⟨_, three, four⟩ := bind_eq_ok.mp checked
  have parameters := And.intro (checkParameters_iff.mp one).1 (checkParameters_iff.mp two).1
  have biases := And.intro (checkParameters_iff.mp three).1 (checkParameters_iff.mp four).1
  have zeros (dtype : DType) (count : Nat) :
      (Storage.zeros dtype count).extent = (dtype, count) := by
    simp [Storage.extent, Storage.zeros, Storage.size]
  unfold recurring at done
  cases trigger? with
  | none =>
      cases done
      unfold Node.Shaped
      simp only [List.map_cons, List.map_nil, zeros]
      exact .lstm float parameters.1 parameters.2 biases.1 biases.2 (Nat.zero_le 1) nofun
  | some trigger =>
      dsimp only at done
      split at done
      · cases done
      rename_i single
      cases done
      unfold Node.Shaped
      simp only [List.map_cons, List.map_nil, zeros]
      refine @TensorGraph.Shaped.lstm weights source [trigger] float parameters.1 parameters.2
        biases.1 biases.2 le_rfl fun other member => ?_
      rw [List.mem_singleton.mp member]
      exact not_not.mp single

private theorem combining_shaped {model : Model} {op : BinaryOp} {sources : List Port}
    {made : Node} (done : model.combining op sources = .ok made) : made.Shaped := by
  obtain ⟨_, -, done⟩ := bind_eq_ok.mp done
  obtain ⟨left, -, done⟩ := bind_eq_ok.mp done
  obtain ⟨_, -, done⟩ := bind_eq_ok.mp done
  obtain ⟨right, -, done⟩ := bind_eq_ok.mp done
  dsimp only at done
  split at done
  · cases done
  rename_i typed
  split at done
  · cases done
  rename_i sized
  cases done
  exact .binary op (not_not.mp typed).symm (not_not.mp sized).symm

namespace Model

theorem shaped_of_connect {model : Model} {operation : Operation} {sources : List Port}
    {made : Node} (done : model.connect operation sources = .ok made) : made.Shaped := by
  have unary {make : InputPort → Except Error Node} (found : operation.unary? = some make) :
      made.Shaped := by
    rw [connect_unary model found] at done
    obtain ⟨source, first, done⟩ := bind_eq_ok.mp done
    exact unary_shaped found (firstFloat_ok first).2.2 done
  cases operation with
  | input dtype sizes =>
      cases done
      exact .input dtype sizes
  | constant values sizes =>
      unfold connect at done
      dsimp only at done
      split at done
      · cases done
      rename_i full
      cases done
      exact .constant (not_not.mp full)
  | binary op => exact combining_shaped done
  | delay window =>
      obtain ⟨source, -, done⟩ := bind_eq_ok.mp done
      exact delaying_shaped done
  | lstm weights =>
      rw [connect_lstm] at done
      obtain ⟨source, first, done⟩ := bind_eq_ok.mp done
      obtain ⟨_, checked, done⟩ := bind_eq_ok.mp done
      obtain ⟨trigger?, -, done⟩ := bind_eq_ok.mp done
      exact recurring_shaped (firstFloat_ok first).2.2 checked done
  | _ => exact unary rfl

theorem Connected.shaped {model : Model} (connected : model.Connected) {id : NodeId}
    {node : Node} (found : model.nodes[id]? = some node) : node.Shaped := by
  obtain ⟨state, done, shapes⟩ := connected id node found
  have shaped := shaped_of_connect done
  unfold Node.Shaped at shaped ⊢
  rw [Storage.extents_eq shapes]
  exact shaped

/-- An input node reads from no port, and its output has its type and shape. -/
theorem Connected.input {model : Model} (connected : model.Connected) {id : NodeId}
    {dtype : DType} {sizes : List Nat} (input : Map.inputNode? model id = some (dtype, sizes)) :
    ∃ node : Node, model.nodes[id]? = some node ∧ node.outputs = [outputOf dtype sizes] ∧
      node.operation = .input dtype sizes ∧ node.inputs = [] := by
  unfold Map.inputNode? Model.node? at input
  cases here : model.nodes[id]? with
  | none =>
      rw [here] at input
      cases input
  | some node =>
      rw [here] at input
      obtain ⟨operation, inputs, outputs, state⟩ := node
      cases operation with
      | input type shape =>
          cases input
          refine ⟨_, rfl, ?_⟩
          have shaped : Shaped (.input dtype sizes) inputs outputs (state.map Storage.extent) :=
            connected.shaped here
          generalize state.map Storage.extent = extents at shaped
          cases shaped
          exact ⟨rfl, rfl, rfl⟩
      | _ => cases input

end Model

/-- Every node has an output. -/
theorem Node.Shaped.outputs_pos {node : Node} (shaped : node.Shaped) : 0 < node.outputs.length := by
  obtain ⟨operation, inputs, outputs, state⟩ := node
  unfold Node.Shaped at shaped
  dsimp only at shaped ⊢
  generalize state.map Storage.extent = extents at shaped
  cases shaped <;> exact Nat.succ_pos _

end TensorGraph

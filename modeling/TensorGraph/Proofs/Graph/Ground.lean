/-
Nodes on a ground.

A node that was connected runs through when it is given tensors of the types and
shapes that it was connected to.  What else can stop it is integer arithmetic,
a feed that does not suit it, and memory with more elements than positions.
-/

import TensorGraph.Proofs.Graph.Running
import TensorGraph.Proofs.Graph.Shapes
import TensorGraph.Proofs.Kernel.Ground.Layers
import TensorGraph.Proofs.Kernel.Twins

namespace TensorGraph

/-! ### Memory of a run -/

/-- The sizes of the memory that an operation fills for itself on an input of some shape. -/
def Operation.extents : Operation → List Nat → List Nat
  | bias values, _ | scaling values, _ => [values.length]
  | batchNormalization statistics, _ => [statistics.mean.length, statistics.variance.length]
  | fullyConnected _ weights, _ => [weights.length]
  | convolution parameters, [rows, columns, channels] =>
      [parameters.weights.length,
        elementCount [rows + 2 * parameters.padding, columns + 2 * parameters.padding, channels]]
  | denseLayer parameters, _ => [parameters.weights.length, parameters.bias.length]
  | lstm weights, _ =>
      [weights.inputWeights.length, weights.hiddenWeights.length, weights.inputBias.length,
        weights.hiddenBias.length]
  | _, _ => []

/-- The sizes of all memory that a run of the node takes. -/
def Node.extents (node : Node) : List Nat :=
  node.outputs.map OutputPort.size ++ node.state.map Storage.size ++
    node.operation.extents (node.inputs.head?.elim [] InputPort.sizes)

namespace Ground

variable {allowed : Fault → Prop} {ground later : Ground allowed} {ρ α β : Type}
  {dtype : DType} {value : Value} {sizes : List Nat}

/-- A value of a port, as every node leaves it. -/
def Carried (ground : Ground allowed) (dtype : DType) (sizes : List Nat) (value : Value) : Prop :=
  ground.Tensor dtype (Layout.packed sizes) value

@[grind →]
theorem Carried.mono (carried : ground.Carried dtype sizes value)
    (growing : ground.Later later) : later.Carried dtype sizes value :=
  Tensor.mono carried growing

/-- A feed for an input of this type and shape, unless it may be refused. -/
def Fed (ground : Ground allowed) (dtype : DType) (sizes : List Nat) (feed : Value) : Prop :=
  ∃ type layout, ground.Tensor type layout feed ∧
    (layout.logicalSizes = sizes ∨
      allowed (.error (.sizeMismatch sizes layout.logicalSizes))) ∧
    (type = dtype ∨ allowed (.error (.dtypes dtype type)))

theorem Fed.mono {feed : Value} (fed : ground.Fed dtype sizes feed)
    (growing : ground.Later later) : later.Fed dtype sizes feed := by
  obtain ⟨type, layout, tensor, suits⟩ := fed
  exact ⟨type, layout, tensor.mono growing, suits⟩

theorem Fed.checked {target source : Value} (fed : ground.Fed dtype sizes source)
    (written : ground.Carried dtype sizes target) :
    (∃ layout, ground.Tensor dtype layout source ∧ layout.logicalSizes = sizes) ∨
      ∃ cause, Kernel.checkCompatible target source = .error cause ∧
        allowed (.error cause) := by
  obtain ⟨type, layout, tensor, shape, typed⟩ := fed
  unfold Kernel.checkCompatible
  rw [Tensor.ready written, tensor.ready, Tensor.typed written, tensor.typed]
  simp only [bind, Except.bind, Layout.logicalSizes_packed]
  by_cases sized : layout.logicalSizes = sizes
  · rw [if_neg (not_not.mpr sized.symm)]
    by_cases same : type = dtype
    · subst same
      exact .inl ⟨layout, tensor, sized⟩
    · rw [if_pos (Ne.symm same)]
      exact .inr ⟨_, rfl, typed.resolve_left same⟩
  · rw [if_pos (Ne.symm sized)]
    exact .inr ⟨_, rfl, shape.resolve_left sized⟩

namespace Runs

/-- The fault of an input node without a feed. -/
def unfed (id : NodeId) : Fault :=
  .error (.invalidArgument ("input node " ++ nodeText id ++ " was not fed"))

/-! ### Parameters -/

theorem parameter {values : List Float} (full : elementCount sizes = values.length)
    (counts : Counts allowed values.length) :
    ground.Runs (Kernel.onHost (Parameter.ofFloats dtype values sizes).place : Host ρ Value)
      fun later value => later.Tensor dtype (Layout.packed sizes) value := by
  have sized := Storage.size_ofFloats dtype values
  exact storage (full.trans sized.symm).le (full ▸ counts)

theorem parameterRow {values : List Float} (counts : Counts allowed values.length) :
    ground.Runs
      (Kernel.onHost (Parameter.ofFloats dtype values [values.length]).place : Host ρ Value)
      fun later value => later.Tensor dtype (Layout.packed [values.length]) value :=
  parameter (Layout.elementCount_single _) counts

theorem parameterMatrix {rows columns : Nat} {values : List Float}
    (full : values.length = rows * columns) (counts : Counts allowed values.length) :
    ground.Runs
      (Kernel.onHost (Parameter.ofFloats dtype values [rows, columns]).place : Host ρ Value)
      fun later value => later.Tensor dtype (Layout.packed [rows, columns]) value := by
  refine parameter ?_ counts
  rw [Layout.elementCount_pair, full]

theorem matrixOf {rows columns : Nat}
    (tensor : ground.Tensor dtype (Layout.packed [rows, columns]) value) :
    ground.Runs (TensorGraph.matrixOf value : Host ρ Matrix) fun later matrix =>
      later.Grid dtype rows columns matrix := by
  obtain ⟨matrix, done, grid⟩ := tensor.toMatrix
  exact answered done grid

/-! ### Nodes -/

/-- A feed is taken over, or it is refused for its shape or its type. -/
theorem feed {target source : Value} (written : ground.Carried dtype sizes target)
    (fed : ground.Fed dtype sizes source) :
    ground.Runs (Kernel.assign target source : Host ρ Unit) fun _ _ => True := by
  rcases fed.checked written with ⟨layout, tensor, sized⟩ | ⟨cause, refused, known⟩
  · exact assignAll written tensor (sized.trans (Layout.logicalSizes_packed sizes).symm)
  · have stops : ground.Runs (Kernel.fail cause : Host ρ Unit) fun _ _ => False := fail known
    unfold Kernel.assign
    rw [refused]
    exact stops.bind fun _ _ _ absurd => absurd.elim

/-- What a run of a node is given. -/
structure Supplied (ground : Ground allowed) (id : NodeId) (node : Node)
    (state inputs outputs : List Value) : Prop where
  kept : List.Forall₂ (fun extent => ground.Carried extent.1 [extent.2])
    (node.state.map Storage.extent) state
  read : node.inputs ≠ [] →
    List.Forall₂ (fun input => ground.Carried input.dtype input.sizes) node.inputs inputs
  fed : ∀ dtype sizes, node.operation = .input dtype sizes →
    (inputs = [] → allowed (unfed id)) ∧ ∀ feed ∈ inputs, ground.Fed dtype sizes feed
  written : List.Forall₂ (fun output => ground.Carried output.dtype output.sizes)
    node.outputs outputs

/-- All parameters of the operation have positions. -/
def Fits (allowed : Fault → Prop) (operation : Operation) (inputs : List InputPort) : Prop :=
  ∀ count ∈ operation.extents (inputs.head?.elim [] InputPort.sizes), Counts allowed count

variable {input output : Value} {source : InputPort}

/-- A convolution of an input of three planes. -/
private theorem convolution {parameters : ConvolutionWeights} {rows columns channels : Nat}
    (float : dtype.isFloat = true) (down : parameters.kernel ≤ rows + 2 * parameters.padding)
    (across : parameters.kernel ≤ columns + 2 * parameters.padding)
    (full : parameters.weights.length =
      parameters.filters * parameters.kernel * parameters.kernel * channels)
    (counts : Counts allowed parameters.weights.length)
    (counts' : Counts allowed (elementCount
      [rows + 2 * parameters.padding, columns + 2 * parameters.padding, channels]))
    (carried : ground.Carried dtype [rows, columns, channels] input)
    (written : ground.Carried dtype
      [windowCount (rows + 2 * parameters.padding) parameters.kernel parameters.stride,
        windowCount (columns + 2 * parameters.padding) parameters.kernel parameters.stride,
        parameters.filters] output) :
    ground.Runs (do
      let weights ← Kernel.onHost (Parameter.ofFloats dtype parameters.weights
        [parameters.filters, parameters.kernel, parameters.kernel, channels]).place
      runConvolution parameters [rows, columns, channels] weights input output : Host ρ Unit)
      fun _ _ => True := by
  have sized : elementCount [parameters.filters, parameters.kernel, parameters.kernel, channels] =
      parameters.weights.length := by
    rw [Layout.elementCount_cons, Layout.elementCount_cons, Layout.elementCount_cons,
      Layout.elementCount_single, full, Nat.mul_assoc, Nat.mul_assoc]
  refine (parameter sized counts).bind fun one weights growing known => ?_
  exact convolve float down across counts' known (carried.mono growing) (written.mono growing)

/-- One step of a cell. -/
private theorem recurrence {weights : LstmWeights} {triggers : List InputPort}
    {triggers' state : List Value} {cell : Value} (float : source.dtype.isFloat = true)
    (fits : ∀ count ∈ [weights.inputWeights.length, weights.hiddenWeights.length,
      weights.inputBias.length, weights.hiddenBias.length], Counts allowed count)
    (inputWeights : weights.inputWeights.length = 4 * weights.hiddenUnits * source.size)
    (hiddenWeights :
      weights.hiddenWeights.length = 4 * weights.hiddenUnits * weights.hiddenUnits)
    (inputBias : weights.inputBias.length = 4 * weights.hiddenUnits)
    (hiddenBias : weights.hiddenBias.length = 4 * weights.hiddenUnits)
    (single : ∀ trigger ∈ triggers, trigger.size = 1)
    (kept : List.Forall₂ (fun extent : DType × Nat => ground.Carried extent.1 [extent.2])
      [(source.dtype, weights.hiddenUnits), (source.dtype, weights.hiddenUnits),
        ((triggers.head?.map InputPort.dtype).getD source.dtype, 1)] state)
    (carried : ground.Carried source.dtype source.sizes input)
    (followed : List.Forall₂ (fun input : InputPort => ground.Carried input.dtype input.sizes)
      triggers triggers')
    (written : ground.Carried source.dtype [weights.hiddenUnits] output)
    (written' : ground.Carried source.dtype [weights.hiddenUnits] cell) :
    ground.Runs (do
      let parameters ← Kernel.onHost
        (placeParameters ((Operation.lstm weights).parametersOn source))
      runLstm weights parameters state triggers'[0]? input output cell : Host ρ Unit)
      fun _ _ => True := by
  obtain ⟨hidden, _, one, kept₁, rfl⟩ := List.forall₂_cons_left_iff.mp kept
  obtain ⟨memory, _, two, kept₂, rfl⟩ := List.forall₂_cons_left_iff.mp kept₁
  obtain ⟨last, _, three, none, rfl⟩ := List.forall₂_cons_left_iff.mp kept₂
  cases none
  have remembers : Remembers ground source.dtype weights.hiddenUnits
      { hidden := hidden, cell := memory, trigger := last } triggers'[0]? := by
    refine ⟨one, two, ?_⟩
    cases followed with
    | nil => nofun
    | cons four _ =>
        rintro _ ⟨⟩
        exact ⟨_, _, single _ List.mem_cons_self, four, three⟩
  simp only [Operation.parametersOn, onHost_parameters_nil, onHost_parameters_cons, runLstm, given,
    List.getElem?_cons_zero, List.getElem?_cons_succ, pure_bind, bind_assoc]
  refine (parameterMatrix inputWeights (fits _ (by simp))).bind fun one wx growing₁ tensor => ?_
  refine (parameterMatrix hiddenWeights (fits _ (by simp))).bind fun two wh growing₂ tensor' => ?_
  refine (parameterRow (fits weights.inputBias.length (by simp))).bind ?_
  intro three bx growing₃ known
  refine (parameterRow (fits weights.hiddenBias.length (by simp))).bind ?_
  intro four bh growing₄ known'
  rw [inputBias] at known
  rw [hiddenBias] at known'
  refine (matrixOf (tensor.mono (by grind))).bind fun five _ growing₅ grid => ?_
  refine (matrixOf (tensor'.mono (by grind))).bind fun six _ growing₆ grid' => ?_
  refine (vectorOf (known.mono (by grind))).bind fun seven _ growing₇ row => ?_
  refine (vectorOf (known'.mono (by grind))).bind fun last _ growing₈ row' => ?_
  have grown : ground.Later last := by grind
  exact lstmStep float ⟨rfl, grid.mono (by grind), grid'.mono (by grind), row.mono growing₈, row'⟩
    (remembers.mono grown) (carried.mono grown) (written.mono grown) (written'.mono grown)

/-- An operation that keeps nothing, on one input. -/
private theorem plain {id : NodeId} {operation : Operation} {port : OutputPort}
    {ports : List OutputPort} {memory : List Storage} {state : List Value}
    (shaped : Shaped operation [source] [port] []) (fits : Fits allowed operation [source])
    (carried : ground.Carried source.dtype source.sizes input)
    (written : ground.Carried port.dtype port.sizes output) :
    ground.Runs (Node.run id ⟨operation, [source], ports, memory⟩ state [input] [output] :
      Host ρ Unit) fun _ _ => True := by
  have channels := (Layout.logicalSizes_packed source.sizes).symm
  have single := Layout.elementCount_single source.channels
  have counts {count : Nat} (member : count ∈ operation.extents source.sizes) :
      Counts allowed count := fits count member
  unfold Node.run Node.runOn Node.parameters
  cases shaped with
  | activation function float =>
      simp only [Operation.parametersOn, onHost_parameters_nil, given, List.getElem?_cons_zero,
        pure_bind]
      exact activate function float carried written rfl
  | softmax float =>
      simp only [Operation.parametersOn, onHost_parameters_nil, given, List.getElem?_cons_zero,
        pure_bind]
      refine (row carried).bind fun one x growing₁ taken₁ => ?_
      refine (row (written.mono growing₁)).bind fun two y growing₂ taken₂ => ?_
      exact softmax float (taken₁.mono growing₂) taken₂
  | bias float full | scaling float full =>
      simp only [Operation.parametersOn, onHost_parameters_nil, onHost_parameters_cons, given,
        List.getElem?_cons_zero, pure_bind, bind_assoc]
      refine (parameter (single.trans full.symm) (counts List.mem_cons_self)).bind ?_
      intro one known growing₁ tensor
      exact perChannel float tensor (carried.mono growing₁) (written.mono growing₁) rfl
        (congrArg (List.getLastD · 1) channels)
  | @batchNormalization statistics _ float mean variance =>
      simp only [Operation.parametersOn, onHost_parameters_nil, onHost_parameters_cons, given,
        List.getElem?_cons_zero, List.getElem?_cons_succ, pure_bind, bind_assoc]
      have scales : statistics.scale.length = statistics.variance.length := List.length_map _
      refine (parameter (single.trans mean.symm) (counts List.mem_cons_self)).bind ?_
      intro one center growing₁ tensor
      refine (parameter (single.trans (scales.trans variance).symm)
        (scales ▸ counts (by simp [Operation.extents]))).bind ?_
      intro two factor growing₂ tensor'
      have grown := growing₁.trans growing₂
      exact normalize float (tensor.mono growing₂) tensor' (carried.mono grown)
        (written.mono grown) rfl (congrArg (List.getLastD · 1) channels)
  | fullyConnected float full =>
      simp only [Operation.parametersOn, onHost_parameters_nil, onHost_parameters_cons, given,
        List.getElem?_cons_zero, pure_bind, bind_assoc]
      refine (parameterMatrix full (counts List.mem_cons_self)).bind ?_
      intro one known growing₁ tensor
      refine (matrixOf tensor).bind fun two matrix growing₂ grid => ?_
      have grown := growing₁.trans growing₂
      exact multiply float grid (carried.mono grown) (written.mono grown)
  | convolution float planes down across full =>
      simp only [Operation.parametersOn, onHost_parameters_nil, onHost_parameters_cons, given,
        List.getElem?_cons_zero, pure_bind, bind_assoc, InputPort.channels]
      rw [planes] at carried counts ⊢
      exact convolution float down across full (counts (by simp [Operation.extents]))
        (counts (by simp [Operation.extents])) carried written
  | pooling float planes down across =>
      simp only [Operation.parametersOn, onHost_parameters_nil, given, List.getElem?_cons_zero,
        pure_bind]
      rw [planes] at carried
      exact pool float down across carried written
  | regionDetection float planes =>
      simp only [Operation.parametersOn, onHost_parameters_nil, given, List.getElem?_cons_zero,
        pure_bind]
      change ground.Carried source.dtype source.sizes output at written
      rw [planes] at carried written
      exact decodeRegions float carried written
  | denseLayer float full full' =>
      simp only [Operation.parametersOn, onHost_parameters_nil, onHost_parameters_cons, given,
        List.getElem?_cons_zero, List.getElem?_cons_succ, pure_bind, bind_assoc]
      refine (parameterMatrix full (counts List.mem_cons_self)).bind ?_
      intro one known growing₁ tensor
      refine (parameterRow (counts (by simp [Operation.extents]))).bind ?_
      intro two known' growing₂ tensor'
      refine (matrixOf (tensor.mono growing₂)).bind fun three matrix growing₃ grid => ?_
      refine (vectorOf (tensor'.mono growing₃)).bind fun four row growing₄ taken => ?_
      have grown := ((growing₁.trans growing₂).trans growing₃).trans growing₄
      exact dense _ float (grid.mono growing₄) (full' ▸ taken) (carried.mono grown)
        (written.mono grown)

private theorem forall₂_single {ι κ : Type} {related : ι → κ → Prop} {first : ι}
    {values : List κ} (all : List.Forall₂ related [first] values) :
    ∃ value, values = [value] ∧ related first value := by
  obtain ⟨value, _, one, none, rfl⟩ := List.forall₂_cons_left_iff.mp all
  cases none
  exact ⟨value, rfl, one⟩

/-- A delay of one row after the other. -/
private theorem delayed {id : NodeId} {window : Nat} {ports : List OutputPort}
    {memory : List Storage} {held : Value} (positive : 0 < window)
    (kept : ground.Carried source.dtype [window * source.size] held)
    (carried : ground.Carried source.dtype source.sizes input)
    (written : ground.Carried source.dtype source.sizes output) :
    ground.Runs (Node.run id ⟨.delay window, [source], ports, memory⟩ [held] [input] [output] :
      Host ρ Unit) fun _ _ => True := by
  unfold Node.run Node.runOn Node.parameters
  simp only [Operation.parametersOn, onHost_parameters_nil, given, List.getElem?_cons_zero,
    pure_bind]
  have found : ground.Runs (Kernel.state "delay" held : Host ρ Value) fun later answer =>
      later.Carried source.dtype [window * source.size] answer := pure kept
  refine found.bind fun one same growing₁ kept => ?_
  refine (vectorOf kept).bind fun two buffer growing₂ taken₂ => ?_
  refine (row (carried.mono (by grind))).bind fun three newest growing₃ taken₃ => ?_
  refine (row (written.mono (by grind))).bind fun four dropped growing₄ taken₄ => ?_
  exact shift (taken₂.mono (by grind)) (taken₃.mono growing₄) taken₄
    (Nat.le_mul_of_pos_left _ positive) le_rfl

/-- A connected node runs through on what suits it. -/
theorem node {id : NodeId} {node : Node} {state inputs outputs : List Value}
    (shaped : node.Shaped) (fits : Fits allowed node.operation node.inputs)
    (combines : ∀ op, node.operation = .binary op →
      ∀ source ∈ node.inputs, Combines allowed source.dtype op)
    (supplied : Supplied ground id node state inputs outputs) :
    ground.Runs (node.run id state inputs outputs : Host ρ Unit) fun _ _ => True := by
  obtain ⟨operation, sources, ports, memory⟩ := node
  have shaped : Shaped operation sources ports (memory.map Storage.extent) := shaped
  obtain ⟨memories, read, fed, filled⟩ := supplied
  dsimp only at fits combines memories read fed filled
  generalize memory.map Storage.extent = extents at shaped memories
  have same := shaped
  cases shaped with
  | input dtype sizes =>
      obtain ⟨output, rfl, written⟩ := forall₂_single filled
      unfold Node.run Node.runOn Node.parameters
      simp only [onHost_parameters_nil, given, List.getElem?_cons_zero, pure_bind]
      cases inputs with
      | nil => exact fail ((fed dtype sizes rfl).1 rfl)
      | cons feed rest =>
          exact Runs.feed written ((fed dtype sizes rfl).2 feed List.mem_cons_self)
  | @constant values sizes full =>
      obtain ⟨output, rfl, written⟩ := forall₂_single filled
      unfold Node.run Node.runOn Node.parameters
      simp only [onHost_parameters_nil, onHost_parameters_cons, given, List.getElem?_cons_zero,
        pure_bind, bind_assoc]
      have counts := Tensor.counts written
      rw [Layout.logicalSizes_packed] at counts
      refine (storage full.symm.le counts).bind fun one held growing₁ tensor => ?_
      exact assignAll (written.mono growing₁) tensor rfl
  | @binary op left right typed sized =>
      obtain ⟨output, rfl, written⟩ := forall₂_single filled
      obtain ⟨one, _, carried, others, rfl⟩ := List.forall₂_cons_left_iff.mp (read (List.cons_ne_nil _ _))
      obtain ⟨two, rfl, carried'⟩ := forall₂_single others
      change ground.Carried left.dtype left.sizes output at written
      rw [typed, sized] at carried'
      unfold Node.run Node.runOn Node.parameters
      simp only [Operation.parametersOn, onHost_parameters_nil, given, List.getElem?_cons_zero,
        List.getElem?_cons_succ, pure_bind]
      refine (assignAll written carried rfl).bind fun one _ growing₁ _ => ?_
      exact elementwise (combines op rfl left List.mem_cons_self) (written.mono growing₁)
        (carried'.mono growing₁) rfl
  | delay positive =>
      obtain ⟨output, rfl, written⟩ := forall₂_single filled
      obtain ⟨input, rfl, carried⟩ := forall₂_single (read (List.cons_ne_nil _ _))
      obtain ⟨held, rfl, kept⟩ := forall₂_single memories
      exact delayed positive kept carried written
  | lstm float inputWeights hiddenWeights inputBias hiddenBias few single =>
      obtain ⟨output, _, written, others, rfl⟩ := List.forall₂_cons_left_iff.mp filled
      obtain ⟨cell, rfl, written'⟩ := forall₂_single others
      obtain ⟨input, triggers', carried, followed, rfl⟩ :=
        List.forall₂_cons_left_iff.mp (read (List.cons_ne_nil _ _))
      unfold Node.run Node.runOn Node.parameters
      simp only [given, List.getElem?_cons_zero, List.getElem?_cons_succ, pure_bind]
      exact recurrence float fits inputWeights hiddenWeights inputBias hiddenBias single memories
        carried followed written written'
  | _ =>
      obtain ⟨output, rfl, written⟩ := forall₂_single filled
      obtain ⟨input, rfl, carried⟩ := forall₂_single (read (List.cons_ne_nil _ _))
      exact plain same fits carried written

end Runs
end Ground
end TensorGraph

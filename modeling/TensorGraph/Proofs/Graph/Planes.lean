/-
Nodes on planes.

Convolutions, pooling and region detection take rows and columns of channels and
keep nothing.  A node of one input and one output that keeps nothing answers each
step from the input of that step alone, whatever it was fed before.  What it
answers is what its definition says, element by element: sums over windows of the
input inside its border, reductions of windows, and decoded channels.
-/

import TensorGraph.Proofs.Graph.Connect
import TensorGraph.Proofs.Graph.Ground
import TensorGraph.Proofs.Graph.Settling
import TensorGraph.Proofs.Graph.Stepping
import TensorGraph.Proofs.Kernel.Convolution
import TensorGraph.Proofs.Kernel.Pooling
import TensorGraph.Proofs.Kernel.Region
import TensorGraph.Proofs.Kernel.Windows

namespace TensorGraph

/-- The inputs of the steps among some visits. -/
def stepsOf : List Visit → List (List Storage)
  | [] => []
  | .step inputs :: rest => inputs :: stepsOf rest
  | .reset :: rest => stepsOf rest

namespace Node

variable {ρ : Type} {id : NodeId} {operation : Operation} {port : InputPort} {output : OutputPort}
  {element : Storage → List Nat → Except Error Literal} {parameters : List Value}
  {state : HostState ρ} {data : Storage} {visits : List Visit}

/-- What a node without memory holds. -/
def statelessHolding (parameters : List Value) : Holding where
  parameters := parameters
  memory := []

/-- The numbers of a node stand in memory. -/
def Stocked (operation : Operation) (port : InputPort) (output : OutputPort)
    (parameters : List Value) (names : List Nat) (heap : Heap) : Prop :=
  List.Forall₂ (Parameter.Apart names heap) (stateless operation [port] output).parameters parameters

/-- On an input of its port, a node puts a function of the coordinates into its output. -/
def Computes (ρ : Type) (id : NodeId) (operation : Operation) (port : InputPort)
    (output : OutputPort) (element : Storage → List Nat → Except Error Literal) : Prop :=
  ∀ (parameters : List Value) (data : Storage) (input target : Value) (name name' : Nat)
    (state : HostState ρ), data.dtype = port.dtype → name ≠ name' →
      Stocked operation port output parameters [name'] state.heap →
        input.Fills state.heap name port.sizes data →
          target.Fills state.heap name' output.sizes
            (.zeros output.dtype (elementCount output.sizes)) →
              Host.Yields ((stateless operation [port] output).runOn id parameters [] [input]
                [target] : Host ρ Unit) state fun _ after =>
                  target.Rewritten (fun coordinates result => element data coordinates = .ok result)
                    Set.univ state.heap after.heap

/-- An answer is what the node computes from the only input. -/
def Answers (port : InputPort) (output : OutputPort)
    (element : Storage → List Nat → Except Error Literal) (inputs answer : List Storage) : Prop :=
  ∃ data result, inputs = [data] ∧ data.dtype = port.dtype ∧ data.size = port.size ∧
    answer = [result] ∧ result.Holds output.dtype output.sizes (element data)

/-- One step answers from its input alone. -/
theorem Computes.step_yields (computes : Computes ρ id operation port output element)
    (typed : data.dtype = port.dtype) (sized : data.size = port.size)
    (stocked : Stocked operation port output parameters [] state.heap) :
    Host.Yields ((stateless operation [port] output).step id (statelessHolding parameters) [data] :
      Host ρ (List Storage)) state fun answer after =>
        Answers port output element [data] answer ∧
          Stocked operation port output parameters [] after.heap := by
  have input := Value.Fills.added state.heap sized
  have target := Value.Fills.added (state.heap.add data)
    (Storage.size_zeros output.dtype (elementCount output.sizes))
  have growing : state.heap.Grows ((state.heap.add data).add
      (.zeros output.dtype (elementCount output.sizes))) := (Heap.Grows.add _ _).trans (.add _ _)
  rw [Heap.next_add] at target
  have apart : Stocked operation port output parameters [state.heap.next + 1] _ :=
    stocked.imp fun parameter value held => by
      obtain ⟨name, -, fills⟩ := held
      have known := fills.known
      exact ⟨name, fun member => by rw [List.mem_singleton] at member; omega, fills.grows growing⟩
  refine step_of_work rfl rfl sized ((computes parameters data _ _ _ _ (Host.onto state _) typed
    (Nat.lt_succ_self _).ne apart (input.grows (.add _ _)) target).mono fun _ after rewritten => ?_)
  obtain ⟨result, fills, typed', each⟩ := target.of_rewritten rewritten
  refine ⟨result, fills, ⟨data, result, rfl, typed, sized, rfl, typed', fills.sized, each⟩, ?_⟩
  -- the only storage of before that a step writes to is its output
  refine apart.imp fun parameter value held => ?_
  obtain ⟨name, apart, fills'⟩ := held
  exact ⟨name, List.not_mem_nil, fills'.spared (rewritten.sparing target.stands)
    fun same => apart (List.mem_singleton.mpr same)⟩

theorem Computes.visitOn_yields (computes : Computes ρ id operation port output element)
    (takes : ∀ inputs, .step inputs ∈ visits → (stateless operation [port] output).Takes inputs) :
    ∀ state : HostState ρ, Stocked operation port output parameters [] state.heap →
      Host.Yields ((stateless operation [port] output).visitOn id (statelessHolding parameters)
        visits : Host ρ (List (List Storage))) state fun answers _ =>
          List.Forall₂ (Answers port output element) (stepsOf visits) answers := by
  induction visits with
  | nil => exact fun state _ => .of_done rfl .nil
  | cons visit rest inductionHypothesis =>
      intro state stocked
      have others := inductionHypothesis fun inputs member =>
        takes inputs (List.mem_cons_of_mem _ member)
      cases visit with
      | reset => exact .behind rfl (others state stocked)
      | step inputs =>
          obtain _ | @⟨_, data, _, _, ⟨typed, sized⟩, _ | _⟩ := takes inputs List.mem_cons_self
          refine (computes.step_yields typed sized stocked).bind ?_
          rintro answer middle ⟨answered, stocked'⟩
          exact (others middle stocked').bind fun answers after each =>
            .of_done rfl (.cons answered each)

/-- A fresh node without memory answers each step from its input alone, whatever is done in
between. -/
theorem Computes.visit (computes : Computes ρ id operation port output element)
    (full : ∀ parameter ∈ (stateless operation [port] output).parameters, parameter.Full)
    (takes : ∀ inputs, .step inputs ∈ visits → (stateless operation [port] output).Takes inputs)
    (state : HostState ρ) :
    ∃ answers after, (stateless operation [port] output).visit id visits state = .ok answers after ∧
      List.Forall₂ (Answers port output element) (stepsOf visits) answers := by
  have placed := placeParameters_eq full state.heap
  have held := Parameter.handles_held state.heap (stateless operation [port] output).parameters
  generalize state.heap.addAll ((stateless operation [port] output).parameters.map
    Parameter.elements) = middle at placed held
  generalize Parameter.handles state.heap.next (stateless operation [port] output).parameters =
    parameters at placed held
  have settled : Holding.settle (stateless operation [port] output) state.heap =
      .ok (statelessHolding parameters) middle :=
    Action.bind_ok.mpr ⟨_, _, placed, rfl⟩
  obtain ⟨answers, after, done, each⟩ := computes.visitOn_yields takes (Host.onto state middle)
    (Parameter.apart_of_held full held nofun)
  exact ⟨answers, after,
    Host.bind_ok.mpr ⟨_, _, Host.onHeap_ok.mpr ⟨_, settled, rfl⟩, done⟩, each⟩

end Node

/-- What a node looks like that was connected to a port of floating point numbers. -/
theorem Model.unary_of_connect {model : Model} {operation : Operation} {source : Port}
    {others : List Port} {output : OutputPort} {node : Node}
    {make : InputPort → Except Error Node} (kind : operation.unary? = some make)
    (found : model.outputPort source = .ok output)
    (connected : model.connect operation (source :: others) = .ok node) :
    ∃ (port : InputPort) (made : OutputPort), node = Node.stateless operation [port] made ∧
      port.dtype = output.dtype ∧ port.sizes = output.sizes := by
  rw [connect_unary model kind] at connected
  obtain ⟨port, first, connected⟩ := bind_eq_ok.mp connected
  rw [Operation.unary_local kind port] at connected
  obtain ⟨-, typed, sizes⟩ := firstFloat_port found first
  cases made : outputOfMade make port.dtype port.sizes with
  | error cause =>
      rw [made] at connected
      cases connected
  | ok result =>
      rw [made] at connected
      cases connected
      exact ⟨port, result, rfl, typed, sizes⟩

/-- The shape of a convolution on planes. -/
def ConvolutionWeights.shapeOn (weights : ConvolutionWeights) (rows columns channels : Nat) :
    Kernel.ConvolutionShape where
  rows := rows
  columns := columns
  channels := channels
  kernel := weights.kernel
  stride := weights.stride
  padding := weights.padding

namespace Node

variable {ρ : Type} {port : InputPort} {rows columns channels : Nat}

/-! ### What the nodes compute -/

theorem convolution_computes (id : NodeId) {weights : ConvolutionWeights}
    (planes : port.sizes = [rows, columns, channels]) (float : port.dtype.isFloat = true)
    (down : weights.kernel ≤ rows + 2 * weights.padding)
    (across : weights.kernel ≤ columns + 2 * weights.padding)
    (counts : elementCount (weights.shapeOn rows columns channels).extents ≤ Nat.pow 2 63)
    (counts' : weights.weights.length ≤ Nat.pow 2 63)
    (counts'' : elementCount ((weights.shapeOn rows columns channels).places weights.filters) ≤
      Nat.pow 2 63) :
    Computes ρ id (.convolution weights) port
      (outputOf port.dtype ((weights.shapeOn rows columns channels).places weights.filters))
      ((weights.shapeOn rows columns channels).sumAt weights.filters
        (.ofFloats port.dtype weights.weights.toArray)) := by
  obtain ⟨_, _, dtype, sizes⟩ := port
  cases planes
  intro parameters data input target name name' state typed different stocked fills fills'
  obtain _ | ⟨⟨kernel, apart, kernel_fills⟩, _ | _⟩ := stocked
  have numeric : data.dtype ≠ .bool := by
    intro same
    rw [← typed, same] at float
    cases float
  have counted := Storage.size_ofFloats dtype weights.weights
  refine .behind rfl (.behind rfl (.behind rfl ?_))
  exact Host.convolve_yields
    ⟨numeric, typed.symm, fills.sized, kernel_fills.sized⟩ fills
    ⟨kernel, fun same => apart (List.mem_singleton.mpr same), kernel_fills⟩ fills' typed.symm rfl
    down across counts (counted.trans_le counts') ((Storage.size_zeros _ _).trans_le counts'')

theorem pooling_computes (id : NodeId) {kind : PoolingKind} {window stride : Nat}
    (planes : port.sizes = [rows, columns, channels]) (float : port.dtype.isFloat = true)
    (down : window ≤ rows) (across : window ≤ columns) (counts : port.size ≤ Nat.pow 2 63)
    (counts' : elementCount [windowCount rows window stride, windowCount columns window stride,
      channels] ≤ Nat.pow 2 63) :
    Computes ρ id (.pooling kind window stride) port
      (outputOf port.dtype
        [windowCount rows window stride, windowCount columns window stride, channels])
      (kind.reduce window stride [rows, columns, channels]) := by
  obtain ⟨_, _, dtype, sizes⟩ := port
  cases planes
  intro parameters data input target name name' state typed different stocked fills fills'
  refine .behind rfl (.behind rfl ?_)
  exact Host.pool_yields fills fills' typed.symm rfl (typed ▸ float) down across
    (fills.sized.trans_le counts) ((Storage.size_zeros _ _).trans_le counts') different

theorem detection_computes (id : NodeId) (shape : Kernel.RegionShape)
    (planes : port.sizes = shape.sizes) (float : port.dtype.isFloat = true)
    (counts : port.size ≤ Nat.pow 2 63) :
    Computes ρ id (.regionDetection shape.anchors shape.classes) port
      (outputOf port.dtype port.sizes) shape.decode := by
  obtain ⟨_, _, dtype, sizes⟩ := port
  cases planes
  intro parameters data input target name name' state typed different stocked fills fills'
  refine .behind rfl (.behind rfl ?_)
  exact Host.regions_yield fills fills' typed.symm (typed ▸ float) (fills.sized.trans_le counts)
    different

end Node

namespace Model

variable {ρ : Type} {model : Model} {source : Port} {others : List Port} {output : OutputPort}
  {node : Node}

/-- A convolution that was connected is one: each step answers with the sums over the windows of
its input, which lies inside a border of zeros. -/
theorem connect_convolves {weights : ConvolutionWeights}
    (found : model.outputPort source = .ok output)
    (connected : model.connect (.convolution weights) (source :: others) = .ok node)
    (counts : ∀ count ∈ node.extents, count ≤ Nat.pow 2 63) (id : NodeId) (visits : List Visit)
    (takes : ∀ inputs, .step inputs ∈ visits → node.Takes inputs) (state : HostState ρ) :
    ∃ rows columns channels answers after, output.sizes = [rows, columns, channels] ∧
      node.outputs.map OutputPort.sizes =
        [[(rows + 2 * weights.padding - weights.kernel) / weights.stride + 1,
          (columns + 2 * weights.padding - weights.kernel) / weights.stride + 1,
          weights.filters]] ∧
      node.visit id visits state = .ok answers after ∧
      List.Forall₂ (fun inputs answer => ∃ data result, inputs = [data] ∧ answer = [result] ∧
        result.Holds output.dtype
          [(rows + 2 * weights.padding - weights.kernel) / weights.stride + 1,
            (columns + 2 * weights.padding - weights.kernel) / weights.stride + 1, weights.filters]
          ((weights.shapeOn rows columns channels).sumAt weights.filters
            (.ofFloats output.dtype weights.weights.toArray) data)) (stepsOf visits) answers := by
  obtain ⟨port, made, rfl, typed, sizes⟩ := unary_of_connect rfl found connected
  have shaped := shaped_of_connect connected
  have full := shaped.full
  change Shaped (.convolution weights) [port] [made] [] at shaped
  cases shaped with
  | @convolution _ _ rows columns channels float planes down across _ =>
  change ∀ count ∈ elementCount _ :: (Operation.convolution weights).extents port.sizes, _ at counts
  rw [planes] at counts
  have bordered := counts _ (List.mem_cons_of_mem _ (List.mem_cons_of_mem _ List.mem_cons_self))
  have weighted := counts _ (List.mem_cons_of_mem _ List.mem_cons_self)
  have computes := Node.convolution_computes (ρ := ρ) id planes float down across
    bordered weighted (counts _ List.mem_cons_self)
  obtain ⟨answers, after, visited, each⟩ := computes.visit full takes state
  rw [typed] at each
  refine ⟨rows, columns, channels, answers, after, sizes.symm.trans planes, rfl, visited,
    each.imp fun inputs answer answered => ?_⟩
  obtain ⟨data, result, taken, -, -, given, holds⟩ := answered
  exact ⟨data, result, taken, given, holds⟩

/-- A window of two by two that slides over one pixel inside a border. -/
theorem connect_convolves_pixel :
    ∃ (model : Model) (weights : ConvolutionWeights) (node : Node) (image result : Storage)
      (after : HostState Unit), weights.kernel = 2 ∧ weights.stride = 1 ∧ weights.padding = 1 ∧
        weights.filters = 1 ∧ image.cells = #[.f64 1.0] ∧
      model.outputPort { node := 0, output := 0 } = .ok (outputOf .f64 [1, 1, 1]) ∧
      model.connect (.convolution weights) [{ node := 0, output := 0 }] = .ok node ∧
      node.visit 1 [.step [image]] { heap := Heap.empty, operations := 0, scratch := () } =
        .ok [[result]] after ∧
      result.Holds .f64 [2, 2, 1] ((weights.shapeOn 1 1 1).sumAt 1
        (.ofFloats .f64 weights.weights.toArray) image) := by
  let model : Model := { nodes := [Node.stateless (.input .f64 [1, 1, 1]) [] (outputOf .f64 [1, 1, 1])] }
  let weights : ConvolutionWeights :=
    { filters := 1
      kernel := 2
      stride := 1
      padding := 1
      weights := [1.0, 2.0, 3.0, 4.0] }
  let image : Storage := { dtype := .f64, cells := #[.f64 1.0], typed := by simp [Literal.dtype] }
  obtain ⟨node, connected, counts, takes⟩ : ∃ node : Node,
      model.connect (.convolution weights) [{ node := 0, output := 0 }] = .ok node ∧
        (∀ count ∈ node.extents, count ≤ Nat.pow 2 63) ∧ node.Takes [image] :=
    ⟨_, rfl, by decide, .cons ⟨rfl, rfl⟩ .nil⟩
  obtain ⟨rows, columns, channels, answers, after, sizes, -, visited, each⟩ :=
    connect_convolves (ρ := Unit)
      (rfl : model.outputPort { node := 0, output := 0 } = .ok (outputOf .f64 [1, 1, 1])) connected
      counts 1 [.step [image]] (by
        intro inputs member
        cases List.mem_singleton.mp member
        exact takes) { heap := Heap.empty, operations := 0, scratch := () }
  cases sizes
  obtain _ | ⟨⟨data, result, same, rfl, holds⟩, _ | _⟩ := each
  cases same
  have counted : (1 + 2 * weights.padding - weights.kernel) / weights.stride + 1 = 2 := by decide
  rw [counted] at holds
  exact ⟨model, weights, node, image, result, after, rfl, rfl, rfl, rfl, rfl, rfl, connected, visited,
    holds⟩

/-- Pooling that was connected answers each step with the reductions of the windows of its input,
which all lie in the input. -/
theorem connect_pools {kind : PoolingKind} {window stride : Nat}
    (found : model.outputPort source = .ok output)
    (connected : model.connect (.pooling kind window stride) (source :: others) = .ok node)
    (counts : output.size ≤ Nat.pow 2 63) (counts' : ∀ count ∈ node.extents, count ≤ Nat.pow 2 63)
    (id : NodeId) (visits : List Visit)
    (takes : ∀ inputs, .step inputs ∈ visits → node.Takes inputs) (state : HostState ρ) :
    ∃ rows columns channels answers after, output.sizes = [rows, columns, channels] ∧
      node.outputs.map OutputPort.sizes =
        [[(rows - window) / stride + 1, (columns - window) / stride + 1, channels]] ∧
      node.visit id visits state = .ok answers after ∧
      List.Forall₂ (fun inputs answer => ∃ data result, inputs = [data] ∧ answer = [result] ∧
        result.Holds output.dtype
          [(rows - window) / stride + 1, (columns - window) / stride + 1, channels]
          (kind.reduce window stride output.sizes data)) (stepsOf visits) answers ∧
      ∀ i < (rows - window) / stride + 1, ∀ j < (columns - window) / stride + 1,
        ∀ channel < channels, ∀ a < window, ∀ b < window,
          (Layout.packed output.sizes).Inside [i * stride + a, j * stride + b, channel] := by
  obtain ⟨port, made, rfl, typed, sizes⟩ := unary_of_connect rfl found connected
  have shaped := shaped_of_connect connected
  have full := shaped.full
  change Shaped (.pooling kind window stride) [port] [made] [] at shaped
  cases shaped with
  | @pooling _ _ _ _ rows columns channels float planes down across =>
  have taken : port.size ≤ Nat.pow 2 63 := (congrArg elementCount sizes).trans_le counts
  have computes : Node.Computes ρ id (.pooling kind window stride) port _ _ :=
    Node.pooling_computes id planes float down across taken (counts' _ List.mem_cons_self)
  obtain ⟨answers, after, visited, each⟩ := computes.visit full takes state
  rw [typed] at each
  have same := sizes.symm.trans planes
  rw [same]
  refine ⟨rows, columns, channels, answers, after, rfl, rfl, visited,
    each.imp fun inputs answer answered => ?_, fun i top j side channel depth a place b place' =>
      PoolingKind.inside down across top side depth place place'⟩
  obtain ⟨data, result, taken, -, -, given, holds⟩ := answered
  exact ⟨data, result, taken, given, holds⟩

/-- The mean of a window of two by two over three rows and two columns. -/
theorem connect_pools_mean :
    ∃ (model : Model) (node : Node) (image result : Storage) (after : HostState Unit),
      image.cells = #[.f64 1.0, .f64 2.0, .f64 3.0, .f64 4.0, .f64 5.0, .f64 6.0] ∧
      model.outputPort { node := 0, output := 0 } = .ok (outputOf .f64 [3, 2, 1]) ∧
      model.connect (.pooling .mean 2 1) [{ node := 0, output := 0 }] = .ok node ∧
      node.visit 1 [.step [image]] { heap := Heap.empty, operations := 0, scratch := () } =
        .ok [[result]] after ∧
      result.Holds .f64 [2, 1, 1] (PoolingKind.mean.reduce 2 1 [3, 2, 1] image) ∧
      (Layout.packed [3, 2, 1]).Inside [2, 1, 0] := by
  let model : Model := { nodes := [Node.stateless (.input .f64 [3, 2, 1]) [] (outputOf .f64 [3, 2, 1])] }
  let image : Storage :=
    { dtype := .f64
      cells := #[.f64 1.0, .f64 2.0, .f64 3.0, .f64 4.0, .f64 5.0, .f64 6.0]
      typed := by simp [Literal.dtype] }
  obtain ⟨node, connected, counts, takes⟩ : ∃ node : Node,
      model.connect (.pooling .mean 2 1) [{ node := 0, output := 0 }] = .ok node ∧
        (∀ count ∈ node.extents, count ≤ Nat.pow 2 63) ∧ node.Takes [image] :=
    ⟨_, rfl, by decide, .cons ⟨rfl, rfl⟩ .nil⟩
  obtain ⟨rows, columns, channels, answers, after, sizes, -, visited, each, inside⟩ :=
    connect_pools (ρ := Unit)
      (rfl : model.outputPort { node := 0, output := 0 } = .ok (outputOf .f64 [3, 2, 1])) connected
      (by decide) counts 1 [.step [image]] (by
        intro inputs member
        cases List.mem_singleton.mp member
        exact takes) { heap := Heap.empty, operations := 0, scratch := () }
  cases sizes
  obtain _ | ⟨⟨data, result, same, rfl, holds⟩, _ | _⟩ := each
  cases same
  exact ⟨model, node, image, result, after, rfl, rfl, connected, visited, holds,
    inside 1 (by decide) 0 (by decide) 0 (by decide) 1 (by decide) 1 (by decide)⟩

/-- Region detection that was connected decodes every channel from its input alone, whatever was
decoded before.  The classes of an anchor are decoded by a softmax, which leaves the same in its
target whether that is its source or apart from it. -/
theorem connect_detects {anchors classes : Nat}
    (found : model.outputPort source = .ok output)
    (connected : model.connect (.regionDetection anchors classes) (source :: others) = .ok node)
    (counts : ∀ count ∈ node.extents, count ≤ Nat.pow 2 63) (id : NodeId) (visits : List Visit)
    (takes : ∀ inputs, .step inputs ∈ visits → node.Takes inputs) (state : HostState ρ) :
    (∃ (shape : Kernel.RegionShape) (answers : List (List Storage)) (after : HostState ρ),
      shape.anchors = anchors ∧ shape.classes = classes ∧ output.sizes = shape.sizes ∧
      node.visit id visits state = .ok answers after ∧
      List.Forall₂ (fun inputs answer => ∃ data result, inputs = [data] ∧ answer = [result] ∧
        result.dtype = output.dtype ∧ result.size = elementCount shape.sizes ∧
        ∀ row < shape.rows, ∀ column < shape.columns, ∀ anchor < anchors,
          (∀ position ∈ [0, 1, 4],
            ActivationFunction.logisticImage (shape.score data row column anchor position) =
              .ok (shape.score result row column anchor position)) ∧
          (∀ position ∈ [2, 3], (shape.score data row column anchor position).unary .exp =
            .ok (shape.score result row column anchor position)) ∧
          Literal.softmax output.dtype (shape.scores data row column anchor) =
            .ok (shape.scores result row column anchor)) (stepsOf visits) answers) ∧
    ∀ (x y : Vector) (name base name' base' : Nat) (elements : List Literal) (start : HostState ρ),
      Host.Softens start.heap x y name base name' base' elements →
        ∃ results after, Literal.softmax x.dtype elements = .ok results ∧
          (Kernel.softmax x y : Host ρ Unit) start = .ok () after ∧ y.Lists after.heap results := by
  refine ⟨?_, fun _ _ _ _ _ _ _ _ => Host.softmax_lists⟩
  obtain ⟨port, made, rfl, typed, sizes⟩ := unary_of_connect rfl found connected
  have shaped := shaped_of_connect connected
  have full := shaped.full
  change Shaped (.regionDetection anchors classes) [port] [made] [] at shaped
  cases shaped with
  | @regionDetection _ _ _ rows columns float planes =>
  let shape : Kernel.RegionShape := ⟨rows, columns, anchors, classes⟩
  have computes := Node.detection_computes (ρ := ρ) id shape planes float
    (counts _ List.mem_cons_self)
  obtain ⟨answers, after, visited, each⟩ := computes.visit full takes state
  refine ⟨shape, answers, after, rfl, rfl, sizes.symm.trans planes, visited,
    each.imp fun inputs answer answered => ?_⟩
  obtain ⟨data, result, taken, kind, sized, given, holds⟩ := answered
  have planes' : (outputOf port.dtype port.sizes).sizes = shape.sizes := planes
  rw [planes', typed] at holds
  have counted : data.size = elementCount shape.sizes := sized.trans (congrArg elementCount planes)
  exact ⟨data, result, taken, given, holds.typed, holds.sized, fun row top column side anchor few =>
    Kernel.RegionShape.holds_decode holds (typed ▸ float) (kind.trans typed) counted top side few⟩

/-- One anchor of one class in one cell, and a softmax of two elements in their own storage and in
another one. -/
theorem connect_detects_box :
    ∃ (model : Model) (node : Node) (image result : Storage) (after : HostState Unit)
      (x y : Vector) (elements results : List Literal) (start one two : HostState Unit),
      image.cells = #[.f64 0.5, .f64 0.25, .f64 0.0, .f64 1.0, .f64 2.0, .f64 3.0] ∧
      model.outputPort { node := 0, output := 0 } = .ok (outputOf .f64 [1, 1, 6]) ∧
      model.connect (.regionDetection 1 1) [{ node := 0, output := 0 }] = .ok node ∧
      node.visit 1 [.step [image]] { heap := Heap.empty, operations := 0, scratch := () } =
        .ok [[result]] after ∧
      ActivationFunction.logisticImage (image.item 4) = .ok (result.item 4) ∧
      (image.item 3).unary .exp = .ok (result.item 3) ∧
      Literal.softmax .f64 [image.item 5] = .ok [result.item 5] ∧
      elements = [.f64 1.0, .f64 2.0] ∧ x.value.place ≠ y.value.place ∧
      Literal.softmax .f64 elements = .ok results ∧
      (Kernel.softmax x x : Host Unit Unit) start = .ok () one ∧ x.Lists one.heap results ∧
      (Kernel.softmax x y : Host Unit Unit) start = .ok () two ∧ y.Lists two.heap results := by
  let model : Model := { nodes := [Node.stateless (.input .f64 [1, 1, 6]) [] (outputOf .f64 [1, 1, 6])] }
  let image : Storage :=
    { dtype := .f64
      cells := #[.f64 0.5, .f64 0.25, .f64 0.0, .f64 1.0, .f64 2.0, .f64 3.0]
      typed := by simp [Literal.dtype] }
  let pair : Storage :=
    { dtype := .f64, cells := #[.f64 1.0, .f64 2.0], typed := by simp [Literal.dtype] }
  let empty : HostState Unit := { heap := Heap.empty, operations := 0, scratch := () }
  obtain ⟨node, connected, counts, takes⟩ : ∃ node : Node,
      model.connect (.regionDetection 1 1) [{ node := 0, output := 0 }] = .ok node ∧
        (∀ count ∈ node.extents, count ≤ Nat.pow 2 63) ∧ node.Takes [image] :=
    ⟨_, rfl, by decide, .cons ⟨rfl, rfl⟩ .nil⟩
  obtain ⟨⟨shape, answers, after, anchors, classes, sizes, visited, each⟩, softens⟩ :=
    connect_detects (ρ := Unit)
      (rfl : model.outputPort { node := 0, output := 0 } = .ok (outputOf .f64 [1, 1, 6])) connected
      counts 1 [.step [image]] (by
        intro inputs member
        cases List.mem_singleton.mp member
        exact takes) empty
  obtain ⟨rows, columns, _, _⟩ := shape
  cases anchors
  cases classes
  injection sizes with top rest
  injection rest with side _
  subst top side
  obtain _ | ⟨⟨data, result, same, rfl, -, -, decoded⟩, _ | _⟩ := each
  cases same
  obtain ⟨centre, size, run⟩ := decoded 0 (by decide) 0 (by decide) 0 (by decide)
  -- the two elements, and zeros in another storage
  let start := Host.onto empty ((Heap.empty.add pair).add (.zeros .f64 2))
  have stored : (Value.ofWhole .f64 [2] 0).Fills (Heap.empty.add pair) 0 [2] pair :=
    @Value.Fills.added [2] pair Heap.empty rfl
  have fills : (Value.ofWhole .f64 [2] 0).Fills start.heap 0 [2] pair := stored.grows (.add _ _)
  have fills' : (Value.ofWhole .f64 [2] 1).Fills start.heap 1 [2] (.zeros .f64 2) :=
    Value.Fills.added (Heap.empty.add pair) (Storage.size_zeros _ _)
  obtain ⟨x, _, _, -, placed, row⟩ := Host.vector_of_fills fills
  obtain ⟨y, _, _, -, placed', row'⟩ := Host.vector_of_fills fills'
  have lists : x.Lists start.heap [.f64 1.0, .f64 2.0] :=
    (Vector.lists_iff row.fills.stands).mpr row.fills.literals
  have counts' : x.size ≤ Nat.pow 2 63 := row.size.trans_le (by decide)
  obtain ⟨results, one, softmax, done, left⟩ := softens x x 0 0 0 0 _ start
    ⟨row.fills.stands, row.fills.stands, rfl, rfl, row.dtype ▸ rfl, counts', .inr ⟨rfl, rfl⟩, lists⟩
  obtain ⟨results', two, softmax', done', left'⟩ := softens x y 0 0 1 0 _ start
    ⟨row.fills.stands, row'.fills.stands, row'.size.trans row.size.symm,
      row'.dtype.trans row.dtype.symm, row.dtype ▸ rfl, counts',
      .of_places row'.place row.place Nat.one_ne_zero, lists⟩
  cases softmax.symm.trans softmax'
  rw [row.dtype] at softmax
  have different : x.value.place ≠ y.value.place := by
    rw [row.place, row'.place]
    intro same
    injection same with same
    exact Nat.zero_ne_one same
  exact ⟨model, node, image, result, after, x, y, _, results, start, one, two, rfl, rfl, connected,
    visited, centre 4 (by decide), size 3 (by decide), run, rfl, different, softmax, done, left,
    done', left'⟩

end Model
end TensorGraph

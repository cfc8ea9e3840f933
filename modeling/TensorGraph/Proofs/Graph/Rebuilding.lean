/-
Rebuilding a model.

A pass takes over the nodes of a model one after the other, each as a copy or as
a chain of simpler nodes.  Whatever it has taken over so far, every output port
has a counterpart of the same type and shape.  Only a batch normalization can be
in the way: its scale and its shift are computed by the pass, and they need not
be finite.
-/

import TensorGraph.Graph.Refine
import TensorGraph.Proofs.Graph.Connect

namespace TensorGraph

/-! ### Output ports -/

namespace Model

variable {model target : Model} {port : Port} {output : OutputPort}

theorem outputPort_ok :
    model.outputPort port = .ok output ↔
      ∃ node, model.nodes[port.node]? = some node ∧ node.outputs[port.output]? = some output := by
  unfold outputPort node?
  constructor
  · intro found
    split at found
    · cases found
    · rename_i node here
      refine ⟨node, here, ?_⟩
      split at found
      · rename_i output' known
        cases found
        exact known
      · cases found
  · rintro ⟨node, here, known⟩
    rw [here]
    dsimp only
    rw [known]

theorem outputPort_before {id : NodeId} :
    (model.before id).outputPort port = .ok output ↔
      port.node < id ∧ model.outputPort port = .ok output := by
  simp only [outputPort_ok, before, List.getElem?_take]
  by_cases earlier : port.node < id
  · simp [earlier]
  · simp [earlier]

theorem outputPort_append {nodes : List Node} (more : List Node)
    (found : outputPort { nodes := nodes } port = .ok output) :
    outputPort { nodes := nodes ++ more } port = .ok output := by
  obtain ⟨node, here, known⟩ := outputPort_ok.mp found
  refine outputPort_ok.mpr ⟨node, ?_, known⟩
  rwa [List.getElem?_append_left (List.getElem?_eq_some_iff.mp here).1]

/-- The output of a node that stands behind others. -/
theorem outputPort_behind {nodes more : List Node} {place number : Nat} {node : Node}
    (here : more[place]? = some node) (found : node.outputs[number]? = some output) :
    outputPort { nodes := nodes ++ more } { node := nodes.length + place, output := number } =
      .ok output := by
  refine outputPort_ok.mpr ⟨node, ?_, found⟩
  rwa [List.getElem?_append_right (Nat.le_add_right _ _), Nat.add_sub_cancel_left]

/-! ### Nodes on one input -/

variable {operation : Operation} {make : InputPort → Except Error Node} {node : Node}

/-- A node on one input is what its operation makes of that input. -/
theorem made_of_unary {state : List Storage} (found : operation.unary? = some make)
    (connected : model.connect operation (node.inputs.map InputPort.source) =
      .ok { node with state := state })
    (shapes : List.Forall₂ Storage.SameShape state node.state) :
    ∃ input, node.inputs = [input] ∧ make input = .ok node ∧ model.Reads input ∧
      input.name = "input" ∧ input.dtype.isFloat = true := by
  rw [connect_unary model found] at connected
  obtain ⟨input, first, done⟩ := bind_eq_ok.mp connected
  obtain ⟨reads, named, float⟩ := firstFloat_ok first
  have shaped := Operation.unary_local found input
  rw [done] at shaped
  cases output : outputOfMade make input.dtype input.sizes with
  | error cause =>
      rw [output] at shaped
      cases shaped
  | ok output' =>
      rw [output] at shaped
      obtain ⟨operation', inputs, outputs, memory⟩ := node
      cases shaped
      cases shapes
      exact ⟨input, rfl, done, reads, named, float⟩

theorem Connected.reads {id : NodeId} (connected : model.Connected) (found : model.nodes[id]? = some node) :
    ∀ input ∈ node.inputs, (model.before id).Reads input := by
  obtain ⟨state, done, -⟩ := connected id node found
  exact (made_of_connect done).reads

/-- An operation that is made of one input. -/
theorem Connected.unary {id : NodeId} (connected : model.Connected) (found : model.nodes[id]? = some node)
    (unary : node.operation.unary? = some make) :
    ∃ input, node.inputs = [input] ∧ make input = .ok node ∧ (model.before id).Reads input ∧
      input.name = "input" ∧ input.dtype.isFloat = true := by
  obtain ⟨memory, made, shapes⟩ := connected id node found
  exact made_of_unary unary made shapes

/-- What an operation reads that stands behind the last of some nodes. -/
def chained (dtype : DType) (sizes : List Nat) (place : Nat) : InputPort :=
  { name := "input"
    source :=
      { node := place
        output := 0 }
    dtype := dtype
    sizes := sizes }

theorem reads_chained (nodes : List Node) {more : List Node} (place : Nat) {node : Node}
    {dtype : DType} {sizes : List Nat} (here : more[place]? = some node)
    (outputs : node.outputs = [outputOf dtype sizes]) :
    Reads { nodes := nodes ++ more } (chained dtype sizes (nodes.length + place)) := by
  have found : node.outputs[0]? = some (outputOf dtype sizes) := by
    rw [outputs]
    rfl
  exact inputFrom_ok.mpr ⟨outputOf dtype sizes, outputPort_behind here found, rfl⟩

theorem add_unary {input : InputPort} (found : operation.unary? = some make)
    (reads : target.Reads input) (named : input.name = "input")
    (float : input.dtype.isFloat = true) :
    target.add operation [input.source] =
      (make input).map fun made => ({ nodes := target.nodes ++ [made] }, target.size) := by
  have connected : target.connect operation [input.source] = make input := by
    rw [connect_unary target found, firstFloat_of_reads reads named float]
    rfl
  unfold add
  rw [connected]
  cases made : make input with
  | error cause => rfl
  | ok node => exact insert_ok.mpr ⟨(made_of_connect (connected.trans made)).reads, rfl, rfl⟩

end Model

namespace Rebuilding

open Model

variable {target : Model} {operation : Operation} {make : InputPort → Except Error Node}

theorem chain_cons (target : Model) (operation : Operation) (rest : List Operation)
    (source : Port) :
    chain target (operation :: rest) source =
      target.add operation [source] >>= fun next =>
        chain next.1 rest { node := next.2, output := 0 } :=
  rfl

/-- The first operation of a chain is added, and the next one reads from it. -/
theorem chain_next (input : InputPort) {node : Node} (rest : List Operation)
    (found : operation.unary? = some make) (reads : target.Reads input)
    (named : input.name = "input") (float : input.dtype.isFloat = true)
    (made : make input = .ok node) :
    chain target (operation :: rest) input.source =
      chain { nodes := target.nodes ++ [node] } rest { node := target.size, output := 0 } := by
  rw [chain_cons, add_unary found reads named float, made]
  rfl

theorem chain_refused (input : InputPort) {cause : Error} (rest : List Operation)
    (found : operation.unary? = some make) (reads : target.Reads input)
    (named : input.name = "input") (float : input.dtype.isFloat = true)
    (refused : make input = .error cause) :
    chain target (operation :: rest) input.source = .error cause := by
  rw [chain_cons, add_unary found reads named float, refused]
  rfl

/-- A chain is grown node by node. -/
theorem chain_reachable {operations : List Operation} {source port : Port} {next : Model}
    (reachable : target.Reachable) (done : chain target operations source = .ok (next, port)) :
    next.Reachable := by
  induction operations generalizing target source with
  | nil =>
      cases done
      exact reachable
  | cons operation rest ih =>
      rw [chain_cons] at done
      obtain ⟨⟨middle, id⟩, added, done⟩ := bind_eq_ok.mp done
      exact ih (reachable.add added) done

end Rebuilding

/-! ### Expansions -/

theorem channelwise_ok {operation : Operation} {values : List Float} {input : InputPort}
    (sized : values.length = input.channels) (finite : AllFinite values) :
    channelwise operation values input = .ok (Node.alike operation input) := by
  unfold channelwise
  rw [checkParameters_iff.mpr ⟨sized, finite⟩]
  rfl

theorem channelwise_refused {operation : Operation} {values : List Float} {input : InputPort}
    (sized : values.length = input.channels) (infinite : ¬ AllFinite values) :
    channelwise operation values input =
      .error (.invalidArgument (operation.kind.name ++ " contains non-finite values")) := by
  unfold channelwise
  rw [checkParameters_refused sized infinite]
  rfl

theorem dense_ok {parameters : DenseWeights} {input : InputPort} {node : Node} :
    dense parameters input = .ok node ↔
      (parameters.weights.length = parameters.units * input.size ∧ AllFinite parameters.weights) ∧
        (parameters.bias.length = parameters.units ∧ AllFinite parameters.bias) ∧
          node = Node.stateless (.denseLayer parameters) [input]
            (outputOf input.dtype [parameters.units]) := by
  rw [← @checkParameters_iff "weights", ← @checkParameters_iff "bias"]
  constructor
  · intro done
    obtain ⟨_, weights, done⟩ := bind_eq_ok.mp done
    obtain ⟨_, bias, done⟩ := bind_eq_ok.mp done
    cases done
    exact ⟨weights, bias, rfl⟩
  · rintro ⟨weights, bias, rfl⟩
    exact bind_eq_ok.mpr ⟨(), weights, bind_eq_ok.mpr ⟨(), bias, rfl⟩⟩

theorem normalizing_ok {statistics : Normalization} {input : InputPort} {node : Node}
    (done : normalizing statistics input = .ok node) :
    statistics.mean.length = input.channels ∧ statistics.variance.length = input.channels ∧
      node = Node.alike (.batchNormalization statistics) input := by
  obtain ⟨_, mean, done⟩ := bind_eq_ok.mp done
  obtain ⟨_, variance, done⟩ := bind_eq_ok.mp done
  dsimp only at done
  split at done
  · cases done
  · cases done
    exact ⟨(checkParameters_iff.mp mean).1, (checkParameters_iff.mp variance).1, rfl⟩

theorem Normalization.length_scale (statistics : Normalization) :
    statistics.scale.length = statistics.variance.length := by
  simp [scale]

theorem Normalization.length_shift (statistics : Normalization) :
    statistics.shift.length = min statistics.mean.length statistics.variance.length := by
  simp [shift, length_scale]

/-- The numbers that a pass computes for the nodes in the place of the operation are finite. -/
def Operation.Refinable : Operation → Prop
  | batchNormalization statistics => AllFinite statistics.scale ∧ AllFinite statistics.shift
  | _ => True

theorem Operation.Refinable.finite {operation : Operation} {statistics : Normalization}
    (refinable : operation.Refinable) (same : operation = .batchNormalization statistics) :
    AllFinite statistics.scale ∧ AllFinite statistics.shift := by
  subst same
  exact refinable

/-- The only complaints of a pass. -/
def Refusal (cause : Error) : Prop :=
  cause = .invalidArgument "scaling contains non-finite values" ∨
    cause = .invalidArgument "bias contains non-finite values"

namespace Rebuilding

open Model

/-- The three nodes in the place of a dense layer. -/
def denseChain (parameters : DenseWeights) (input : InputPort) (place : Nat) : List Node :=
  [Node.stateless (.fullyConnected parameters.units parameters.weights) [input]
      (outputOf input.dtype [parameters.units]),
    Node.alike (.bias parameters.bias) (chained input.dtype [parameters.units] place),
    Node.alike (.activation parameters.function)
      (chained input.dtype [parameters.units] (place + 1))]

/-- The two nodes in the place of a batch normalization. -/
def normalizationChain (statistics : Normalization) (input : InputPort) (place : Nat) :
    List Node :=
  [Node.alike (.scaling statistics.scale) input,
    Node.alike (.bias statistics.shift) (chained input.dtype input.sizes place)]

variable {target : Model} {input : InputPort}

theorem chain_dense {parameters : DenseWeights} {node : Node}
    (done : dense parameters input = .ok node) (reads : target.Reads input)
    (named : input.name = "input") (float : input.dtype.isFloat = true) :
    chain target [.fullyConnected parameters.units parameters.weights, .bias parameters.bias,
        .activation parameters.function] input.source =
      .ok ({ nodes := target.nodes ++ denseChain parameters input target.size },
        { node := target.size + 2, output := 0 }) := by
  obtain ⟨weights, ⟨sized, finite⟩, -⟩ := dense_ok.mp done
  have product : multiplying parameters.units parameters.weights input =
      .ok (Node.stateless (.fullyConnected parameters.units parameters.weights) [input]
        (outputOf input.dtype [parameters.units])) := by
    unfold multiplying
    rw [checkParameters_iff.mpr weights]
    rfl
  have sum : channelwise (.bias parameters.bias) parameters.bias
      (chained input.dtype [parameters.units] target.size) = .ok (Node.alike _ _) :=
    channelwise_ok sized finite
  have there : Model.size { nodes := target.nodes ++ [Node.stateless
      (.fullyConnected parameters.units parameters.weights) [input]
      (outputOf input.dtype [parameters.units])] } = target.size + 1 := List.length_append
  have reads' := reads_chained (target.nodes ++ [Node.stateless
      (.fullyConnected parameters.units parameters.weights) [input]
      (outputOf input.dtype [parameters.units])]) 0
    (rfl : [Node.alike (.bias parameters.bias)
      (chained input.dtype [parameters.units] target.size)][0]? = some _) rfl
  rw [List.length_append] at reads'
  rw [chain_next input _ rfl reads named float product]
  refine (chain_next (chained input.dtype [parameters.units] target.size) _ rfl
    (reads_chained target.nodes 0 rfl rfl) rfl float sum).trans ?_
  rw [there]
  refine (chain_next (chained input.dtype [parameters.units] (target.size + 1)) []
    (rfl : (Operation.activation parameters.function).unary? = some _) reads' rfl float rfl).trans ?_
  simp [chain, denseChain, size]

theorem chain_normalization {statistics : Normalization} {node : Node}
    (done : normalizing statistics input = .ok node) (reads : target.Reads input)
    (named : input.name = "input") (float : input.dtype.isFloat = true)
    (finite : AllFinite statistics.scale ∧ AllFinite statistics.shift) :
    chain target [.scaling statistics.scale, .bias statistics.shift] input.source =
      .ok ({ nodes := target.nodes ++ normalizationChain statistics input target.size },
        { node := target.size + 1, output := 0 }) := by
  obtain ⟨mean, variance, -⟩ := normalizing_ok done
  have scaled : channelwise (.scaling statistics.scale) statistics.scale input =
      .ok (Node.alike _ _) :=
    channelwise_ok (statistics.length_scale.trans variance) finite.1
  have shifted : channelwise (.bias statistics.shift) statistics.shift
      (chained input.dtype input.sizes target.size) = .ok (Node.alike _ _) :=
    channelwise_ok (by rw [statistics.length_shift, mean, variance, min_self]; rfl) finite.2
  rw [chain_next input _ rfl reads named float scaled]
  refine (chain_next (chained input.dtype input.sizes target.size) _ rfl
    (reads_chained target.nodes 0 rfl rfl) rfl float shifted).trans ?_
  simp [chain, normalizationChain, size]

theorem chain_normalization_refused {statistics : Normalization} {node : Node}
    (done : normalizing statistics input = .ok node) (reads : target.Reads input)
    (named : input.name = "input") (float : input.dtype.isFloat = true)
    (infinite : ¬ (AllFinite statistics.scale ∧ AllFinite statistics.shift)) :
    ∃ cause, chain target [.scaling statistics.scale, .bias statistics.shift] input.source =
      .error cause ∧ Refusal cause := by
  obtain ⟨mean, variance, -⟩ := normalizing_ok done
  have sized := statistics.length_scale.trans variance
  by_cases finite : AllFinite statistics.scale
  · have scaled : channelwise (.scaling statistics.scale) statistics.scale input =
        .ok (Node.alike _ _) := channelwise_ok sized finite
    have shifted : channelwise (.bias statistics.shift) statistics.shift
        (chained input.dtype input.sizes target.size) = .error _ :=
      channelwise_refused (by rw [statistics.length_shift, mean, variance, min_self]; rfl)
        fun other => infinite ⟨finite, other⟩
    refine ⟨_, ?_, .inr rfl⟩
    rw [chain_next input _ rfl reads named float scaled]
    exact chain_refused (chained input.dtype input.sizes target.size) _ rfl
      (reads_chained target.nodes 0 rfl rfl) rfl float shifted
  · exact ⟨_, chain_refused input _ rfl reads named float (channelwise_refused sized finite), .inl rfl⟩

end Rebuilding
end TensorGraph

/-
One pass over a model.

A pass keeps an invariant: the model that it builds can be grown node by node,
and every output port that it has passed has a counterpart there of the same
type and shape.  So a node never reads from a port without a counterpart, and
the pass stops only at a batch normalization whose scale or shift is not finite.
-/

import TensorGraph.Proofs.Graph.Ports
import TensorGraph.Proofs.Graph.Rebuilding

namespace TensorGraph

/-! ### Counterparts -/

theorem lookup_graph {α β : Type} [DecidableEq α] (keys : List α) (image : α → β) (key : α) :
    (keys.map fun key => (key, image key)).lookup key =
      if key ∈ keys then some (image key) else none := by
  induction keys with
  | nil => rfl
  | cons head rest ih =>
      rw [List.map_cons, List.lookup_cons]
      by_cases same : key = head
      · simp [same]
      · rw [beq_false_of_ne same, ih]
        simp [same]

namespace Rebuilding

open Model

/-- The counterparts of the outputs of a node that was copied to another place. -/
def copied (id place : NodeId) (node : Node) : PortMap :=
  ((portsOf id node).map fun entry => (entry.1, { entry.1 with node := place })).reverse

theorem lookup_copied (id place : NodeId) (node : Node) (port : Port) :
    (copied id place node).lookup port =
      if port.node = id ∧ port.output < node.outputs.length then
        some { port with node := place }
      else
        none := by
  have same : copied id place node =
      ((portsOf id node).map Prod.fst).reverse.map fun port =>
        (port, { port with node := place }) := by
    rw [copied, ← List.map_reverse, ← List.map_reverse, List.map_map]
    rfl
  rw [same, lookup_graph]
  simp only [List.mem_reverse, mem_portsOf]

theorem follow_ok {ports : PortMap} {port port' : Port} :
    ports.follow port = .ok port' ↔ ports.lookup port = some port' := by
  unfold PortMap.follow
  cases ports.lookup port with
  | none => simp
  | some found => simp

/-- An input that reads from the counterpart of what another one reads. -/
structure Moved (ports : PortMap) (input input' : InputPort) : Prop where
  source : ports.lookup input.source = some input'.source
  alike : input.Alike input'

/-- A copy of a node reads from the counterparts of its ports. -/
theorem copy_eq {state : Rebuilding} {id : NodeId} {node : Node} {inputs : List InputPort}
    (moved : List.Forall₂ (Moved state.ports) node.inputs inputs)
    (reads : ∀ input ∈ inputs, state.target.Reads input) :
    state.copy id node = .ok
      { target := { nodes := state.target.nodes ++ [{ node with inputs := inputs }] }
        ports := copied id state.target.size node ++ state.ports } := by
  have reconnected : node.reconnect state.ports.follow = .ok { node with inputs := inputs } := by
    refine bind_eq_ok.mpr ⟨inputs, mapM_forall₂.mpr (moved.imp fun input input' moved => ?_), rfl⟩
    refine bind_eq_ok.mpr ⟨input'.source, follow_ok.mpr moved.source, ?_⟩
    obtain ⟨name, source, dtype, sizes⟩ := input'
    obtain ⟨rfl, rfl, rfl⟩ := moved.alike
    rfl
  have inserted : state.target.insert { node with inputs := inputs } =
      .ok ({ nodes := state.target.nodes ++ [{ node with inputs := inputs }] },
        state.target.size) := insert_ok.mpr ⟨reads, rfl, rfl⟩
  exact bind_eq_ok.mpr ⟨_, reconnected, bind_eq_ok.mpr ⟨_, inserted, rfl⟩⟩

/-! ### The invariant -/

/-- A port of another model has the type and the shape of a port of the model. -/
def Counterpart (model target : Model) (port port' : Port) : Prop :=
  ∃ output output', model.outputPort port = .ok output ∧ target.outputPort port' = .ok output' ∧
    output'.dtype = output.dtype ∧ output'.sizes = output.sizes

theorem Counterpart.append {model : Model} {nodes : List Node} {port port' : Port}
    (counterpart : Counterpart model { nodes := nodes } port port') (more : List Node) :
    Counterpart model { nodes := nodes ++ more } port port' := by
  obtain ⟨output, output', known, found, same⟩ := counterpart
  exact ⟨output, output', known, outputPort_append more found, same⟩

/-- What was rebuilt carries the nodes of the model before position `id`. -/
structure Carries (model : Model) (id : NodeId) (state : Rebuilding) : Prop where
  reachable : state.target.Reachable
  total : ∀ port output, port.node < id → model.outputPort port = .ok output →
    ∃ port', state.ports.lookup port = some port'
  sound : ∀ port port', state.ports.lookup port = some port' →
    port.node < id ∧ Counterpart model state.target port port'

variable {model : Model} {id : NodeId} {state : Rebuilding} {node : Node}

theorem Carries.start (model : Model) : Carries model 0 start :=
  { reachable := .empty
    total := fun _ _ below _ => (Nat.not_lt_zero _ below).elim
    sound := fun _ _ found => by cases found }

/-- Whatever the model reads before position `id` can be read from the counterpart. -/
theorem Carries.moved (carries : Carries model id state) {input : InputPort}
    (reads : (model.before id).Reads input) :
    ∃ input', Moved state.ports input input' ∧ state.target.Reads input' := by
  obtain ⟨output, found, same⟩ := inputFrom_ok.mp reads
  obtain ⟨earlier, known⟩ := outputPort_before.mp found
  obtain ⟨port', counterpart⟩ := carries.total _ _ earlier known
  obtain ⟨-, output', output'', known', found', typed, sized⟩ := carries.sound _ _ counterpart
  obtain rfl : output' = output := Except.ok.inj (known'.symm.trans known)
  refine ⟨{ input with source := port' }, ⟨counterpart, rfl, rfl, rfl⟩,
    inputFrom_ok.mpr ⟨output'', found', ?_⟩⟩
  rw [same, typed, sized]

theorem Carries.movedAll (carries : Carries model id state) {inputs : List InputPort}
    (reads : ∀ input ∈ inputs, (model.before id).Reads input) :
    ∃ inputs', List.Forall₂ (Moved state.ports) inputs inputs' ∧
      ∀ input' ∈ inputs', state.target.Reads input' := by
  induction inputs with
  | nil => exact ⟨[], .nil, by simp⟩
  | cons input rest ih =>
      obtain ⟨inputs', others, reads'⟩ := ih fun other member =>
        reads other (List.mem_cons_of_mem _ member)
      obtain ⟨input', moved, read⟩ := carries.moved (reads input List.mem_cons_self)
      refine ⟨input' :: inputs', .cons moved others, ?_⟩
      simpa using ⟨read, reads'⟩

/-- The next node is carried by some nodes that are put behind the others. -/
theorem Carries.extend (carries : Carries model id state) (found : model.nodes[id]? = some node)
    {more : List Node} (mapped : PortMap)
    (reachable : Reachable { nodes := state.target.nodes ++ more })
    (total : ∀ number < node.outputs.length, ∃ port',
      mapped.lookup { node := id, output := number } = some port')
    (sound : ∀ port port', mapped.lookup port = some port' → port.node = id ∧
      Counterpart model { nodes := state.target.nodes ++ more } port port') :
    Carries model (id + 1)
      { target := { nodes := state.target.nodes ++ more }
        ports := mapped ++ state.ports } := by
  refine ⟨reachable, ?_, ?_⟩
  · rintro ⟨place, number⟩ output below known
    rw [List.lookup_append]
    rcases Nat.lt_succ_iff_lt_or_eq.mp below with earlier | rfl
    · obtain ⟨port', here⟩ := carries.total _ _ earlier known
      cases mapped.lookup { node := place, output := number } with
      | some port' => exact ⟨port', rfl⟩
      | none => exact ⟨port', here⟩
    · obtain ⟨node', here, output'⟩ := outputPort_ok.mp known
      obtain rfl : node = node' := Option.some.inj (found.symm.trans here)
      obtain ⟨port', here⟩ := total number (List.getElem?_eq_some_iff.mp output').1
      exact ⟨port', by rw [here]; rfl⟩
  · intro port port' here
    rw [List.lookup_append] at here
    cases first : mapped.lookup port with
    | some found =>
        rw [first] at here
        cases here
        obtain ⟨rfl, counterpart⟩ := sound _ _ first
        exact ⟨Nat.lt_succ_self _, counterpart⟩
    | none =>
        rw [first] at here
        obtain ⟨earlier, counterpart⟩ := carries.sound _ _ here
        exact ⟨Nat.lt_succ_of_lt earlier, counterpart.append more⟩

/-! ### Steps -/

/-- A copy carries a node. -/
theorem Carries.copy (carries : Carries model id state) (connected : model.Connected)
    (found : model.nodes[id]? = some node) :
    ∃ inputs, List.Forall₂ (Moved state.ports) node.inputs inputs ∧
      state.copy id node = .ok
        { target := { nodes := state.target.nodes ++ [{ node with inputs := inputs }] }
          ports := copied id state.target.size node ++ state.ports } ∧
      Carries model (id + 1)
        { target := { nodes := state.target.nodes ++ [{ node with inputs := inputs }] }
          ports := copied id state.target.size node ++ state.ports } := by
  obtain ⟨memory, made, shapes⟩ := connected id node found
  obtain ⟨inputs, moved, reads⟩ := carries.movedAll (made_of_connect made).reads
  refine ⟨inputs, moved, copy_eq moved reads, carries.extend found _ ?_ ?_ ?_⟩
  · have like : Node.Like { node with state := memory } { node with inputs := inputs } :=
      ⟨rfl, moved.imp fun _ _ moved => moved.alike, rfl, shapes⟩
    have inserted : state.target.insert { node with inputs := inputs } =
        .ok ({ nodes := state.target.nodes ++ [{ node with inputs := inputs }] },
          state.target.size) := insert_ok.mpr ⟨reads, rfl, rfl⟩
    exact .insert carries.reachable made like inserted
  · intro number below
    exact ⟨_, (lookup_copied _ _ _ _).trans (if_pos ⟨rfl, below⟩)⟩
  · intro port port' here
    rw [lookup_copied] at here
    split at here
    · rename_i mine
      cases here
      have output : node.outputs[port.output]? = some node.outputs[port.output] :=
        List.getElem?_eq_getElem mine.2
      refine ⟨mine.1, node.outputs[port.output], node.outputs[port.output],
        outputPort_ok.mpr ⟨node, mine.1 ▸ found, output⟩, ?_, rfl, rfl⟩
      exact @outputPort_behind _ state.target.nodes _ 0 _ _ rfl output
    · cases here

/-- The only output of a node is carried by the only output of the last node of a chain. -/
theorem Carries.expanded (carries : Carries model id state) (found : model.nodes[id]? = some node)
    {output : OutputPort} (single : node.outputs = [output]) {more : List Node} {last : Node}
    {place : Nat} (reachable : Reachable { nodes := state.target.nodes ++ more })
    (here : more[place]? = some last) (carried : last.outputs = [output]) :
    Carries model (id + 1)
      { target := { nodes := state.target.nodes ++ more }
        ports := ({ node := id, output := 0 }, { node := state.target.size + place, output := 0 })
          :: state.ports } := by
  refine carries.extend found [_] reachable ?_ ?_
  · intro number below
    obtain rfl : number = 0 := by
      rw [single, List.length_singleton] at below
      omega
    exact ⟨{ node := state.target.size + place, output := 0 }, by simp⟩
  · intro port port' mapped
    rw [List.lookup_cons] at mapped
    split at mapped
    · rename_i same
      obtain rfl := eq_of_beq same
      cases mapped
      have output' : node.outputs[0]? = some output := by rw [single]; rfl
      have carried' : last.outputs[0]? = some output := by rw [carried]; rfl
      exact ⟨rfl, output, output, outputPort_ok.mpr ⟨node, found, output'⟩,
        outputPort_behind here carried', rfl, rfl⟩
    · cases mapped

/-- What a pass makes of the nodes from position `id` on: behind `place` nodes, with these
counterparts so far, it adds some nodes and ends with these counterparts. -/
inductive Rebuilds : NodeId → List Node → Nat → PortMap → List Node → PortMap → Prop where
  | done {id : NodeId} {place : Nat} {ports : PortMap} : Rebuilds id [] place ports [] ports
  | copied {id : NodeId} {node : Node} {rest added : List Node} {place : Nat}
      {ports last : PortMap} {inputs : List InputPort}
      (plain : node.operation.expansion? = none)
      (moved : List.Forall₂ (Moved ports) node.inputs inputs)
      (others : Rebuilds (id + 1) rest (place + 1) (copied id place node ++ ports) added last) :
      Rebuilds id (node :: rest) place ports ({ node with inputs := inputs } :: added) last
  | dense {id : NodeId} {node : Node} {rest added : List Node} {place : Nat}
      {ports last : PortMap} {parameters : DenseWeights} {input input' : InputPort}
      (made : TensorGraph.dense parameters input = .ok node) (float : input.dtype.isFloat = true)
      (moved : Moved ports input input')
      (others : Rebuilds (id + 1) rest (place + 3)
        (({ node := id, output := 0 }, { node := place + 2, output := 0 }) :: ports) added last) :
      Rebuilds id (node :: rest) place ports (denseChain parameters input' place ++ added) last
  | normalization {id : NodeId} {node : Node} {rest added : List Node} {place : Nat}
      {ports last : PortMap} {statistics : Normalization} {input input' : InputPort}
      (made : normalizing statistics input = .ok node) (moved : Moved ports input input')
      (others : Rebuilds (id + 1) rest (place + 2)
        (({ node := id, output := 0 }, { node := place + 1, output := 0 }) :: ports) added last) :
      Rebuilds id (node :: rest) place ports
        (normalizationChain statistics input' place ++ added) last

theorem denseChain_plain {parameters : DenseWeights} {input : InputPort} {place : Nat} :
    ∀ node ∈ denseChain parameters input place, node.operation.expansion? = none := by
  simp [denseChain, Node.stateless, Node.alike, Operation.expansion?]

theorem normalizationChain_plain {statistics : Normalization} {input : InputPort} {place : Nat} :
    ∀ node ∈ normalizationChain statistics input place, node.operation.expansion? = none := by
  simp [normalizationChain, Node.stateless, Node.alike, Operation.expansion?]

/-- Nothing that a pass adds can be expanded again. -/
theorem Rebuilds.plain {rest added : List Node} {place : Nat} {ports last : PortMap}
    (rebuilds : Rebuilds id rest place ports added last) :
    ∀ node ∈ added, node.operation.expansion? = none := by
  induction rebuilds with
  | done => simp
  | copied plain _ _ ih => simpa using ⟨plain, ih⟩
  | dense _ _ _ _ ih =>
      intro node member
      rcases List.mem_append.mp member with member | member
      · exact denseChain_plain node member
      · exact ih node member
  | normalization _ _ _ ih =>
      intro node member
      rcases List.mem_append.mp member with member | member
      · exact normalizationChain_plain node member
      · exact ih node member

/-! ### The pass -/

theorem refineNodes_copy (rest : List (Node × NodeId)) (state : Rebuilding) (id : NodeId)
    (plain : node.operation.expansion? = none) :
    refineNodes ((node, id) :: rest) state = state.copy id node >>= refineNodes rest := by
  rw [refineNodes, plain]

theorem refineNodes_expand (rest : List (Node × NodeId)) (state : Rebuilding) (id : NodeId)
    {operations : List Operation} (expandable : node.operation.expansion? = some operations) :
    refineNodes ((node, id) :: rest) state =
      state.expand id node operations >>= refineNodes rest := by
  rw [refineNodes, expandable]

theorem expand_eq (state : Rebuilding) (id : NodeId) {input : InputPort} {more : List InputPort}
    (inputs : node.inputs = input :: more) (operations : List Operation) :
    state.expand id node operations =
      state.ports.follow input.source >>= fun source =>
        chain state.target operations source >>= fun next => .ok
          { target := next.1
            ports := ({ node := id, output := 0 }, next.2) :: state.ports } := by
  unfold expand
  rw [inputs]
  rfl

/-- A chain that could be added takes the place of a node. -/
theorem expand_ok {input input' : InputPort} {operations : List Operation} {next : Model}
    {port : Port} (inputs : node.inputs = [input]) (moved : Moved state.ports input input')
    (done : chain state.target operations input'.source = .ok (next, port)) :
    state.expand id node operations = .ok
      { target := next
        ports := ({ node := id, output := 0 }, port) :: state.ports } := by
  rw [expand_eq state id inputs, follow_ok.mpr moved.source]
  change chain state.target operations input'.source >>= _ = _
  rw [done]
  rfl

theorem expand_refused {input input' : InputPort} {operations : List Operation} {cause : Error}
    (inputs : node.inputs = [input]) (moved : Moved state.ports input input')
    (refused : chain state.target operations input'.source = .error cause) :
    state.expand id node operations = .error cause := by
  rw [expand_eq state id inputs, follow_ok.mpr moved.source]
  change chain state.target operations input'.source >>= _ = _
  rw [refused]
  rfl

/-- What an operation makes of an input does not depend on where the input reads from. -/
theorem unary_moved {operation : Operation} {make : InputPort → Except Error Node}
    (unary : operation.unary? = some make) {input input' : InputPort} {node : Node}
    (made : make input = .ok node) (alike : input.Alike input') :
    ∃ node', make input' = .ok node' := by
  have here := Operation.unary_local unary input
  rw [made, ← alike.dtype, ← alike.sizes] at here
  refine ⟨Node.stateless operation [input'] (node.outputs.headD (outputOf .bool [])), ?_⟩
  rw [Operation.unary_local unary input']
  cases output : outputOfMade make input'.dtype input'.sizes with
  | error cause =>
      rw [output] at here
      cases here
  | ok output' =>
      rw [output] at here
      cases here
      rfl

/-- A chain of three nodes carries a dense layer. -/
theorem Carries.dense (carries : Carries model id state) (connected : model.Connected)
    (found : model.nodes[id]? = some node) {parameters : DenseWeights}
    (operation : node.operation = .denseLayer parameters) :
    ∃ input input', TensorGraph.dense parameters input = .ok node ∧ input.dtype.isFloat = true ∧
      Moved state.ports input input' ∧
      state.expand id node [.fullyConnected parameters.units parameters.weights,
          .bias parameters.bias, .activation parameters.function] = .ok
        { target := { nodes := state.target.nodes ++
            denseChain parameters input' state.target.size }
          ports := ({ node := id, output := 0 }, { node := state.target.size + 2, output := 0 })
            :: state.ports } ∧
      Carries model (id + 1)
        { target := { nodes := state.target.nodes ++
            denseChain parameters input' state.target.size }
          ports := ({ node := id, output := 0 }, { node := state.target.size + 2, output := 0 })
            :: state.ports } := by
  obtain ⟨input, inputs, made, reads, named, float⟩ :=
    connected.unary found (operation ▸ rfl : node.operation.unary? = some (TensorGraph.dense parameters))
  obtain ⟨input', moved, reads'⟩ := carries.moved reads
  obtain ⟨node', made'⟩ := unary_moved
    (rfl : (Operation.denseLayer parameters).unary? = some (TensorGraph.dense parameters)) made
    moved.alike
  have done := chain_dense made' reads' (moved.alike.name.trans named) (moved.alike.dtype ▸ float)
  obtain ⟨-, -, rfl⟩ := dense_ok.mp made
  refine ⟨input, input', made, float, moved, expand_ok inputs moved done, ?_⟩
  refine carries.expanded found rfl (chain_reachable carries.reachable done)
    (rfl : (denseChain parameters input' state.target.size)[2]? = some _) ?_
  rw [← moved.alike.dtype]
  rfl

/-- A chain of two nodes carries a batch normalization, unless its scale or its shift is
not finite. -/
theorem Carries.normalization (carries : Carries model id state) (connected : model.Connected)
    (found : model.nodes[id]? = some node) {statistics : Normalization}
    (operation : node.operation = .batchNormalization statistics)
    (finite : AllFinite statistics.scale ∧ AllFinite statistics.shift) :
    ∃ input input', normalizing statistics input = .ok node ∧ Moved state.ports input input' ∧
      state.expand id node [.scaling statistics.scale, .bias statistics.shift] = .ok
        { target := { nodes := state.target.nodes ++
            normalizationChain statistics input' state.target.size }
          ports := ({ node := id, output := 0 }, { node := state.target.size + 1, output := 0 })
            :: state.ports } ∧
      Carries model (id + 1)
        { target := { nodes := state.target.nodes ++
            normalizationChain statistics input' state.target.size }
          ports := ({ node := id, output := 0 }, { node := state.target.size + 1, output := 0 })
            :: state.ports } := by
  obtain ⟨input, inputs, made, reads, named, float⟩ :=
    connected.unary found (operation ▸ rfl : node.operation.unary? = some (normalizing statistics))
  obtain ⟨input', moved, reads'⟩ := carries.moved reads
  obtain ⟨node', made'⟩ := unary_moved
    (rfl : (Operation.batchNormalization statistics).unary? = some (normalizing statistics)) made
    moved.alike
  have done := chain_normalization made' reads' (moved.alike.name.trans named)
    (moved.alike.dtype ▸ float) finite
  obtain ⟨-, -, rfl⟩ := normalizing_ok made
  refine ⟨input, input', made, moved, expand_ok inputs moved done, ?_⟩
  refine carries.expanded found rfl (chain_reachable carries.reachable done)
    (rfl : (normalizationChain statistics input' state.target.size)[1]? = some _) ?_
  rw [← moved.alike.dtype, ← moved.alike.sizes]
  rfl

/-- Such a batch normalization stops the pass. -/
theorem Carries.normalization_refused (carries : Carries model id state)
    (connected : model.Connected) (found : model.nodes[id]? = some node)
    {statistics : Normalization} (operation : node.operation = .batchNormalization statistics)
    (infinite : ¬ (AllFinite statistics.scale ∧ AllFinite statistics.shift)) :
    ∃ cause, state.expand id node [.scaling statistics.scale, .bias statistics.shift] =
      .error cause ∧ Refusal cause := by
  obtain ⟨input, inputs, made, reads, named, float⟩ :=
    connected.unary found (operation ▸ rfl : node.operation.unary? = some (normalizing statistics))
  obtain ⟨input', moved, reads'⟩ := carries.moved reads
  obtain ⟨node', made'⟩ := unary_moved
    (rfl : (Operation.batchNormalization statistics).unary? = some (normalizing statistics)) made
    moved.alike
  obtain ⟨cause, refused, refusal⟩ := chain_normalization_refused made' reads'
    (moved.alike.name.trans named) (moved.alike.dtype ▸ float) infinite
  exact ⟨cause, expand_refused inputs moved refused, refusal⟩

theorem expansion?_dense {operation : Operation} {operations : List Operation}
    (expandable : operation.expansion? = some operations) :
    (∃ parameters, operation = .denseLayer parameters ∧ operations =
      [.fullyConnected parameters.units parameters.weights, .bias parameters.bias,
        .activation parameters.function]) ∨
    ∃ statistics, operation = .batchNormalization statistics ∧
      operations = [.scaling statistics.scale, .bias statistics.shift] := by
  cases operation with
  | denseLayer parameters => exact .inl ⟨parameters, rfl, (Option.some.inj expandable).symm⟩
  | batchNormalization statistics => exact .inr ⟨statistics, rfl, (Option.some.inj expandable).symm⟩
  | _ => cases expandable

theorem drop_succ {nodes rest : List Node} (left : nodes.drop id = node :: rest) :
    nodes[id]? = some node ∧ nodes.drop (id + 1) = rest := by
  refine ⟨?_, ?_⟩
  · rw [← List.head?_drop, left, List.head?_cons]
  · rw [← List.drop_drop, left]
    rfl

/-- A pass over refinable nodes ends, and the model that it built carries all of them. -/
theorem refineNodes_ok (connected : model.Connected) {rest : List Node}
    (carries : Carries model id state) (left : model.nodes.drop id = rest)
    (within : id ≤ model.size) (refinable : ∀ node ∈ rest, node.operation.Refinable) :
    ∃ added last, refineNodes (rest.zipIdx id) state = .ok
        { target := { nodes := state.target.nodes ++ added }, ports := last } ∧
      Rebuilds id rest state.target.size state.ports added last ∧
      Carries model model.size
        { target := { nodes := state.target.nodes ++ added }, ports := last } := by
  induction rest generalizing id state with
  | nil =>
      have whole : id = model.size := le_antisymm within (List.drop_eq_nil_iff.mp left)
      refine ⟨[], state.ports, ?_, .done, ?_⟩
      · simp [refineNodes]
      · simpa [whole] using carries
  | cons node rest ih =>
      obtain ⟨found, left'⟩ := drop_succ left
      have within' : id + 1 ≤ model.size := (List.getElem?_eq_some_iff.mp found).1
      have others : ∀ node ∈ rest, node.operation.Refinable := fun other member =>
        refinable other (List.mem_cons_of_mem _ member)
      rw [List.zipIdx_cons]
      cases expansion : node.operation.expansion? with
      | none =>
          obtain ⟨inputs, moved, copied, carries'⟩ := carries.copy connected found
          obtain ⟨added, last, done, rebuilds, all⟩ := ih carries' left' within' others
          simp only [List.append_assoc, List.singleton_append] at done all
          refine ⟨_, last, ?_, .copied expansion moved ?_, all⟩
          · rw [refineNodes_copy _ _ _ expansion, copied]
            exact done
          · simpa [size] using rebuilds
      | some operations =>
          rw [refineNodes_expand _ _ _ expansion]
          rcases expansion?_dense expansion with
            ⟨parameters, operation, rfl⟩ | ⟨statistics, operation, rfl⟩
          · obtain ⟨input, input', made, float, moved, expanded, carries'⟩ :=
              carries.dense connected found operation
            obtain ⟨added, last, done, rebuilds, all⟩ := ih carries' left' within' others
            simp only [List.append_assoc] at done all
            refine ⟨_, last, ?_, .dense made float moved ?_, all⟩
            · rw [expanded]
              exact done
            · simpa [size, denseChain] using rebuilds
          · have finite := (refinable node List.mem_cons_self).finite operation
            obtain ⟨input, input', made, moved, expanded, carries'⟩ :=
              carries.normalization connected found operation finite
            obtain ⟨added, last, done, rebuilds, all⟩ := ih carries' left' within' others
            simp only [List.append_assoc] at done all
            refine ⟨_, last, ?_, .normalization made moved ?_, all⟩
            · rw [expanded]
              exact done
            · simpa [size, normalizationChain] using rebuilds

/-- A pass that meets a node that is not refinable stops with a complaint about it. -/
theorem refineNodes_refused (connected : model.Connected) {rest : List Node}
    (carries : Carries model id state) (left : model.nodes.drop id = rest)
    (refused : ¬ ∀ node ∈ rest, node.operation.Refinable) :
    ∃ cause, refineNodes (rest.zipIdx id) state = .error cause ∧ Refusal cause := by
  induction rest generalizing id state with
  | nil => exact (refused (by simp)).elim
  | cons node rest ih =>
      obtain ⟨found, left'⟩ := drop_succ left
      rw [List.zipIdx_cons]
      by_cases here : node.operation.Refinable
      · have others : ¬ ∀ node ∈ rest, node.operation.Refinable := by
          simpa [here] using refused
        cases expansion : node.operation.expansion? with
        | none =>
            obtain ⟨inputs, moved, copied, carries'⟩ := carries.copy connected found
            rw [refineNodes_copy _ _ _ expansion, copied]
            exact ih carries' left' others
        | some operations =>
            rw [refineNodes_expand _ _ _ expansion]
            rcases expansion?_dense expansion with
              ⟨parameters, operation, rfl⟩ | ⟨statistics, operation, rfl⟩
            · obtain ⟨input, input', made, float, moved, expanded, carries'⟩ :=
                carries.dense connected found operation
              rw [expanded]
              exact ih carries' left' others
            · obtain ⟨input, input', made, moved, expanded, carries'⟩ :=
                carries.normalization connected found operation (here.finite operation)
              rw [expanded]
              exact ih carries' left' others
      · obtain ⟨statistics, operation⟩ : ∃ statistics,
            node.operation = .batchNormalization statistics := by
          cases operation : node.operation with
          | batchNormalization statistics => exact ⟨statistics, rfl⟩
          | _ => exact (here (by rw [operation]; trivial)).elim
        have infinite : ¬ (AllFinite statistics.scale ∧ AllFinite statistics.shift) := by
          rw [operation] at here
          exact here
        have expandable : node.operation.expansion? =
            some [.scaling statistics.scale, .bias statistics.shift] := by
          rw [operation]
          rfl
        rw [refineNodes_expand _ _ _ expandable]
        obtain ⟨cause, stopped, refusal⟩ := carries.normalization_refused connected found operation
          infinite
        exact ⟨cause, by rw [stopped]; rfl, refusal⟩

end Rebuilding
end TensorGraph

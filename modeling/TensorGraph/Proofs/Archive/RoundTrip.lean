/-
Archives read back.

A model that was grown node by node is read back from its archive as it was,
whatever its nodes remember: each node is described by its fields, connected to
the ports that its edges name, and given its memory.
-/

import TensorGraph.Archive.Map
import TensorGraph.Proofs.Archive.Fields
import TensorGraph.Proofs.Graph.Calls

namespace TensorGraph

/-! ### Parameters that can be written -/

/-- The parameters that no check of the connection looks at are finite. -/
def Operation.Finite : Operation → Prop
  | activation function => function.Finite
  | batchNormalization statistics => statistics.epsilon.isFinite = true
  | denseLayer parameters => parameters.function.Finite
  | lstm weights => weights.activation.Finite ∧ weights.recurrent.Finite
  | _ => True

theorem checkParameters_ok {what : String} {values : List Float} {expected : Nat}
    (checked : checkParameters what values expected = .ok ()) : AllFinite values :=
  (checkParameters_iff.mp checked).2

theorem Model.written_of_connect {model : Model} {operation : Operation} {sources : List Port}
    {made : Node} (done : model.connect operation sources = .ok made)
    (finite : operation.Finite) : operation.Written := by
  cases operation with
  | bias values =>
      rw [connect_unary model rfl] at done
      obtain ⟨source, -, done⟩ := bind_eq_ok.mp done
      obtain ⟨_, checked, -⟩ := bind_eq_ok.mp done
      exact checkParameters_ok checked
  | scaling values =>
      rw [connect_unary model rfl] at done
      obtain ⟨source, -, done⟩ := bind_eq_ok.mp done
      obtain ⟨_, checked, -⟩ := bind_eq_ok.mp done
      exact checkParameters_ok checked
  | batchNormalization statistics =>
      rw [connect_unary model rfl] at done
      obtain ⟨source, -, done⟩ := bind_eq_ok.mp done
      obtain ⟨_, mean, done⟩ := bind_eq_ok.mp done
      obtain ⟨_, variance, done⟩ := bind_eq_ok.mp done
      exact ⟨checkParameters_ok mean, checkParameters_ok variance, finite⟩
  | fullyConnected units weights =>
      rw [connect_unary model rfl] at done
      obtain ⟨source, -, done⟩ := bind_eq_ok.mp done
      obtain ⟨_, checked, -⟩ := bind_eq_ok.mp done
      exact checkParameters_ok checked
  | convolution parameters =>
      rw [connect_unary model rfl] at done
      obtain ⟨source, -, done⟩ := bind_eq_ok.mp done
      unfold convolving at done
      obtain ⟨planes, -, done⟩ := bind_eq_ok.mp done
      dsimp only at done
      split at done
      · cases done
      split at done
      · cases done
      obtain ⟨_, checked, -⟩ := bind_eq_ok.mp done
      exact checkParameters_ok checked
  | denseLayer parameters =>
      rw [connect_unary model rfl] at done
      obtain ⟨source, -, done⟩ := bind_eq_ok.mp done
      obtain ⟨_, weights, done⟩ := bind_eq_ok.mp done
      obtain ⟨_, bias, done⟩ := bind_eq_ok.mp done
      exact ⟨checkParameters_ok weights, checkParameters_ok bias, finite⟩
  | lstm weights =>
      rw [connect_lstm] at done
      obtain ⟨source, -, done⟩ := bind_eq_ok.mp done
      obtain ⟨_, checked, -⟩ := bind_eq_ok.mp done
      unfold checkLstm at checked
      dsimp only at checked
      split at checked
      · cases checked
      obtain ⟨_, inputWeights, checked⟩ := bind_eq_ok.mp checked
      obtain ⟨_, hiddenWeights, checked⟩ := bind_eq_ok.mp checked
      obtain ⟨_, inputBias, hiddenBias⟩ := bind_eq_ok.mp checked
      exact ⟨checkParameters_ok inputWeights, checkParameters_ok hiddenWeights,
        checkParameters_ok inputBias, checkParameters_ok hiddenBias, finite⟩
  | activation function => exact finite
  | _ => trivial

/-! ### Edges -/

private theorem target_edgeRecords {node : Node} {id : NodeId} {edge : EdgeRecord}
    (member : edge ∈ edgeRecords node id) : edge.target = id := by
  unfold edgeRecords at member
  obtain ⟨entry, -, rfl⟩ := List.mem_map.mp member
  rfl

private theorem target_later {nodes : List Node} {start : Nat} {edge : EdgeRecord}
    (member : edge ∈ (nodes.zipIdx start).flatMap fun entry => edgeRecords entry.1 entry.2) :
    start ≤ edge.target := by
  obtain ⟨entry, entries, edges⟩ := List.mem_flatMap.mp member
  rw [target_edgeRecords edges]
  exact (List.mem_zipIdx entries).1

/-- The edges of one node, among the edges of nodes that stand from `start` on. -/
private theorem filter_edges {nodes : List Node} {position : Nat} {node : Node}
    (start : Nat) (found : nodes[position]? = some node) :
    ((nodes.zipIdx start).flatMap fun entry => edgeRecords entry.1 entry.2).filter
        (fun edge => edge.target == start + position) = edgeRecords node (start + position) := by
  induction nodes generalizing start position with
  | nil => cases found
  | cons first rest ih =>
      rw [List.zipIdx_cons, List.flatMap_cons, List.filter_append]
      cases position with
      | zero =>
          obtain rfl : first = node := by simpa using found
          have others : ((rest.zipIdx (start + 1)).flatMap fun entry =>
              edgeRecords entry.1 entry.2).filter (fun edge => edge.target == start + 0) = [] := by
            refine List.filter_eq_nil_iff.mpr fun edge member => ?_
            have later := target_later member
            simp only [beq_iff_eq]
            omega
          rw [others, List.append_nil]
          refine List.filter_eq_self.mpr fun edge member => ?_
          simpa using target_edgeRecords member
      | succ position =>
          have others : (edgeRecords first start).filter
              (fun edge => edge.target == start + (position + 1)) = [] := by
            refine List.filter_eq_nil_iff.mpr fun edge member => ?_
            rw [target_edgeRecords member]
            simp only [beq_iff_eq]
            omega
          have same : start + (position + 1) = start + 1 + position := by omega
          rw [others, List.nil_append, same]
          exact ih (start + 1) (by simpa using found)

/-- The new names of nodes that keep their names. -/
def Renaming.keep : Nat → Renaming
  | 0 => []
  | id + 1 => (id, id) :: keep id

theorem Renaming.lookup_keep {size id : Nat} (known : id < size) :
    (keep size).lookup id = some id := by
  induction size with
  | zero => omega
  | succ size ih =>
      unfold keep
      rw [List.lookup_cons]
      by_cases last : id = size
      · simp [last]
      · rw [beq_false_of_ne last]
        exact ih (by omega)

private theorem sorted_edgeRecords (node : Node) (id : NodeId) :
    (edgeRecords node id).mergeSort (fun left right => left.input ≤ right.input) =
      edgeRecords node id := by
  apply List.mergeSort_of_pairwise
  unfold edgeRecords
  rw [List.pairwise_map, List.pairwise_iff_getElem]
  intro first second _ _ order
  simp only [List.getElem_zipIdx, decide_eq_true_eq]
  omega

theorem sourcesOf_archive {model : Model} {id : NodeId} {node : Node}
    (found : model.nodes[id]? = some node)
    (earlier : ∀ input ∈ node.inputs, input.source.node < id) :
    sourcesOf model.archive.edges (Renaming.keep id) id =
      .ok (node.inputs.map InputPort.source) := by
  have own : model.archive.edges.filter (fun edge => edge.target == id) = edgeRecords node id := by
    have edges := filter_edges 0 found
    rw [Nat.zero_add] at edges
    exact edges
  unfold sourcesOf
  dsimp only
  rw [own, sorted_edgeRecords]
  have sources : node.inputs.map InputPort.source = (edgeRecords node id).map EdgeRecord.source := by
    unfold edgeRecords
    exact List.ext_getElem (by simp) (by simp)
  rw [sources]
  apply mapM_eq_ok
  intro edge member
  have before : edge.source.node < id := by
    have source := List.mem_map_of_mem (f := EdgeRecord.source) member
    rw [← sources] at source
    obtain ⟨input, member, same⟩ := List.mem_map.mp source
    exact same ▸ earlier input member
  rw [Renaming.lookup_keep before]

/-! ### Nodes -/

private theorem restoreBuffers {state buffers : List Storage}
    (shapes : List.Forall₂ Storage.SameShape state buffers) :
    (state.zip buffers).mapM (fun pair => Node.restoreBuffer pair.1 pair.2) = .ok buffers := by
  induction shapes with
  | nil => rfl
  | @cons kept data _ _ head _ ih =>
      have first : Node.restoreBuffer kept data = .ok data := by
        unfold Node.restoreBuffer
        rw [if_neg (not_not.mpr head.1), if_neg (not_not.mpr head.2)]
      rw [List.zip_cons_cons, List.mapM_cons, first, ih]
      rfl

/-- A node takes over memory of its own types and sizes. -/
theorem restore_shapes {node : Node} {buffers : List Storage} (remembers : node.hasState = true)
    (shapes : List.Forall₂ Storage.SameShape node.state buffers) :
    node.restore buffers = .ok { node with state := buffers } := by
  unfold Node.restore
  simp only [remembers, Bool.not_true, Bool.false_eq_true, if_false, shapes.length_eq, ne_eq,
    not_true_eq_false]
  exact bind_eq_ok.mpr ⟨buffers, restoreBuffers shapes, rfl⟩

theorem restoreNode_last (model : Model) {node restored : Node} {buffers : List Storage}
    (done : node.restore buffers = .ok restored) :
    Model.restoreNode { nodes := model.nodes ++ [node] } model.size buffers =
      .ok { nodes := model.nodes ++ [restored] } := by
  have last : Model.node { nodes := model.nodes ++ [node] } model.size = .ok node := by
    unfold Model.node Model.node? Model.size
    dsimp only
    rw [List.getElem?_concat_length]
  unfold Model.restoreNode
  rw [last]
  refine bind_eq_ok.mpr ⟨node, rfl, bind_eq_ok.mpr ⟨restored, done, ?_⟩⟩
  unfold Model.size
  dsimp only
  rw [List.set_append_right _ _ le_rfl, Nat.sub_self]
  rfl

theorem toStorages (storages : List Storage) :
    (storages.map BufferRecord.ofStorage).mapM BufferRecord.toStorage = .ok storages := by
  rw [List.mapM_map]
  have done := mapM_eq_ok fun storage (_ : storage ∈ storages) =>
    BufferRecord.toStorage_ofStorage storage
  rw [List.map_id'] at done
  exact done

variable {registry : Registry}

theorem readNode_archive {model : Model} (connected : model.Connected)
    (finite : ∀ node ∈ model.nodes, node.operation.Finite)
    (standard : ∀ kind : Kind, registry.get kind.name = .ok kind) {id : NodeId} {node : Node}
    (found : model.nodes[id]? = some node) :
    readNode registry model.archive.edges (model.before id) (Renaming.keep id)
      (nodeRecord node id) = .ok (model.before (id + 1), Renaming.keep (id + 1)) := by
  obtain ⟨fresh, done, shapes⟩ := connected id node found
  have below : id < model.nodes.length := (List.getElem?_eq_some_iff.mp found).1
  have made := Model.made_of_connect done
  have written := Model.written_of_connect done (finite node (List.mem_of_getElem? found))
  have size : (model.before id).size = id := List.length_take_of_le below.le
  have grown : model.before (id + 1) = { nodes := (model.before id).nodes ++ [node] } := by
    unfold Model.before
    rw [List.take_add_one, found]
    rfl
  have sources : sourcesOf model.archive.edges (Renaming.keep id) id =
      .ok (node.inputs.map InputPort.source) := by
    apply sourcesOf_archive found
    intro input member
    exact size ▸ (made.reads input member).earlier
  have taken : (node.inputs.map InputPort.source).length ∈ node.operation.arities := by
    simpa using made.taken
  have described := Kind.describe_fields written taken
  have added : (model.before id).addNamed registry node.kind.name
      (node.operation.fields.withInputs (node.inputs.map InputPort.source)) =
        .ok ({ nodes := (model.before id).nodes ++ [{ node with state := fresh }] }, id) := by
    refine bind_eq_ok.mpr ⟨_, standard node.kind, bind_eq_ok.mpr ⟨_, described, ?_⟩⟩
    refine bind_eq_ok.mpr ⟨_, done, ?_⟩
    exact Model.insert_ok.mpr ⟨made.reads, rfl, size.symm⟩
  unfold readNode nodeRecord
  dsimp only
  rw [sources]
  dsimp only [bind, Except.bind]
  rw [added]
  dsimp only
  rw [List.isEmpty_map]
  by_cases forgets : node.state = []
  · have none : fresh = [] := by
      rw [forgets] at shapes
      cases shapes
      rfl
    have same : { node with state := fresh } = node := by
      rw [none, ← forgets]
    rw [same, grown, forgets]
    rfl
  · have remembers : node.hasState = true := by
      by_contra forgetful
      have none : fresh = [] := made.forgets (Bool.not_eq_true _ ▸ forgetful)
      exact forgets (List.forall₂_nil_left_iff.mp (none ▸ shapes))
    have restored : Node.restore { node with state := fresh } node.state = .ok node :=
      restore_shapes remembers shapes
    have kept := restoreNode_last (model.before id) restored
    rw [size] at kept
    rw [if_neg (by simpa using forgets), toStorages]
    dsimp only
    rw [kept, grown]
    rfl

theorem readNodes_archive {model : Model} (connected : model.Connected)
    (finite : ∀ node ∈ model.nodes, node.operation.Finite)
    (standard : ∀ kind : Kind, registry.get kind.name = .ok kind) {id : NodeId} {rest : List Node}
    (within : id ≤ model.size) (left : model.nodes.drop id = rest) :
    readNodes registry model.archive.edges
      ((rest.zipIdx id).map fun entry => nodeRecord entry.1 entry.2) (model.before id)
      (Renaming.keep id) = .ok (model, Renaming.keep model.size) := by
  induction rest generalizing id with
  | nil =>
      obtain rfl : id = model.size := Nat.le_antisymm within (List.drop_eq_nil_iff.mp left)
      have whole : model.before model.size = model := by
        unfold Model.before Model.size
        rw [List.take_length]
      rw [whole]
      rfl
  | cons node rest ih =>
      have found : model.nodes[id]? = some node := by
        rw [← List.head?_drop, left]
        rfl
      have tail : model.nodes.drop (id + 1) = rest := by
        rw [← List.tail_drop, left]
        rfl
      rw [List.zipIdx_cons, List.map_cons]
      unfold readNodes
      rw [readNode_archive connected finite standard found]
      exact ih (List.getElem?_eq_some_iff.mp found).1 tail

/-! ### Models and maps -/

theorem Registry.get_standard (kind : Kind) : standard.get kind.name = .ok kind := by
  cases kind <;> decide +kernel

theorem Model.ofArchive_archive {model : Model} (connected : model.Connected)
    (finite : ∀ node ∈ model.nodes, node.operation.Finite)
    (standard : ∀ kind : Kind, registry.get kind.name = .ok kind) :
    Model.ofArchive registry model.archive = .ok (model, Renaming.keep model.size) :=
  bind_eq_ok.mpr ⟨(), rfl, readNodes_archive connected finite standard (Nat.zero_le _) rfl⟩

namespace Map

private theorem inputSpec_within {model : Model} {name : String} {id : NodeId} {spec : PortSpec}
    (found : inputSpec model name id = .ok spec) : id < model.size := by
  unfold inputSpec inputNode? at found
  cases known : model.node? id with
  | none =>
      rw [known] at found
      cases found
  | some node => exact (List.getElem?_eq_some_iff.mp known).1

private theorem outputSpec_within {model : Model} {name : String} {port : Port} {spec : PortSpec}
    (found : outputSpec model name port = .ok spec) : port.node < model.size := by
  obtain ⟨output, reads, -⟩ := bind_eq_ok.mp found
  have input : model.inputFrom name port = .ok _ := Model.inputFrom_ok.mpr ⟨output, reads, rfl⟩
  exact (Model.reads_of_inputFrom input).1.earlier

private theorem renamed_keep {size : Nat} {endpoint : NamedPort}
    (known : endpoint.port.node < size) :
    renamed (Renaming.keep size) endpoint = .ok (endpoint.name, endpoint.port) := by
  unfold renamed
  rw [Renaming.lookup_keep known]

/-- A map is read back from its archive as it was, whatever its nodes remember. -/
theorem ofArchive_archive {map : Map} (named : Named map.model map.inputs map.outputs)
    (connected : map.model.Connected) (finite : ∀ node ∈ map.model.nodes, node.operation.Finite)
    (standard : ∀ kind : Kind, registry.get kind.name = .ok kind) :
    ofArchive registry map.archive = .ok map := by
  refine bind_eq_ok.mpr ⟨_, Model.ofArchive_archive connected finite standard, ?_⟩
  have inputs : map.archive.inputs.mapM (renamed (Renaming.keep map.model.size)) =
      .ok (map.archive.inputs.map fun endpoint => (endpoint.name, endpoint.port)) := by
    apply mapM_eq_ok
    intro endpoint member
    obtain ⟨input, member', rfl⟩ := List.mem_map.mp member
    obtain ⟨spec, found⟩ := named.inputs input member'
    exact renamed_keep (inputSpec_within found)
  have outputs : map.archive.outputs.mapM (renamed (Renaming.keep map.model.size)) =
      .ok (map.archive.outputs.map fun endpoint => (endpoint.name, endpoint.port)) := by
    apply mapM_eq_ok
    intro endpoint member
    obtain ⟨output, member', rfl⟩ := List.mem_map.mp member
    obtain ⟨spec, found⟩ := named.outputs output member'
    exact renamed_keep (outputSpec_within found)
  refine bind_eq_ok.mpr ⟨_, inputs, bind_eq_ok.mpr ⟨_, outputs, ?_⟩⟩
  have sameInputs : (map.archive.inputs.map fun endpoint => (endpoint.name, endpoint.port)).map
      (fun input => (input.1, input.2.node)) = map.inputs := by
    unfold archive
    rw [List.map_map, List.map_map]
    exact List.map_id _
  have sameOutputs : (map.archive.outputs.map fun endpoint => (endpoint.name, endpoint.port)) =
      map.outputs := by
    unfold archive
    rw [List.map_map]
    exact List.map_id _
  rw [sameOutputs]
  refine ofModel_ok.mpr ⟨?_, ?_⟩
  · exact sameInputs.symm ▸ named
  · exact congrArg (fun inputs => { map with inputs := inputs }) sameInputs.symm

end Map

end TensorGraph

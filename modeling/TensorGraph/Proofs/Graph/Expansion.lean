/-
Running a refined model.

A pass gives most nodes a copy under another name and a dense layer three nodes.
The two models run side by side: after each node of the first and the nodes in
its place, every port of the first that is in place has the value of its
counterpart.  Only the complaint of an input node that was not fed tells the two
runs apart, since it names the node.
-/

import TensorGraph.Proofs.Graph.Dense
import TensorGraph.Proofs.Graph.Memory
import TensorGraph.Proofs.Graph.Pass

namespace TensorGraph

open Rebuilding Model

/-! ### The ports of a pass -/

/-- The first output of a node has become that of another node. -/
def PortMap.Renames (ports : PortMap) (id id' : NodeId) : Prop :=
  ports.lookup { node := id, output := 0 } = some { node := id', output := 0 }

namespace Rebuilding

variable {id place : NodeId} {ports last : PortMap} {rest added : List Node} {node : Node}

/-- Ports before position `id` have counterparts before position `place`, each of the same
number, and ports of different nodes have counterparts of different nodes. -/
structure Apart (id place : NodeId) (ports : PortMap) : Prop where
  number : ∀ port port', ports.lookup port = some port' → port'.output = port.output
  below : ∀ port port', ports.lookup port = some port' → port.node < id ∧ port'.node < place
  injective : ∀ port other port' other', ports.lookup port = some port' →
    ports.lookup other = some other' → port'.node = other'.node → port.node = other.node

theorem Apart.nil : Apart 0 0 [] :=
  ⟨nofun, nofun, nofun⟩

/-- The ports of the next node get counterparts that were not there before. -/
theorem Apart.extend (apart : Apart id place ports) {more : PortMap} {next : NodeId}
    (mine : ∀ port port', more.lookup port = some port' →
      port'.output = port.output ∧ port.node = id ∧ place ≤ port'.node ∧ port'.node < next)
    (grows : place ≤ next) :
    Apart (id + 1) next (more ++ ports) := by
  have either : ∀ port port', (more ++ ports).lookup port = some port' →
      (port'.output = port.output ∧ port.node = id ∧ place ≤ port'.node ∧ port'.node < next) ∨
        ports.lookup port = some port' := by
    intro port port' found
    rw [List.lookup_append] at found
    cases here : more.lookup port with
    | some other =>
        rw [here] at found
        cases found
        exact .inl (mine _ _ here)
    | none =>
        rw [here] at found
        exact .inr found
  refine ⟨fun port port' found => ?_, fun port port' found => ?_,
    fun port other port' other' found found' same => ?_⟩
  · exact (either _ _ found).elim And.left (apart.number _ _)
  · rcases either _ _ found with ⟨-, rfl, -, below⟩ | old
    · exact ⟨Nat.lt_succ_self _, below⟩
    · obtain ⟨before, below⟩ := apart.below _ _ old
      exact ⟨before.trans (Nat.lt_succ_self id), below.trans_le grows⟩
  · rcases either _ _ found with ⟨-, here, fresh, -⟩ | old <;>
      rcases either _ _ found' with ⟨-, here', fresh', -⟩ | old'
    · exact here.trans here'.symm
    · exact (fresh.not_gt (same.trans_lt (apart.below _ _ old').2)).elim
    · exact (fresh'.not_gt (same.symm.trans_lt (apart.below _ _ old).2)).elim
    · exact apart.injective _ _ _ _ old old' same

/-- The ports of a node and those of its copy. -/
theorem Apart.copied (apart : Apart id place ports) (node : Node) :
    Apart (id + 1) (place + 1) (copied id place node ++ ports) := by
  refine apart.extend (fun port port' found => ?_) (Nat.le_succ place)
  rw [lookup_copied] at found
  split at found
  · rename_i mine
    cases found
    exact ⟨rfl, mine.1, le_rfl, Nat.lt_succ_self place⟩
  · cases found

/-- The port of a node and that of a later one of the nodes in its place. -/
theorem Apart.moved (apart : Apart id place ports) {later next : NodeId} (grows : place ≤ later)
    (below : later < next) :
    Apart (id + 1) next (({ node := id, output := 0 }, { node := later, output := 0 }) :: ports) := by
  change Apart (id + 1) next ([_] ++ ports)
  refine apart.extend (fun port port' found => ?_) (grows.trans below.le)
  rw [List.lookup_cons] at found
  split at found
  · rename_i mine
    cases found
    exact ⟨(congrArg Port.output (eq_of_beq mine)).symm, congrArg Port.node (eq_of_beq mine), grows,
      below⟩
  · cases found

theorem Rebuilds.apart (rebuilds : Rebuilds id rest place ports added last)
    (apart : Apart id place ports) : Apart (id + rest.length) (place + added.length) last := by
  induction rebuilds with
  | done => exact apart
  | copied _ _ _ ih =>
      have whole := ih (apart.copied _)
      simpa [Nat.add_assoc, Nat.add_comm, Nat.add_left_comm] using whole
  | dense _ _ _ _ ih =>
      have whole := ih (apart.moved (Nat.le_add_right _ 2) (Nat.lt_succ_self _))
      simpa [denseChain, Nat.add_assoc, Nat.add_comm, Nat.add_left_comm] using whole
  | normalization _ _ _ ih =>
      have whole := ih (apart.moved (Nat.le_succ _) (Nat.lt_succ_self _))
      simpa [normalizationChain, Nat.add_assoc, Nat.add_comm, Nat.add_left_comm] using whole

/-- What has a counterpart keeps it. -/
theorem Rebuilds.keeps (rebuilds : Rebuilds id rest place ports added last) {port : Port}
    (before : port.node < id) : last.lookup port = ports.lookup port := by
  induction rebuilds with
  | done => rfl
  | copied _ _ _ ih =>
      rw [ih (before.trans (Nat.lt_succ_self _)), List.lookup_append, lookup_copied,
        if_neg fun mine => before.ne mine.1]
      rfl
  | dense _ _ _ _ ih =>
      rw [ih (before.trans (Nat.lt_succ_self _)), List.lookup_cons,
        beq_false_of_ne fun mine => before.ne (congrArg Port.node mine)]
  | normalization _ _ _ ih =>
      rw [ih (before.trans (Nat.lt_succ_self _)), List.lookup_cons,
        beq_false_of_ne fun mine => before.ne (congrArg Port.node mine)]

end Rebuilding

/-! ### The values of a run -/

namespace Twins

variable {renamed : NodeId → NodeId → Prop} {ρ σ : Type} {world later : Twins renamed} {id place : NodeId} {ports last : PortMap}
  {rest added : List Node} {node : Node} {values values' : PortValues} {feeds feeds' : FeedValues}

/-- Every port that has a counterpart has its value. -/
def Follows (world : Twins renamed) (ports : PortMap) (values values' : PortValues) : Prop :=
  ∀ port port', ports.lookup port = some port' → ∃ value value',
    values.lookup port = some value ∧ values'.lookup port' = some value' ∧
      world.Alike value value'

theorem Follows.mono (follows : world.Follows ports values values')
    (growing : world.Later later) : later.Follows ports values values' := by
  intro port port' found
  obtain ⟨value, value', here, here', alike⟩ := follows port port' found
  exact ⟨value, value', here, here', alike.mono growing⟩

theorem Follows.append {more : PortMap} (new : world.Follows more values values')
    (old : world.Follows ports values values') : world.Follows (more ++ ports) values values' := by
  intro port port' found
  rw [List.lookup_append] at found
  cases here : more.lookup port with
  | some other =>
      rw [here] at found
      cases found
      exact new port port' here
  | none =>
      rw [here] at found
      exact old port port' found

/-- Values of other ports do not matter. -/
theorem Follows.behind (follows : world.Follows ports values values')
    {more more' : PortValues}
    (aside : ∀ port port', ports.lookup port = some port' →
      more.lookup port = none ∧ more'.lookup port' = none) :
    world.Follows ports (more ++ values) (more' ++ values') := by
  intro port port' found
  obtain ⟨value, value', here, here', alike⟩ := follows port port' found
  obtain ⟨none, none'⟩ := aside port port' found
  refine ⟨value, value', ?_, ?_, alike⟩
  · rw [List.lookup_append, none]
    exact here
  · rw [List.lookup_append, none']
    exact here'

theorem lookup_aside {outputs : List Value} (all : outputs.length = node.outputs.length)
    {port : Port} (apart : port.node ≠ id) : (written id node outputs).lookup port = none := by
  rw [lookup_written all, if_neg apart]

/-- The outputs of a node and of its copy. -/
theorem Follows.copied (follows : world.Follows ports values values')
    (apart : Apart id place ports) {inputs : List InputPort} {outputs outputs' : List Value}
    (all : outputs.length = node.outputs.length)
    (alike : List.Forall₂ world.Alike outputs outputs') :
    world.Follows (copied id place node ++ ports) (written id node outputs ++ values)
      (written place { node with inputs := inputs } outputs' ++ values') := by
  have all' : outputs'.length = ({ node with inputs := inputs } : Node).outputs.length :=
    alike.length_eq.symm.trans all
  refine .append (fun port port' found => ?_) (follows.behind fun port port' found => ?_)
  · rw [lookup_copied] at found
    split at found
    · rename_i mine
      cases found
      obtain ⟨here, below⟩ := mine
      have known := Correspondence.rel_getElem? alike port.output
      rw [List.getElem?_eq_getElem (all ▸ below), List.getElem?_eq_getElem (all' ▸ below)] at known
      cases known with
      | some known =>
      refine ⟨_, _, ?_, ?_, known⟩
      · rw [List.lookup_append, lookup_written all, if_pos here,
          List.getElem?_eq_getElem (all ▸ below)]
        rfl
      · rw [List.lookup_append, lookup_written all',
          if_pos rfl, List.getElem?_eq_getElem (all' ▸ below)]
        rfl
    · cases found
  · obtain ⟨before, before'⟩ := apart.below port port' found
    exact ⟨lookup_aside all before.ne, lookup_aside all' before'.ne⟩

/-- What a node and its copy read. -/
theorem Follows.read (follows : world.Follows ports values values')
    {inputs inputs' : List InputPort} (moved : List.Forall₂ (Moved ports) inputs inputs') :
    ∃ read read',
      List.Forall₂ (fun input value => values.lookup input.source = some value) inputs read ∧
      List.Forall₂ (fun input value => values'.lookup input.source = some value) inputs' read' ∧
      List.Forall₂ world.Alike read read' := by
  induction moved with
  | nil => exact ⟨[], [], .nil, .nil, .nil⟩
  | cons head _ ih =>
      obtain ⟨read, read', all, all', alike⟩ := ih
      obtain ⟨value, value', here, here', same⟩ := follows _ _ head.source
      exact ⟨value :: read, value' :: read', .cons here all, .cons here' all', .cons same alike⟩

/-- The outputs that a node gets have its types and shapes. -/
theorem allocateOutputs_alike {world : Twins renamed} (rows : List OutputPort) :
    world.Relates (allocateOutputs rows : Host ρ (List Value))
      (allocateOutputs rows : Host σ (List Value)) fun later outputs outputs' =>
        outputs.length = rows.length ∧ List.Forall₂ later.Alike outputs outputs' := by
  induction rows generalizing world with
  | nil => exact Relates.pure ⟨rfl, .nil⟩
  | cons row rest ih =>
      unfold allocateOutputs
      refine Relates.bind ((twins _ ρ σ).allocate row.dtype (Layout.packed row.sizes)) ?_
      rintro one output output' growing₁ ⟨alike, -⟩
      refine Relates.bind ih ?_
      rintro two outputs outputs' growing₂ ⟨length, others⟩
      exact Relates.pure ⟨congrArg Nat.succ length, .cons (alike.mono growing₂) others⟩

/-- A node and its copy run alike. -/
theorem run_copied {inputs : List InputPort}
    {state state' read read' outputs outputs' : List Value} (named : renamed id place)
    (moved : List.Forall₂ (Moved ports) node.inputs inputs)
    (kept : List.Forall₂ world.Alike state state') (alike : List.Forall₂ world.Alike read read')
    (free : List.Forall₂ world.Alike outputs outputs') :
    world.Relates (node.run id state read outputs : Host ρ Unit)
      (({ node with inputs := inputs } : Node).run place state' read' outputs' : Host σ Unit)
      fun _ _ _ => True := by
  have free' : (twins _ ρ σ).Outputs world outputs outputs' :=
    free.imp fun _ _ same => ⟨same, trivial⟩
  by_cases unfed : node.kind = .input ∧ read = []
  · obtain ⟨input, rfl⟩ := unfed
    cases alike
    obtain ⟨operation, sources, rows, memory⟩ := node
    cases operation with
    | input dtype sizes =>
        unfold Node.run
        rw [Node.parameters_input, Node.parameters_input]
        simp only [onHost_parameters_nil, pure_bind]
        refine Relates.bind ((twins _ ρ σ).given _ free' 0) ?_
        exact fun one output output' growing same => Relates.throw (.inr ⟨id, place, named, rfl, rfl⟩)
    | _ => cases input
  · exact (twins _ ρ σ).run
      ⟨rfl, moved.imp fun _ _ moved => ⟨moved.alike.dtype, moved.alike.sizes⟩,
        fun input none => (unfed ⟨input, none⟩).elim⟩ kept alike free'

/-- One node of a run that reads what it needs. -/
theorem runNodes_cons {state : List Value} {others : List (Node × List Value)} {read : List Value}
    (done : node.readFrom id values feeds = .ok read) :
    (runNodes feeds id ((node, state) :: others) values : Host ρ PortValues) = (do
      let outputs ← allocateOutputs node.outputs
      node.run id state read outputs
      runNodes feeds (id + 1) others (written id node outputs ++ values)) := by
  have reads : (Kernel.ofExcept (node.readFrom id values feeds) : Host ρ (List Value)) =
      pure read := by
    rw [done]
    rfl
  conv_lhs => unfold runNodes runEach runStep
  rw [reads]
  simp only [bind_assoc, pure_bind]
  rfl

/-- A dense layer puts its weights and its offsets into memory and runs at once. -/
theorem run_dense {parameters : DenseWeights} {input : InputPort} {row : OutputPort}
    {value output : Value} :
    ((Node.stateless (.denseLayer parameters) [input] row).run id [] [value] [output] :
      Host ρ Unit) = parameters.atOnce input.dtype input.size value output := by
  simp only [Node.run, Node.runOn, Node.parameters, Operation.parametersOn, Node.stateless,
    onHost_parameters_nil, onHost_parameters_cons, given, List.getElem?_cons_zero,
    List.getElem?_cons_succ, pure_bind, bind_assoc]
  rfl

/-- A dense layer on what it reads. -/
theorem runNodes_dense {parameters : DenseWeights} {input : InputPort} {value : Value}
    {others : List (Node × List Value)} (found : values.lookup input.source = some value) :
    (runNodes feeds id ((Node.stateless (.denseLayer parameters) [input]
        (outputOf input.dtype [parameters.units]), []) :: others) values :
        Host ρ PortValues) = (do
      let output ← (do
        let output ← Kernel.allocate input.dtype (Layout.packed [parameters.units])
        parameters.atOnce input.dtype input.size value output
        return output)
      runNodes feeds (id + 1) others (({ node := id, output := 0 }, output) :: values)) := by
  rw [runNodes_cons (Node.readFrom_single rfl found)]
  simp only [Node.stateless, allocateOutputs, bind_assoc, pure_bind]
  exact bind_congr fun output => congrArg (· >>= fun _ => _) run_dense

private theorem lookup_self {number : NodeId} {value : Value} :
    List.lookup ({ node := number, output := 0 } : Port)
      (({ node := number, output := 0 }, value) :: values) = some value :=
  List.lookup_cons_self

/-- A node with one output and without memory. -/
private theorem runNodes_single {operation : Operation} {input : InputPort} {dtype : DType}
    {sizes : List Nat} {value : Value} {others : List (Node × List Value)}
    (found : values.lookup input.source = some value) :
    (runNodes feeds id ((Node.stateless operation [input] (outputOf dtype sizes), []) :: others)
        values : Host ρ PortValues) = (do
      let output ← Kernel.allocate dtype (Layout.packed sizes)
      (Node.stateless operation [input] (outputOf dtype sizes)).run id [] [value] [output]
      runNodes feeds (id + 1) others (({ node := id, output := 0 }, output) :: values)) := by
  rw [runNodes_cons (Node.readFrom_single rfl found)]
  simp only [Node.stateless, allocateOutputs, bind_assoc, pure_bind]
  rfl

/-- The nodes in the place of a dense layer. -/
theorem runNodes_denseChain {parameters : DenseWeights} {input : InputPort} {value : Value}
    {others : List (Node × List Value)} (found : values.lookup input.source = some value) :
    (runNodes feeds place ((denseChain parameters input place).zip [[], [], []] ++ others) values :
        Host ρ PortValues) = (do
      let (product, sum, result) ← (do
        let product ← Kernel.allocate input.dtype (Layout.packed [parameters.units])
        let others ← parameters.inSteps input.dtype input.size value product
        return (product, others))
      runNodes feeds (place + 3) others
        (({ node := place + 2, output := 0 }, result) ::
          ({ node := place + 1, output := 0 }, sum) ::
            ({ node := place, output := 0 }, product) :: values)) := by
  let row := outputOf input.dtype [parameters.units]
  let first := Node.stateless (.fullyConnected parameters.units parameters.weights) [input] row
  let second := Node.stateless (.bias parameters.bias)
    [chained input.dtype [parameters.units] place] row
  let third := Node.stateless (.activation parameters.function)
    [chained input.dtype [parameters.units] (place + 1)] row
  have multiplied (product : Value) : (first.run place [] [value] [product] : Host ρ Unit) = (do
      let matrix ← parameters.matrix input.dtype input.size
      let weights ← matrixOf matrix
      Kernel.multiply weights value product) := by
    simp only [first, Node.run, Node.runOn, Node.parameters, Operation.parametersOn,
      Node.stateless, onHost_parameters_nil, onHost_parameters_cons, given,
      List.getElem?_cons_zero, pure_bind, bind_assoc]
    rfl
  have added (product sum : Value) :
      (second.run (place + 1) [] [product] [sum] : Host ρ Unit) = (do
        let offsets ← Kernel.onHost
          (Parameter.ofFloats input.dtype parameters.bias [parameters.units]).place
        Kernel.perChannel .add offsets product sum) := by
    simp only [second, Node.run, Node.runOn, Node.parameters, Operation.parametersOn,
      Node.stateless, onHost_parameters_nil, onHost_parameters_cons, given,
      List.getElem?_cons_zero, pure_bind, bind_assoc]
    rfl
  have applied (sum result : Value) :
      (third.run (place + 1 + 1) [] [sum] [result] : Host ρ Unit) =
        Kernel.activate parameters.function sum result := rfl
  change runNodes feeds place ((first, []) :: (second, []) :: (third, []) :: others) values = _
  unfold DenseWeights.inSteps DenseWeights.behind
  rw [runNodes_single found]
  simp only [bind_assoc, pure_bind]
  refine bind_congr fun product => ?_
  rw [runNodes_single lookup_self, multiplied]
  simp only [bind_assoc]
  refine bind_congr fun matrix => bind_congr fun weights => bind_congr fun _ => ?_
  refine bind_congr fun sum => ?_
  rw [runNodes_single lookup_self, added, bind_assoc]
  refine bind_congr fun offsets => bind_congr fun _ => bind_congr fun result => ?_
  rw [applied]

/-- The output of a dense layer and that of the last node in its place. -/
theorem Follows.dense (follows : world.Follows ports values values') (apart : Apart id place ports)
    {output product sum result : Value} (alike : world.Alike output result) :
    world.Follows (({ node := id, output := 0 }, { node := place + 2, output := 0 }) :: ports)
      (({ node := id, output := 0 }, output) :: values)
      (({ node := place + 2, output := 0 }, result) :: ({ node := place + 1, output := 0 }, sum) ::
        ({ node := place, output := 0 }, product) :: values') := by
  intro port port' found
  by_cases mine : port = { node := id, output := 0 }
  · subst mine
    rw [List.lookup_cons_self] at found
    cases found
    exact ⟨output, result, List.lookup_cons_self, List.lookup_cons_self, alike⟩
  · rw [List.lookup_cons, beq_false_of_ne mine] at found
    obtain ⟨value, value', here, here', same⟩ := follows port port' found
    obtain ⟨-, below⟩ := apart.below port port' found
    have other (number : NodeId) (least : place ≤ number) :
        (port' == ({ node := number, output := 0 } : Port)) = false :=
      beq_false_of_ne fun same => (below.trans_le least).ne (congrArg Port.node same)
    refine ⟨value, value', ?_, ?_, same⟩
    · rw [List.lookup_cons, beq_false_of_ne mine]
      exact here
    · rw [List.lookup_cons, other _ (Nat.le_add_right place 2), List.lookup_cons,
        other _ (Nat.le_succ place), List.lookup_cons, other _ le_rfl]
      exact here'

/-- A node without inputs and its counterpart are fed alike. -/
def FedAlike (world : Twins renamed) (last : PortMap) (feeds feeds' : FeedValues) : Prop :=
  ∀ key key', last.Renames key key' → Option.Rel world.Alike (feeds.lookup key) (feeds'.lookup key')

theorem FedAlike.mono (fed : world.FedAlike last feeds feeds') (growing : world.Later later) :
    later.FedAlike last feeds feeds' := by
  intro key key' found
  have known := fed key key' found
  generalize feeds.lookup key = feed? at *
  generalize feeds'.lookup key' = feed?' at *
  cases known with
  | none => exact .none
  | some alike => exact .some (alike.mono growing)

/-- What a node and its copy read, be it ports or a feed. -/
theorem readFrom_copied {inputs : List InputPort}
    (moved : List.Forall₂ (Moved ports) node.inputs inputs)
    (follows : world.Follows ports values values')
    (fed : Option.Rel world.Alike (feeds.lookup id) (feeds'.lookup place)) :
    ∃ read read', node.readFrom id values feeds = .ok read ∧
      ({ node with inputs := inputs } : Node).readFrom place values' feeds' = .ok read' ∧
      List.Forall₂ world.Alike read read' := by
  by_cases alone : node.inputs = []
  · have alone' : inputs = [] := by
      rw [alone] at moved
      cases moved
      rfl
    refine ⟨_, _, Node.readFrom_feed alone, Node.readFrom_feed alone', ?_⟩
    generalize feeds.lookup id = feed? at *
    generalize feeds'.lookup place = feed?' at *
    cases fed with
    | none => exact .nil
    | some alike => exact .cons alike .nil
  · obtain ⟨read, read', all, all', alike⟩ := follows.read moved
    have reads : inputs ≠ [] := fun none => alone (List.length_eq_zero_iff.mp
      (moved.length_eq.trans (by rw [none]; rfl)))
    exact ⟨read, read', Node.readFrom_ports alone all, Node.readFrom_ports reads all', alike⟩

/-- The two models run side by side. -/
theorem runNodes_rebuilt (rebuilds : Rebuilds id rest place ports added last)
    (simple : ∀ node ∈ rest, node.kind ≠ .batchNormalization)
    (rows : ∀ node ∈ rest, 0 < node.outputs.length) (apart : Apart id place ports)
    (named : ∀ key key', last.Renames key key' → renamed key key')
    (fed : world.FedAlike last feeds feeds') {name : Nat}
    (kept : ∀ state ∈ memoryHandles name (rest.map Node.state), ∀ value ∈ state,
      world.Alike value value)
    (follows : world.Follows ports values values') :
    world.Relates
      (runNodes feeds id (rest.zip (memoryHandles name (rest.map Node.state))) values :
        Host ρ PortValues)
      (runNodes feeds' place (added.zip (memoryHandles name (added.map Node.state))) values' :
        Host ρ PortValues)
      fun later answer answer' => later.Follows last answer answer' := by
  induction rebuilds generalizing world name values values' with
  | done => exact Relates.pure follows
  | @copied id node rest added place ports last inputs plain moved others ih =>
      have mine : last.Renames id place := by
        unfold PortMap.Renames
        rw [others.keeps (Nat.lt_succ_self id), List.lookup_append, lookup_copied,
          if_pos ⟨rfl, rows node List.mem_cons_self⟩]
        rfl
      obtain ⟨read, read', done, done', alike⟩ := readFrom_copied moved follows (fed _ _ mine)
      change world.Relates (runNodes feeds id ((node, handles name node.state) :: _) values)
        (runNodes feeds' place (({ node with inputs := inputs }, handles name node.state) :: _)
          values') _
      rw [runNodes_cons done, runNodes_cons done']
      refine Relates.bind (allocateOutputs_alike node.outputs) ?_
      rintro one outputs outputs' growing₁ ⟨all, free⟩
      have state : List.Forall₂ one.Alike (handles name node.state) (handles name node.state) :=
        List.forall₂_same.mpr fun value member =>
          (kept _ List.mem_cons_self value member).mono growing₁
      refine Relates.bind (run_copied (named _ _ mine) moved state
        (alike.imp fun _ _ same => same.mono growing₁) free) ?_
      intro two _ _ growing₂ _
      have grown := growing₁.trans growing₂
      refine ih (fun node member => simple node (List.mem_cons_of_mem _ member))
        (fun node member => rows node (List.mem_cons_of_mem _ member)) (apart.copied node)
        named (fed.mono grown) (fun state member value inside =>
          (kept state (List.mem_cons_of_mem _ member) value inside).mono grown) ?_
      exact (follows.mono grown).copied apart all (free.imp fun _ _ same => same.mono growing₂)
  | @dense id node rest added place ports last parameters input input' made float moved others ih =>
      obtain ⟨-, ⟨sized, -⟩, rfl⟩ := dense_ok.mp made
      obtain ⟨value, value', found, found', alike⟩ := follows _ _ moved.source
      have size : input'.size = input.size := congrArg elementCount moved.alike.sizes
      change world.Relates (runNodes feeds id ((Node.stateless _ [input] _, []) :: _) values)
        (runNodes feeds' place ((denseChain parameters input' place).zip [[], [], []] ++ _)
          values') _
      rw [runNodes_dense found, runNodes_denseChain found', moved.alike.dtype, size]
      refine Relates.bind (dense_in_steps input.size float sized alike) ?_
      rintro one output ⟨product, sum, result⟩ growing same
      refine ih (fun node member => simple node (List.mem_cons_of_mem _ member))
        (fun node member => rows node (List.mem_cons_of_mem _ member))
        (apart.moved (Nat.le_add_right place 2) (Nat.lt_succ_self _)) named (fed.mono growing)
        (fun state member value inside =>
          (kept state (List.mem_cons_of_mem _ member) value inside).mono growing) ?_
      exact (follows.mono growing).dense apart same
  | @normalization id node rest added place ports last statistics input input' made moved others =>
      obtain ⟨-, -, rfl⟩ := normalizing_ok made
      exact (simple _ List.mem_cons_self rfl).elim

end Twins
end TensorGraph

/-
Refining a model.

A copy of a model that was grown node by node is the model itself.  One pass
leaves nothing to expand, so a refinement is the same after one pass and after
any number of them, and refining again changes nothing.  It fails only where a
batch normalization has a scale or a shift that is not finite.
-/

import TensorGraph.Proofs.Graph.Pass

namespace TensorGraph

namespace Model

open Rebuilding

variable {model : Model}

/-! ### Copies -/

/-- Every port as its own counterpart. -/
def samePorts (model : Model) : PortMap :=
  (model.ports.map fun entry => (entry.1, entry.1)).reverse

theorem mem_ports {port : Port} :
    port ∈ model.ports.map Prod.fst ↔ ∃ output, model.outputPort port = .ok output := by
  simp only [ports, List.mem_map, List.mem_flatMap, Prod.exists, outputPort_ok]
  constructor
  · rintro ⟨port', output, ⟨node, id, here, member⟩, rfl⟩
    obtain ⟨same, below⟩ := mem_portsOf.mp (List.mem_map_of_mem member)
    dsimp only at same below
    refine ⟨node.outputs[port'.output], node, ?_, List.getElem?_eq_getElem below⟩
    rw [same]
    exact List.mem_zipIdx_iff_getElem?.mp here
  · rintro ⟨output, node, here, found⟩
    have member := mem_portsOf.mpr ⟨rfl, (List.getElem?_eq_some_iff.mp found).1⟩
    obtain ⟨⟨port', output'⟩, inside, rfl⟩ := List.mem_map.mp member
    exact ⟨_, output', ⟨node, _, List.mem_zipIdx_iff_getElem?.mpr here, inside⟩, rfl⟩

theorem lookup_samePorts {port port' : Port} :
    model.samePorts.lookup port = some port' ↔
      port' = port ∧ ∃ output, model.outputPort port = .ok output := by
  have same : model.samePorts =
      (model.ports.map Prod.fst).reverse.map fun port => (port, id port) := by
    rw [samePorts, ← List.map_reverse, ← List.map_reverse, List.map_map]
    rfl
  rw [same, lookup_graph, ← mem_ports]
  simp only [List.mem_reverse]
  split
  · rename_i member
    simp [member, eq_comm]
  · rename_i missing
    simp [missing]

theorem before_succ {id : NodeId} {node : Node} (found : model.nodes[id]? = some node) :
    (model.before (id + 1)).nodes = (model.before id).nodes ++ [node] := by
  obtain ⟨within, rfl⟩ := List.getElem?_eq_some_iff.mp found
  exact (List.take_append_getElem within).symm

theorem size_before {id : NodeId} (within : id ≤ model.size) : (model.before id).size = id := by
  simp [before, size] at within ⊢
  omega

theorem samePorts_succ {id : NodeId} {node : Node} (found : model.nodes[id]? = some node) :
    (model.before (id + 1)).samePorts = copied id id node ++ (model.before id).samePorts := by
  have within : id < model.size := (List.getElem?_eq_some_iff.mp found).1
  have length : (model.before id).nodes.length = id := size_before within.le
  have itself : (portsOf id node).map (fun entry => (entry.1, entry.1)) =
      (portsOf id node).map fun entry => (entry.1, { entry.1 with node := id }) := by
    refine List.map_congr_left fun entry member => ?_
    have placed := (mem_portsOf.mp (List.mem_map_of_mem member)).1
    rw [← placed]
  unfold samePorts ports
  rw [before_succ found, List.zipIdx_append, List.flatMap_append, List.map_append,
    List.reverse_append, length]
  simp only [List.zipIdx_singleton, List.flatMap_cons, List.flatMap_nil, List.append_nil]
  rw [zero_add, itself]
  rfl

/-- What was rebuilt is the model up to position `id`. -/
def rebuilt (model : Model) (id : NodeId) : Rebuilding :=
  { target := model.before id
    ports := (model.before id).samePorts }

theorem copy_same (connected : model.Connected) {id : NodeId} {node : Node}
    (found : model.nodes[id]? = some node) :
    (model.rebuilt id).copy id node = .ok (model.rebuilt (id + 1)) := by
  have within : id < model.size := (List.getElem?_eq_some_iff.mp found).1
  have reads := connected.reads found
  have moved : List.Forall₂ (Moved (model.before id).samePorts) node.inputs node.inputs := by
    refine List.forall₂_same.mpr fun input member => ⟨lookup_samePorts.mpr ⟨rfl, ?_⟩, rfl, rfl, rfl⟩
    obtain ⟨output, known, -⟩ := inputFrom_ok.mp (reads input member)
    exact ⟨output, known⟩
  have done : (model.rebuilt id).copy id node = .ok _ := copy_eq moved reads
  rw [done]
  unfold rebuilt
  rw [samePorts_succ found, size_before within.le]
  have nodes := before_succ found
  unfold before at nodes ⊢
  rw [← nodes]

theorem rebuilt_size : model.rebuilt model.size = { target := model, ports := model.samePorts } := by
  have whole : model.before model.size = model := by
    unfold before size
    rw [List.take_length]
  unfold rebuilt
  rw [whole]

theorem copyNodes_same (connected : model.Connected) {rest : List Node} (id : NodeId)
    (left : model.nodes.drop id = rest) (within : id ≤ model.size) :
    copyNodes (rest.zipIdx id) (model.rebuilt id) =
      .ok { target := model, ports := model.samePorts } := by
  induction rest generalizing id with
  | nil =>
      obtain rfl : id = model.size := le_antisymm within (List.drop_eq_nil_iff.mp left)
      exact congrArg Except.ok rebuilt_size
  | cons node rest ih =>
      obtain ⟨found, left'⟩ := drop_succ left
      have within' : id + 1 ≤ model.size := (List.getElem?_eq_some_iff.mp found).1
      rw [List.zipIdx_cons, copyNodes, copy_same connected found]
      exact ih (id + 1) left' within'

/-- A model is its own copy. -/
theorem copy_itself (connected : model.Connected) :
    model.copy = .ok (model, model.samePorts) := by
  have done := copyNodes_same connected 0 List.drop_zero (Nat.zero_le _)
  unfold copy
  rw [show Rebuilding.start = model.rebuilt 0 from rfl, done]
  rfl

/-! ### Passes -/

/-- Nothing in the model can be expanded. -/
def Plain (model : Model) : Prop :=
  ∀ node ∈ model.nodes, node.operation.expansion? = none

theorem canExpand_eq_false : model.canExpand = false ↔ model.Plain := by
  simp [canExpand, Plain]

/-- Where nothing can be expanded a pass is a copy. -/
theorem refineNodes_eq_copyNodes {items : List (Node × NodeId)} (state : Rebuilding)
    (plain : ∀ item ∈ items, item.1.operation.expansion? = none) :
    refineNodes items state = copyNodes items state := by
  induction items generalizing state with
  | nil => rfl
  | cons item rest ih =>
      obtain ⟨node, id⟩ := item
      rw [refineNodes_copy _ _ _ (plain (node, id) List.mem_cons_self), copyNodes]
      refine congrArg _ (funext fun next => ?_)
      exact ih next fun other member => plain other (List.mem_cons_of_mem _ member)

theorem refineOnce_plain (connected : model.Connected) (plain : model.Plain) :
    model.refineOnce = .ok (model, model.samePorts) := by
  have copied : refineNodes model.nodes.zipIdx .start = copyNodes model.nodes.zipIdx .start :=
    refineNodes_eq_copyNodes _ fun item member =>
      plain item.1 (List.fst_mem_of_mem_zipIdx member)
  unfold refineOnce
  rw [copied]
  exact copy_itself connected

/-- A pass over refinable nodes. -/
theorem refineOnce_ok (connected : model.Connected)
    (refinable : ∀ node ∈ model.nodes, node.operation.Refinable) :
    ∃ next ports, model.refineOnce = .ok (next, ports) ∧
      Rebuilds 0 model.nodes 0 [] next.nodes ports ∧
      Carries model model.size { target := next, ports := ports } := by
  obtain ⟨added, last, done, rebuilds, carries⟩ := refineNodes_ok connected (Carries.start model)
    List.drop_zero (Nat.zero_le _) refinable
  refine ⟨{ nodes := added }, last, ?_, rebuilds, carries⟩
  unfold refineOnce
  rw [done]
  rfl

theorem refineOnce_refused (connected : model.Connected)
    (refused : ¬ ∀ node ∈ model.nodes, node.operation.Refinable) :
    ∃ cause, model.refineOnce = .error cause ∧ Refusal cause := by
  obtain ⟨cause, stopped, refusal⟩ := refineNodes_refused connected (Carries.start model)
    List.drop_zero refused
  refine ⟨cause, ?_, refusal⟩
  unfold refineOnce
  rw [stopped]
  rfl

/-! ### Counterparts through several passes -/

variable {first second joined : PortMap}

theorem compose_ok (done : first.compose second = .ok joined) :
    List.Forall₂ (fun entry entry' : Port × Port =>
      entry'.1 = entry.1 ∧ second.lookup entry.2 = some entry'.2) first joined := by
  refine (mapM_forall₂.mp done).imp fun entry entry' step => ?_
  obtain ⟨old, port⟩ := entry
  dsimp only at step ⊢
  split at step
  · rename_i counterpart found
    cases step
    exact ⟨rfl, found⟩
  · cases step

theorem compose_total (all : ∀ entry ∈ first, ∃ counterpart,
    second.lookup entry.2 = some counterpart) : ∃ joined, first.compose second = .ok joined := by
  let step (entry : Port × Port) : Port × Port :=
    (entry.1, (second.lookup entry.2).getD default)
  have done : first.compose second = .ok (first.map step) := by
    refine mapM_eq_ok fun entry member => ?_
    obtain ⟨counterpart, found⟩ := all entry member
    obtain ⟨old, port⟩ := entry
    simp only [step, found, Option.getD_some]
  exact ⟨_, done⟩

theorem lookup_composed (done : first.compose second = .ok joined) (port : Port) :
    joined.lookup port = (first.lookup port).bind fun middle => second.lookup middle := by
  have entries := compose_ok done
  clear done
  induction entries with
  | nil => rfl
  | @cons entry entry' rest rest' same _ ih =>
      rw [List.lookup_cons, List.lookup_cons, same.1]
      cases port == entry.1 with
      | false => exact ih
      | true => exact same.2.symm

theorem composed_from (done : first.compose second = .ok joined) {entry : Port × Port}
    (member : entry ∈ joined) : ∃ middle, second.lookup middle = some entry.2 := by
  have entries := compose_ok done
  clear done
  induction entries with
  | nil => cases member
  | cons same _ ih =>
      rcases List.mem_cons.mp member with rfl | inside
      · exact ⟨_, same.2⟩
      · exact ih inside

/-- Going on to the same ports changes nothing. -/
theorem compose_samePorts {ports : PortMap}
    (there : ∀ entry ∈ ports, ∃ output, model.outputPort entry.2 = .ok output) :
    ports.compose model.samePorts = .ok ports := by
  obtain ⟨joined, done⟩ := compose_total fun entry member =>
    ⟨entry.2, lookup_samePorts.mpr ⟨rfl, there entry member⟩⟩
  have same : ports = joined := by
    have equal := (compose_ok done).imp fun entry entry' step =>
      (Prod.ext step.1.symm (lookup_samePorts.mp step.2).1.symm : entry = entry')
    rwa [List.forall₂_eq_eq_eq] at equal
  rw [done, ← same]

/-! ### The whole refinement -/

/-- The counterparts of all ports after one pass. -/
structure Refined (model next : Model) (ports : PortMap) : Prop where
  rebuilds : ∃ step, Rebuilds 0 model.nodes 0 [] next.nodes step ∧
    ∀ port, ports.lookup port = step.lookup port
  reachable : next.Reachable
  total : ∀ port, (∃ port', ports.lookup port = some port') ↔
    ∃ output, model.outputPort port = .ok output
  sound : ∀ port port', ports.lookup port = some port' → Counterpart model next port port'

theorem Refined.plain {next : Model} {ports : PortMap} (refined : Refined model next ports) :
    next.Plain := by
  obtain ⟨step, rebuilds, -⟩ := refined.rebuilds
  exact rebuilds.plain

theorem Refined.composed {next : Model} {step ports : PortMap}
    (rebuilds : Rebuilds 0 model.nodes 0 [] next.nodes step)
    (carries : Carries model model.size { target := next, ports := step })
    (done : model.samePorts.compose step = .ok ports) : Refined model next ports := by
  have inside {port port' : Port} (mapped : step.lookup port = some port') :
      ∃ output, model.outputPort port = .ok output := by
    obtain ⟨-, output, -, found, -⟩ := carries.sound port port' mapped
    exact ⟨output, found⟩
  have known (port : Port) : ports.lookup port = step.lookup port := by
    rw [lookup_composed done]
    cases here : model.samePorts.lookup port with
    | some middle =>
        obtain ⟨rfl, -⟩ := lookup_samePorts.mp here
        rfl
    | none =>
        cases mapped : step.lookup port with
        | none => rfl
        | some port' => cases here.symm.trans (lookup_samePorts.mpr ⟨rfl, inside mapped⟩)
  refine ⟨⟨step, rebuilds, known⟩, carries.reachable, fun port => ?_, fun port port' mapped => ?_⟩
  · rw [known]
    constructor
    · rintro ⟨port', mapped⟩
      exact inside mapped
    · rintro ⟨output, found⟩
      obtain ⟨node, here, -⟩ := outputPort_ok.mp found
      exact carries.total port output (List.getElem?_eq_some_iff.mp here).1 found
  · rw [known] at mapped
    exact (carries.sound port port' mapped).2

theorem refineUpTo_plain (connected : model.Connected) (plain : model.Plain) (passes : Nat)
    {ports : PortMap} (there : ∀ entry ∈ ports, ∃ output, model.outputPort entry.2 = .ok output) :
    refineUpTo passes model ports = .ok (model, ports) := by
  cases passes with
  | zero => rfl
  | succ passes =>
      unfold refineUpTo
      rw [refineOnce_plain connected plain]
      change ports.compose model.samePorts >>= _ = _
      rw [compose_samePorts there, canExpand_eq_false.mpr plain]
      rfl

/-- A model in which nothing can be expanded is its own refinement. -/
theorem refine_plain (connected : model.Connected) (plain : model.Plain) (passes : Nat) :
    model.refine passes = .ok (model, model.samePorts) := by
  unfold refine
  rw [copy_itself connected]
  refine refineUpTo_plain connected plain passes fun entry member => ?_
  obtain ⟨entry', there, rfl⟩ := List.mem_map.mp (List.mem_reverse.mp member)
  exact mem_ports.mp (List.mem_map_of_mem there)

theorem refine_zero (connected : model.Connected) :
    model.refine 0 = .ok (model, model.samePorts) := by
  unfold refine
  rw [copy_itself connected]
  rfl

/-- One pass refines a model, and further ones have nothing to do. -/
theorem refine_succ (connected : model.Connected)
    (refinable : ∀ node ∈ model.nodes, node.operation.Refinable) (passes : Nat) :
    ∃ next ports, model.refine (passes + 1) = .ok (next, ports) ∧ Refined model next ports := by
  obtain ⟨next, step, done, rebuilds, carries⟩ := refineOnce_ok connected refinable
  have all : ∀ entry ∈ model.samePorts, ∃ counterpart, step.lookup entry.2 = some counterpart := by
    intro entry member
    obtain ⟨entry', there, rfl⟩ := List.mem_map.mp (List.mem_reverse.mp member)
    obtain ⟨output, found⟩ := mem_ports.mp (List.mem_map_of_mem there)
    obtain ⟨node, here, -⟩ := outputPort_ok.mp found
    exact carries.total _ output (List.getElem?_eq_some_iff.mp here).1 found
  obtain ⟨ports, composed⟩ := compose_total all
  have refined := Refined.composed rebuilds carries composed
  refine ⟨next, ports, ?_, refined⟩
  unfold refine refineUpTo
  rw [copy_itself connected]
  change model.refineOnce >>= _ = _
  rw [done]
  change model.samePorts.compose step >>= _ = _
  rw [composed]
  change (if model.canExpand = true then refineUpTo passes next ports else pure (next, ports)) = _
  split
  · refine refineUpTo_plain refined.reachable.connected refined.plain passes fun entry member => ?_
    obtain ⟨middle, here⟩ := composed_from composed member
    obtain ⟨-, -, output, -, found, -⟩ := carries.sound _ _ here
    exact ⟨output, found⟩
  · rfl

theorem refine_refused (connected : model.Connected)
    (refused : ¬ ∀ node ∈ model.nodes, node.operation.Refinable) (passes : Nat) :
    ∃ cause, model.refine (passes + 1) = .error cause ∧ Refusal cause := by
  obtain ⟨cause, stopped, refusal⟩ := refineOnce_refused connected refused
  refine ⟨cause, ?_, refusal⟩
  unfold refine refineUpTo
  rw [copy_itself connected]
  change model.refineOnce >>= _ = _
  rw [stopped]
  rfl

theorem refine_reachable (reachable : model.Reachable) {passes : Nat} {next : Model}
    {ports : PortMap} (done : model.refine passes = .ok (next, ports)) : next.Reachable := by
  have connected := reachable.connected
  cases passes with
  | zero =>
      cases (refine_zero connected).symm.trans done
      exact reachable
  | succ passes =>
      by_cases refinable : ∀ node ∈ model.nodes, node.operation.Refinable
      · obtain ⟨_, _, done', refined⟩ := refine_succ connected refinable passes
        cases done'.symm.trans done
        exact refined.reachable
      · obtain ⟨cause, stopped, -⟩ := refine_refused connected refinable passes
        cases stopped.symm.trans done

/-! ### What refining gives -/

theorem expansion?_eq_none {operation : Operation} : operation.expansion? = none ↔
    operation.kind ≠ .denseLayer ∧ operation.kind ≠ .batchNormalization := by
  cases operation <;> simp [Operation.expansion?, Operation.kind]

/-- Nothing but a normalization by an infinite scale or shift stands in the way of a
refinement. -/
theorem refine_ok_iff (reachable : model.Reachable) (passes : Nat) :
    (∃ next ports, model.refine passes = .ok (next, ports)) ↔
      passes = 0 ∨ ∀ node ∈ model.nodes, node.operation.Refinable := by
  have connected := reachable.connected
  cases passes with
  | zero => exact iff_of_true ⟨_, _, refine_zero connected⟩ (.inl rfl)
  | succ passes =>
      by_cases refinable : ∀ node ∈ model.nodes, node.operation.Refinable
      · obtain ⟨next, ports, done, -⟩ := refine_succ connected refinable passes
        exact iff_of_true ⟨next, ports, done⟩ (.inr refinable)
      · obtain ⟨cause, stopped, -⟩ := refine_refused connected refinable passes
        refine iff_of_false ?_ (by simpa using refinable)
        rintro ⟨next, ports, done⟩
        cases stopped.symm.trans done

/-- A dense layer always has a refinement. -/
theorem refine_ok_iff_dense : ∃ model : Model, model.Reachable ∧ model.size = 2 ∧
    ∃ next ports, model.refine 1 = .ok (next, ports) := by
  have input := Reachable.empty.add (rfl : Model.empty.add (.input .f32 [1]) [] = .ok (_, 0))
  have dense := input.add
    (rfl : Model.add _
      (.denseLayer { units := 0, weights := [], bias := [], function := .relu })
      [{ node := 0, output := 0 }] = .ok (_, 1))
  refine ⟨_, dense, rfl, (refine_ok_iff dense 1).mpr (.inr fun node member => ?_)⟩
  obtain rfl | rfl := List.mem_pair.mp member
  · trivial
  · trivial

/-- A refinement never loses a port.  It maps every output port, and no other, to a port of
the same type and shape; and what one pass leaves is its own refinement. -/
theorem refine_sound (reachable : model.Reachable) (passes : Nat) :
    (∀ cause, model.refine passes = .error cause → Refusal cause) ∧
    ∀ next ports, model.refine passes = .ok (next, ports) →
      (∀ port, (∃ port', ports.lookup port = some port') ↔
        ∃ output, model.outputPort port = .ok output) ∧
      (∀ port port', ports.lookup port = some port' → Counterpart model next port port') ∧
      (0 < passes →
        (∀ node ∈ next.nodes, node.kind ≠ .denseLayer ∧ node.kind ≠ .batchNormalization) ∧
        ∀ again, ∃ same, next.refine again = .ok (next, same) ∧
          ∀ port port', same.lookup port = some port' ↔
            port' = port ∧ ∃ output, next.outputPort port = .ok output) := by
  have connected := reachable.connected
  cases passes with
  | zero =>
      refine ⟨fun cause stopped => ?_, fun next ports done => ?_⟩
      · cases (refine_zero connected).symm.trans stopped
      cases (refine_zero connected).symm.trans done
      refine ⟨fun port => ?_, fun port port' mapped => ?_, fun positive => ?_⟩
      · simp [lookup_samePorts]
      · obtain ⟨rfl, output, found⟩ := lookup_samePorts.mp mapped
        exact ⟨output, output, found, found, rfl, rfl⟩
      · exact absurd positive (Nat.lt_irrefl 0)
  | succ passes =>
      by_cases refinable : ∀ node ∈ model.nodes, node.operation.Refinable
      · obtain ⟨next, ports, done, refined⟩ := refine_succ connected refinable passes
        refine ⟨fun cause stopped => ?_, fun next' ports' done' => ?_⟩
        · cases done.symm.trans stopped
        cases done.symm.trans done'
        refine ⟨refined.total, refined.sound, fun _ => ⟨fun node member => ?_, fun again => ?_⟩⟩
        · exact expansion?_eq_none.mp (refined.plain node member)
        · exact ⟨_, refine_plain refined.reachable.connected refined.plain again,
            fun _ _ => lookup_samePorts⟩
      · obtain ⟨cause, stopped, refusal⟩ := refine_refused connected refinable passes
        refine ⟨fun cause' stopped' => ?_, fun next ports done => ?_⟩
        · cases stopped.symm.trans stopped'
          exact refusal
        · cases stopped.symm.trans done

/-- The case of a dense layer: its output becomes that of the third node in its place. -/
theorem refine_sound_dense : ∃ model : Model, model.Reachable ∧
    ∃ next ports, model.refine 1 = .ok (next, ports) ∧
      ports.lookup { node := 1, output := 0 } = some { node := 3, output := 0 } ∧
      (∀ node ∈ next.nodes, node.kind ≠ .denseLayer ∧ node.kind ≠ .batchNormalization) ∧
      ∃ same, next.refine 5 = .ok (next, same) := by
  have input := Reachable.empty.add (rfl : Model.empty.add (.input .f32 [1]) [] = .ok (_, 0))
  have dense := input.add
    (rfl : Model.add _
      (.denseLayer { units := 0, weights := [], bias := [], function := .relu })
      [{ node := 0, output := 0 }] = .ok (_, 1))
  refine ⟨_, dense, _, _, rfl, rfl, ?_⟩
  obtain ⟨-, -, settled⟩ := (refine_sound dense 1).2 _ _ rfl
  obtain ⟨simple, again⟩ := settled Nat.one_pos
  obtain ⟨same, done, -⟩ := again 5
  exact ⟨simple, same, done⟩

end Model
end TensorGraph

/-
What a run touches.

A node that runs writes to its own memory and to storages that it makes.  Feeds,
parameters, the memory of other nodes and what other nodes gave out stand in other
storages, so they stay as they are, also when the run fails.  What a map without
memory answers is told by its feeds.
-/

import TensorGraph.Proofs.Graph.Fleet

namespace TensorGraph

namespace Frame

variable {frame : Frame} {ρ : Type}

namespace Holds

/-- The frame is kept whether the run fails or not. -/
theorem last {α : Type} {run : Host ρ α} {post : α → Prop} (holds : frame.Holds run post)
    {state : HostState ρ} (kept : frame.Kept state.heap) :
    frame.Kept (Action.last (run state)).heap := by
  cases ran : run state with
  | ok answer after => exact (holds.done _ _ _ kept ran).1
  | error fault after => exact holds.failed _ _ _ kept ran

/-- A node writes to its memory and to what it makes. -/
theorem runStep (known : FeedValues) (id : NodeId) (node : Node) {holding : Holding}
    (values : PortValues) (kept : ∀ value ∈ holding.memory, frame.Free value) :
    frame.Holds
      (TensorGraph.runStep HostedMap.work known id node holding values : Host ρ PortValues)
      fun _ => True := by
  refine bind (ofExcept fun _ _ => trivial) fun inputs _ => ?_
  refine bind (allocateOutputs node.outputs) fun outputs free => ?_
  exact bind (.runOn id node holding.parameters inputs kept free) fun _ _ => pure trivial

theorem runEach (known : FeedValues) (id : NodeId) {nodes : List (Node × Holding)}
    (values : PortValues)
    (kept : ∀ entry ∈ nodes, ∀ value ∈ entry.2.memory, frame.Free value) :
    frame.Holds
      (TensorGraph.runEach HostedMap.work known id nodes values : Host ρ PortValues)
      fun _ => True := by
  induction nodes generalizing id values with
  | nil => exact pure trivial
  | cons entry rest ih =>
      obtain ⟨first, others⟩ := List.forall_mem_cons.mp kept
      exact bind (runStep known id entry.1 values first) fun values _ => ih (id + 1) values others

end Holds
end Frame

/-! ### Several nodes -/

theorem HostedMap.work_growing {ρ : Type} : Work.Growing (HostedMap.work : Work (Host ρ) Holding) := by
  intro id node holding inputs outputs state after done
  exact Frame.Holds.grown (fun frame free => .runOn id node holding.parameters inputs
    (fun value _ => free value) fun value _ => free value) done

namespace HostedMap

variable {hosted : HostedMap} {heap : Heap}

/-- Runs the nodes before one. -/
def runBefore (hosted : HostedMap) (known : FeedValues) (id : NodeId) : Host Unit PortValues :=
  runEach work known 0 (hosted.nodes.take id) []

/-- The same values are read as the same elements. -/
private theorem storages_same {world : Twins Eq} {evaluation evaluation' : Evaluation}
    (agrees : world.Agrees evaluation'.heap evaluation.heap)
    (same : Twins.Shadows.SameValues world evaluation'.values evaluation.values) :
    evaluation.storages = evaluation'.storages := by
  have reversed : Twins.Shadows.SameValues world evaluation'.values.reverse
      evaluation.values.reverse := List.forall₂_reverse_iff.mpr same
  unfold Evaluation.storages
  generalize evaluation'.values.reverse = values', evaluation.values.reverse = values at reversed
  induction reversed with
  | nil => rfl
  | @cons entry' entry _ _ head _ ih =>
      have here : entry.2.toStorage evaluation.heap = entry'.2.toStorage evaluation'.heap :=
        Twins.Alike.toStorage head.2 agrees
      rw [List.mapM_cons, List.mapM_cons, ih]
      dsimp only
      rw [here, head.1]

/-- The elements that a run gives out are those that the model by itself gives out. -/
theorem Rests.storages (rests : hosted.Rests heap) (feeds : List Feed) :
    (Action.outcome (hosted.evaluate feeds heap)).map Evaluation.storages =
      (Action.outcome (Model.compute feeds (hosted.current heap).model)).map
        Evaluation.storages := by
  have same := (rests.evaluate feeds).1
  generalize hosted.evaluate feeds heap = left, Model.compute feeds (hosted.current heap).model =
    right at same
  cases same with
  | ok world agrees same => exact congrArg Except.ok (storages_same agrees same)
  | error fault last => rfl

end HostedMap

/-! ### Fleets -/

namespace Fleet

variable {fleet : Fleet} {hosted : HostedMap} {known : FeedValues} {first : HostState Unit}

/-- Feeds stand beside a fleet, wherever they were taken from but for the memory of the map. -/
structure Fed (fleet : Fleet) (hosted : HostedMap) (known : FeedValues)
    (first : HostState Unit) : Prop where
  grows : fleet.heap.Grows first.heap
  below : ∀ name ∈ namesOf (known.map Prod.snd), name < first.heap.next
  apart : ∀ name ∈ namesOf (known.map Prod.snd), name ∉ namesOf hosted.memory

section Running

variable {member : Nat} {id : NodeId} {node : Node} {holding : Holding} {values : PortValues}
  {before : HostState Unit}

/-- What the nodes before have given out is new. -/
theorem Fed.outputs (fed : Fed fleet hosted known first)
    (reached : hosted.runBefore known id first = .ok values before) :
    first.heap.next ≤ before.heap.next ∧ ∀ name ∈ namesOf (values.map Prod.snd),
      fleet.heap.next ≤ name ∧ name < before.heap.next := by
  obtain ⟨grown, new⟩ := runEach_new HostedMap.work_growing reached
  refine ⟨grown, fun name member => ?_⟩
  obtain ⟨above, below⟩ := (new name member).resolve_left nofun
  exact ⟨fed.grows.next.trans above, below⟩

end Running

end Fleet
end TensorGraph

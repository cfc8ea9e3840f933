/-
Values of ports.

While a model runs, the outputs of every node are written down under its ports.
A port is found among the outputs of its own node, and a node reads what stands
under the ports that its inputs name.
-/

import TensorGraph.Graph.Evaluate
import TensorGraph.Proofs.Action

namespace TensorGraph

theorem lookup_found {α β : Type} [BEq α] [LawfulBEq α] {entries : List (α × β)} {key : α}
    (there : key ∈ entries.map Prod.fst) :
    ∃ value, entries.lookup key = some value ∧ (key, value) ∈ entries := by
  cases found : entries.lookup key with
  | none =>
      obtain ⟨entry, member, rfl⟩ := List.mem_map.mp there
      have different := List.lookup_eq_none_iff.mp found entry member
      simp at different
  | some value =>
      obtain ⟨before, after, rfl, -⟩ := List.lookup_eq_some_iff.mp found
      exact ⟨value, rfl, by simp⟩

namespace Model

theorem mem_portsOf {id : NodeId} {node : Node} {port : Port} :
    port ∈ (portsOf id node).map Prod.fst ↔ port.node = id ∧ port.output < node.outputs.length := by
  obtain ⟨place, number⟩ := port
  simp only [portsOf, List.map_map, List.mem_map, Function.comp_apply, Prod.exists, Port.mk.injEq]
  constructor
  · rintro ⟨output, position, member, rfl, rfl⟩
    exact ⟨rfl, (List.getElem?_eq_some_iff.mp (List.mem_zipIdx_iff_getElem?.mp member)).1⟩
  · rintro ⟨rfl, below⟩
    exact ⟨node.outputs[number], number,
      List.mem_zipIdx_iff_getElem?.mpr (List.getElem?_eq_getElem below), rfl, rfl⟩

/-- The outputs of a node under its ports, the last one first. -/
def written (id : NodeId) (node : Node) (outputs : List Value) : PortValues :=
  (((portsOf id node).map Prod.fst).zip outputs).reverse

variable {id : NodeId} {node : Node} {outputs : List Value} {port : Port}

private theorem mem_written {value : Value} (member : (port, value) ∈ written id node outputs) :
    port.node = id ∧ outputs[port.output]? = some value := by
  obtain ⟨place, here⟩ := List.mem_iff_getElem?.mp (List.mem_reverse.mp member)
  obtain ⟨first, second⟩ := List.getElem?_zip_eq_some.mp here
  simp only [portsOf, List.map_map, List.getElem?_map, List.getElem?_zipIdx, Option.map_map,
    Option.map_eq_some_iff, Function.comp_apply, Nat.zero_add] at first
  obtain ⟨output, -, rfl⟩ := first
  exact ⟨rfl, second⟩

theorem lookup_written (all : outputs.length = node.outputs.length) (port : Port) :
    (written id node outputs).lookup port =
      if port.node = id then outputs[port.output]? else none := by
  have keys : (written id node outputs).map Prod.fst =
      ((portsOf id node).map Prod.fst).reverse := by
    unfold written
    rw [List.map_reverse, List.map_fst_zip]
    rw [List.length_map, portsOf, List.length_map, List.length_zipIdx, all]
  cases found : (written id node outputs).lookup port with
  | some value =>
      obtain ⟨before, after, same, -⟩ := List.lookup_eq_some_iff.mp found
      have member : (port, value) ∈ written id node outputs := by
        rw [same]
        simp
      obtain ⟨mine, here⟩ := mem_written member
      rw [if_pos mine, here]
  | none =>
      split
      · rename_i mine
        refine (List.getElem?_eq_none (not_lt.mp fun below => ?_)).symm
        have there : port ∈ (written id node outputs).map Prod.fst := by
          rw [keys, List.mem_reverse]
          exact mem_portsOf.mpr ⟨mine, all ▸ below⟩
        obtain ⟨value, here, -⟩ := lookup_found there
        cases found.symm.trans here
      · rfl

end Model

/-! ### What a node reads -/

variable {id : NodeId} {node : Node} {values : PortValues} {feeds : FeedValues}

theorem Node.readFrom_feed (alone : node.inputs = []) :
    node.readFrom id values feeds = .ok (feeds.lookup id).toList := by
  unfold Node.readFrom
  rw [alone]
  rfl

theorem Node.readFrom_ports (reads : node.inputs ≠ []) {read : List Value}
    (found : List.Forall₂ (fun input value => values.lookup input.source = some value)
      node.inputs read) : node.readFrom id values feeds = .ok read := by
  unfold Node.readFrom
  rw [if_neg (by simpa using reads)]
  refine mapM_forall₂.mpr (found.imp fun input value here => ?_)
  rw [here]

theorem Node.readFrom_single {input : InputPort} (single : node.inputs = [input]) {value : Value}
    (found : values.lookup input.source = some value) :
    node.readFrom id values feeds = .ok [value] := by
  refine Node.readFrom_ports (single ▸ List.cons_ne_nil _ _) ?_
  rw [single]
  exact .cons found .nil

end TensorGraph

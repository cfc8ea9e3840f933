/-
Models that are built step by step.

A model is built by adding and inserting nodes, by copying, refining and loading
it, and by using it in between.  Nodes may have been made for another model.
Whatever the steps, a node reads only from nodes before it, and a step that
fails changes nothing; so a run never misses what a node or an output asks for.
-/

import TensorGraph.Archive.Model
import TensorGraph.Proofs.Graph.Refinement
import TensorGraph.Proofs.Graph.Safety

namespace TensorGraph

namespace Model

variable {model later next : Model}

/-! ### What keeps a model reachable -/

/-- Whatever its nodes remember, a model could have been grown as it is. -/
theorem Reachable.aged (reachable : model.Reachable) (aged : model.Aged later) :
    later.Reachable := by
  induction reachable generalizing later with
  | empty =>
      obtain ⟨nodes⟩ := later
      cases aged
      exact .empty
  | @insert model other next operation sources made node id _ connected like inserted ih =>
      obtain ⟨reads, rfl, rfl⟩ := insert_ok.mp inserted
      obtain ⟨nodes⟩ := later
      have earlier := List.forall₂_take model.nodes.length aged
      have last := List.forall₂_drop model.nodes.length aged
      rw [List.take_left] at earlier
      rw [List.drop_left] at last
      obtain ⟨_, _, ⟨state, rfl, shapes⟩, none, same⟩ := List.forall₂_cons_left_iff.mp last
      cases none
      have grown : Aged model { nodes := nodes.take model.nodes.length } := earlier
      have like' : made.Like { node with state := state } :=
        ⟨like.operation, like.inputs, like.outputs, shapes_trans like.state shapes⟩
      refine .insert (ih grown) connected like' (insert_ok.mpr ⟨?_, ?_, rfl⟩)
      · exact fun input member => grown.reads (reads input member)
      · rw [← same, List.take_append_drop]

private theorem restored {kept data next : Storage} (done : Node.restoreBuffer kept data = .ok next) :
    kept.SameShape next := by
  unfold Node.restoreBuffer at done
  split at done
  · cases done
  rename_i typed
  split at done
  · cases done
  rename_i sized
  cases done
  exact ⟨not_not.mp typed, not_not.mp sized⟩

private theorem restored_all {kept buffers state : List Storage}
    (done : (kept.zip buffers).mapM (fun (kept, data) => Node.restoreBuffer kept data) = .ok state)
    (same : buffers.length = kept.length) : List.Forall₂ Storage.SameShape kept state := by
  induction kept generalizing buffers state with
  | nil =>
      cases done
      exact .nil
  | cons first rest ih =>
      cases buffers with
      | nil => cases same
      | cons data others =>
          rw [List.zip_cons_cons, List.mapM_cons] at done
          obtain ⟨next, one, done⟩ := bind_eq_ok.mp done
          obtain ⟨more, two, ⟨⟩⟩ := bind_eq_ok.mp done
          exact .cons (restored one) (ih two (Nat.succ.inj same))

private theorem agedNode_refl (node : Node) : AgedNode node node :=
  ⟨node.state, rfl, List.forall₂_same.mpr fun _ _ => ⟨rfl, rfl⟩⟩

private theorem set_aged {nodes : List Node} {id : NodeId} {node node' : Node}
    (found : nodes[id]? = some node) (aged : AgedNode node node') :
    List.Forall₂ AgedNode nodes (nodes.set id node') := by
  induction nodes generalizing id with
  | nil => cases found
  | cons first rest ih =>
      cases id with
      | zero =>
          cases found
          exact .cons aged (Aged.refl { nodes := rest })
      | succ id => exact .cons (agedNode_refl first) (ih found)

/-- Memory that is read back has the types and sizes of what it replaces. -/
theorem restoreNode_aged {id : NodeId} {buffers : List Storage}
    (done : model.restoreNode id buffers = .ok next) : model.Aged next := by
  obtain ⟨node, found, done⟩ := bind_eq_ok.mp done
  obtain ⟨node', restored, ⟨⟩⟩ := bind_eq_ok.mp done
  have here : model.nodes[id]? = some node := by
    unfold Model.node at found
    split at found
    · rename_i known
      cases found
      exact known
    · cases found
  have aged : AgedNode node node' := by
    unfold Node.restore at restored
    split at restored
    · cases restored
      exact agedNode_refl node
    split at restored
    · cases restored
    rename_i count
    obtain ⟨state, all, ⟨⟩⟩ := bind_eq_ok.mp restored
    exact ⟨state, rfl, restored_all all (not_not.mp count)⟩
  exact set_aged here aged

theorem Reachable.addNamed (reachable : model.Reachable) {registry : Registry} {name : String}
    {fields : Fields} {id : NodeId}
    (done : model.addNamed registry name fields = .ok (next, id)) : next.Reachable := by
  obtain ⟨kind, -, done⟩ := bind_eq_ok.mp done
  obtain ⟨⟨operation, sources⟩, -, done⟩ := bind_eq_ok.mp done
  exact reachable.add done

theorem Reachable.readNodes {registry : Registry} {edges : List EdgeRecord}
    {records : List NodeRecord} {ids renamed : Renaming} (reachable : model.Reachable)
    (done : TensorGraph.readNodes registry edges records model ids = .ok (next, renamed)) :
    next.Reachable := by
  induction records generalizing model ids with
  | nil =>
      cases done
      exact reachable
  | cons record rest ih =>
      obtain ⟨⟨middle, ids'⟩, first, done⟩ := bind_eq_ok.mp done
      refine ih ?_ done
      obtain ⟨sources, -, first⟩ := bind_eq_ok.mp first
      obtain ⟨⟨added, id⟩, adding, first⟩ := bind_eq_ok.mp first
      have grown := reachable.addNamed adding
      dsimp only at first
      split at first
      · cases first
        exact grown
      · obtain ⟨buffers, -, first⟩ := bind_eq_ok.mp first
        obtain ⟨restored, restoring, ⟨⟩⟩ := bind_eq_ok.mp first
        exact grown.aged (restoreNode_aged restoring)

/-- Whatever an archive says, the model that is read from it could have been grown. -/
theorem ofArchive_reachable {registry : Registry} {archive : ModelArchive} {renamed : Renaming}
    (done : ofArchive registry archive = .ok (next, renamed)) : next.Reachable := by
  obtain ⟨_, -, done⟩ := bind_eq_ok.mp done
  exact Reachable.empty.readNodes done

theorem Reachable.copy (reachable : model.Reachable) {ports : PortMap}
    (done : model.copy = .ok (next, ports)) : next.Reachable := by
  cases (copy_itself reachable.connected).symm.trans done
  exact reachable

theorem Reachable.refine (reachable : model.Reachable) {passes : Nat} {ports : PortMap}
    (done : model.refine passes = .ok (next, ports)) : next.Reachable := by
  cases passes with
  | zero =>
      cases (refine_zero reachable.connected).symm.trans done
      exact reachable
  | succ passes =>
      by_cases refinable : ∀ node ∈ model.nodes, node.operation.Refinable
      · obtain ⟨next', ports', done', refined⟩ :=
          refine_succ reachable.connected refinable passes
        cases done'.symm.trans done
        exact refined.reachable
      · obtain ⟨cause, failed, -⟩ := refine_refused reachable.connected refinable passes
        cases failed.symm.trans done

/-! ### Changes -/

/-- A node that was made for some model, as it may be later: it can have been used, and it
can have been led to read from other ports of the same types and shapes. -/
structure Crafted where
  node : Node
  made : ∃ (model : Model) (operation : Operation) (sources : List Port) (made : Node),
    model.connect operation sources = .ok made ∧ made.Like node

/-- One change of a model. -/
inductive Change where
  | add (registry : Registry) (name : String) (fields : Fields)
  | insert (crafted : Crafted)
  | copy
  | refine (passes : Nat)
  | load (registry : Registry) (archive : ModelArchive)
  | call (use : Use)

/-- A step that gives the next model, or fails and leaves the model as it is. -/
def attempt {α : Type} (step : Model → Except Error (Model × α)) (answer : α → Option NodeId) :
    Action Model (Option NodeId) := fun model =>
  match step model with
  | .ok (next, found) => .ok (answer found) next
  | .error cause => .error (.error cause) model

/-- Carries out a change.  Adding a node answers with its name. -/
def Change.run : Change → Action Model (Option NodeId)
  | add registry name fields => attempt (fun model => model.addNamed registry name fields) some
  | insert crafted => attempt (fun model => model.insert crafted.node) some
  | copy => attempt Model.copy fun _ => none
  | refine passes => attempt (fun model => model.refine passes) fun _ => none
  | load registry archive => attempt (fun _ => ofArchive registry archive) fun _ => none
  | call use => fun model => .ok none (model.after use)

/-- The model that some changes build, starting from nothing. -/
def built (changes : List Change) : Model :=
  changes.foldl (fun model change => Action.last (change.run model)) Model.empty

private theorem attempt_reachable {α : Type} {step : Model → Except Error (Model × α)}
    {answer : α → Option NodeId} (reachable : model.Reachable)
    (grows : ∀ next found, step model = .ok (next, found) → next.Reachable) :
    (Action.last (attempt step answer model)).Reachable := by
  unfold attempt
  cases done : step model with
  | error cause => exact reachable
  | ok result => exact grows result.1 result.2 done

/-- A change keeps a model reachable, whether it fails or not. -/
theorem Reachable.change (reachable : model.Reachable) (change : Change) :
    (Action.last (change.run model)).Reachable := by
  unfold Change.run
  cases change with
  | add registry name fields =>
      refine attempt_reachable reachable ?_
      exact fun next id done => reachable.addNamed done
  | insert crafted =>
      obtain ⟨other, operation, sources, made, connected, like⟩ := crafted.made
      refine attempt_reachable reachable ?_
      exact fun next id done => .insert reachable connected like done
  | copy =>
      refine attempt_reachable reachable ?_
      exact fun next ports done => reachable.copy done
  | refine passes =>
      refine attempt_reachable reachable ?_
      exact fun next ports done => reachable.refine done
  | load registry archive =>
      refine attempt_reachable reachable ?_
      exact fun next renamed done => ofArchive_reachable done
  | call use => exact reachable.aged (model.after_aged use)

theorem built_reachable (changes : List Change) : (built changes).Reachable := by
  unfold built
  have grown : ∀ start : Model, start.Reachable →
      (changes.foldl (fun model change => Action.last (change.run model)) start).Reachable := by
    induction changes with
    | nil => exact fun _ reachable => reachable
    | cons change rest ih => exact fun start reachable => ih _ (reachable.change change)
  exact grown _ .empty

/-! ### What a run never misses -/

/-- A node asked for a port, or a map for an output, that has no value. -/
def Missing (fault : Fault) : Prop :=
  (∃ port : Port, fault = .error (.invalidArgument ("port " ++ port.text ++ " has no value"))) ∨
    ∃ name : String,
      fault = .error (.invalidArgument ("output '" ++ name ++ "' was not computed"))

private def words : List String :=
  ["port ", "output '"]

/-- A message that begins in another way. -/
private theorem not_missing (start : String) {text : String}
    (other : ∀ word ∈ words, ¬ word.toList <+: start.toList ∧ ¬ start.toList <+: word.toList)
    (begins : start.toList <+: text.toList) : ¬ Missing (.error (.invalidArgument text)) := by
  have clash (word : String) (member : word ∈ words) (rest : String)
      (same : text = word ++ rest) : False := by
    obtain ⟨one, two⟩ := other word member
    have begins' : word.toList <+: text.toList := by simp [same]
    rcases List.prefix_or_prefix_of_prefix begins begins' with first | second
    · exact two first
    · exact one second
  rintro (⟨port, same⟩ | ⟨name, same⟩)
  · cases same
    exact clash "port " (by simp [words]) (port.text ++ " has no value")
      String.append_assoc
  · cases same
    exact clash "output '" (by simp [words]) (name ++ "' was not computed")
      String.append_assoc

/-- A run of a reachable model misses nothing, whatever else it stops with. -/
theorem Connected.runnable (connected : model.Connected) :
    model.Runnable fun fault => ¬ Missing fault := by
  refine ⟨connected, fun _ _ _ _ => .inr fun index => ?_, ?_⟩
  · exact not_missing "negative index " (by decide) (by simp)
  · intro node member op operation source inside left right same typed
    rcases Literal.binary_cases op (typed.trans same.symm) with done | ⟨-, cause, failed, rfl | rfl⟩
    · exact .inl (same ▸ done)
    · exact .inr ⟨_, failed, by simp [Missing, Literal.noQuotient]⟩
    · exact .inr ⟨_, failed, not_missing "operation '" (by decide) (by simp)⟩

theorem suits_any (model : Model) (feeds : List Feed) :
    model.Suits (fun fault => ¬ Missing fault) feeds := by
  refine ⟨fun feed _ => .inr ?_, fun id _ _ _ => .inr ?_, fun feed _ dtype sizes _ => ⟨.inr ?_,
    .inr ?_, .inr fun index => ?_⟩⟩
  · exact not_missing "layout spans " (by decide) (by simp)
  · exact not_missing "input node " (by decide) (by simp)
  · simp [Missing]
  · simp [Missing, Error.dtypes]
  · exact not_missing "negative index " (by decide) (by simp)

theorem compute_misses_nothing (reachable : model.Reachable) {feeds : List Feed} {fault : Fault}
    (failed : Model.compute feeds model = .error fault later) : ¬ Missing fault :=
  (compute_safe reachable.connected.runnable (model.suits_any feeds)).2 fault later failed

end Model

namespace Map

open Model

private theorem mapM_error {α β : Type} {step : α → Except Error β} {items : List α}
    {cause : Error} (failed : items.mapM step = .error cause) :
    ∃ item ∈ items, step item = .error cause := by
  induction items with
  | nil => cases failed
  | cons item rest ih =>
      rw [List.mapM_cons] at failed
      cases first : step item with
      | error other =>
          rw [first] at failed
          cases failed
          exact ⟨item, List.mem_cons_self, first⟩
      | ok result =>
          rw [first] at failed
          cases others : rest.mapM step with
          | error other =>
              rw [others] at failed
              cases failed
              obtain ⟨item', member, stopped⟩ := ih others
              exact ⟨item', List.mem_cons_of_mem _ member, stopped⟩
          | ok results =>
              rw [others] at failed
              cases failed

private theorem toFloats_error {allowed : Fault → Prop} {ground : Ground allowed} {dtype : DType}
    {layout : Layout} {value : Value} {heap : Heap} {cause : Error}
    (tensor : ground.Tensor dtype layout value) (failed : value.toFloats heap = .error cause) :
    ∃ index size, cause = .indexOutOfRange index size := by
  obtain ⟨name, base, size, placed, -⟩ := tensor.place
  have host : value.host = .ok (name, base) := by
    unfold Value.host
    rw [placed]
  unfold Value.toFloats Value.literals at failed
  rw [tensor.ready, host] at failed
  cases all : layout.positions.mapM (fun position => heap.cell name (base + position)) with
  | ok elements =>
      simp only [bind, Except.bind, all] at failed
      cases failed
  | error other =>
      simp only [bind, Except.bind, all] at failed
      cases failed
      obtain ⟨position, -, stopped⟩ := mapM_error all
      unfold Heap.cell Storage.get at stopped
      split at stopped
      · cases stopped
      · cases stopped
        exact ⟨_, _, rfl⟩

private theorem checkRows_error {specs : List PortSpec} {given : List (List Float)} {cause : Error}
    (failed : checkRows specs given = .error cause) :
    ∃ expected got, cause = .sizeMismatch expected got := by
  induction specs generalizing given with
  | nil => cases failed
  | cons spec rest ih =>
      cases given with
      | nil => cases failed
      | cons row others =>
          unfold checkRows at failed
          split at failed
          · cases failed
            exact ⟨_, _, rfl⟩
          · exact ih failed

private theorem feeds_error {map : Map} (named : Named map.model map.inputs map.outputs)
    {given : List (List Float)} {cause : Error} (failed : map.feeds given = .error cause) :
    ¬ Missing (.error cause) := by
  unfold feeds at failed
  split at failed
  · cases failed
    exact not_missing "map takes " (by decide) (by simp)
  cases specs : map.inputSpecs with
  | error other =>
      obtain ⟨input, member, stopped⟩ := mapM_error specs
      obtain ⟨spec, found⟩ := named.inputs input member
      cases stopped.symm.trans found
  | ok specs' =>
      simp only [bind, Except.bind, specs] at failed
      cases checked : checkRows specs' given with
      | ok _ =>
          rw [checked] at failed
          cases failed
      | error other =>
          rw [checked] at failed
          cases failed
          obtain ⟨expected, got, rfl⟩ := checkRows_error checked
          simp [Missing]

theorem compute_misses_nothing {map later : Map} (reachable : map.model.Reachable)
    (named : Named map.model map.inputs map.outputs) {given : List (List Float)} {fault : Fault}
    (failed : compute given map = .error fault later) : ¬ Missing fault := by
  cases fed : map.feeds given with
  | error cause =>
      cases (compute_refused fed).symm.trans failed
      exact feeds_error named fed
  | ok feeds =>
      cases ran : Model.compute feeds map.model with
      | error other model =>
          cases (compute_failed fed ran).symm.trans failed
          exact Model.compute_misses_nothing reachable ran
      | ok evaluation model =>
          rw [compute_done fed ran] at failed
          cases rows : map.rows evaluation with
          | ok result =>
              rw [rows] at failed
              cases failed
          | error cause =>
              rw [rows] at failed
              cases failed
              obtain ⟨⟨name, port⟩, member, stopped⟩ := mapM_error rows
              obtain ⟨ground, -, bound⟩ := (compute_safe reachable.connected.runnable
                (map.model.suits_any feeds)).1 evaluation model ran
              obtain ⟨spec, found⟩ := named.outputs _ member
              obtain ⟨output, known, -⟩ := bind_eq_ok.mp found
              obtain ⟨value, lookup, carried⟩ := bound.port known
              unfold rowOf Evaluation.floats? at stopped
              rw [lookup] at stopped
              obtain ⟨index, size, rfl⟩ := toFloats_error carried stopped
              simp [Missing]

end Map
namespace Model

/-! ### The graph of a built model -/

/-- What a node reads stands before it, with the type and the shape that it was made for. -/
theorem Connected.earlier {model : Model} (connected : model.Connected) {id : NodeId}
    {node : Node} (found : model.nodes[id]? = some node) {input : InputPort}
    (member : input ∈ node.inputs) :
    input.source.node < id ∧ ∃ output, model.outputPort input.source = .ok output ∧
      output.dtype = input.dtype ∧ output.sizes = input.sizes := by
  obtain ⟨state, done, -⟩ := connected id node found
  obtain ⟨output, known, same⟩ := inputFrom_ok.mp ((made_of_connect done).reads input member)
  obtain ⟨earlier, here⟩ := outputPort_before.mp known
  exact ⟨earlier, output, here, by rw [same], by rw [same]⟩

private theorem attempt_error {α : Type} {model after : Model} {fault : Fault}
    {step : Model → Except Error (Model × α)} {answer : α → Option NodeId}
    (failed : attempt step answer model = .error fault after) : after = model := by
  unfold attempt at failed
  split at failed
  · cases failed
  · cases failed
    rfl

/-- A change that fails leaves the model as it is. -/
theorem Change.run_error {change : Change} {model after : Model} {fault : Fault}
    (failed : change.run model = .error fault after) : after = model := by
  unfold Change.run at failed
  cases change with
  | call use => cases failed
  | _ => exact attempt_error failed

private theorem attempt_named {α : Type} {model after : Model} {id : NodeId}
    {step : Model → Except Error (Model × α)} {answer : α → Option NodeId}
    (done : attempt step answer model = .ok (some id) after) :
    ∃ found, step model = .ok (after, found) ∧ answer found = some id := by
  unfold attempt at done
  split at done
  · rename_i next found here
    injection done with same last
    subst last
    exact ⟨found, here, same⟩
  · cases done

/-- A node is added at the end, and its name is its position. -/
theorem Change.run_named {change : Change} {model after : Model} {id : NodeId}
    (done : change.run model = .ok (some id) after) :
    id = model.size ∧ ∃ node, after.nodes = model.nodes ++ [node] := by
  have inserted {node : Node} {found : NodeId} (here : model.insert node = .ok (after, found))
      (same : some found = some id) : id = model.size ∧ ∃ node, after.nodes = model.nodes ++ [node] := by
    obtain ⟨-, rfl, rfl⟩ := insert_ok.mp here
    cases same
    exact ⟨rfl, node, rfl⟩
  unfold Change.run at done
  cases change with
  | add registry name fields =>
      obtain ⟨found, added, same⟩ := attempt_named done
      obtain ⟨kind, -, added⟩ := bind_eq_ok.mp added
      obtain ⟨described, -, added⟩ := bind_eq_ok.mp added
      obtain ⟨node, -, added⟩ := bind_eq_ok.mp added
      exact inserted added same
  | insert crafted =>
      obtain ⟨found, added, same⟩ := attempt_named done
      exact inserted added same
  | call use => cases done
  | _ =>
      obtain ⟨found, -, same⟩ := attempt_named done
      cases same

/-- The graph of every model that was built: nodes are named by their positions and read from
earlier nodes, changes that fail do nothing, and no run misses a value. -/
theorem built_ordered (changes : List Change) :
    (∀ (id : NodeId) (node : Node), (built changes).nodes[id]? = some node →
      ∀ input ∈ node.inputs, input.source.node < id ∧
        ∃ output, (built changes).outputPort input.source = .ok output ∧
          output.dtype = input.dtype ∧ output.sizes = input.sizes) ∧
    (∀ port, port ∈ (built changes).ports.map Prod.fst ↔
      ∃ node : Node, (built changes).nodes[port.node]? = some node ∧
        port.output < node.outputs.length) ∧
    (∀ (change : Change) id after, change.run (built changes) = .ok (some id) after →
      id = (built changes).size ∧ ∃ node, after.nodes = (built changes).nodes ++ [node]) ∧
    (∀ (change : Change) fault after, change.run (built changes) = .error fault after →
      after = built changes) ∧
    (∀ feeds fault after, Model.compute feeds (built changes) = .error fault after →
      ¬ Missing fault) ∧
    ∀ inputs outputs map, Map.ofModel (built changes) inputs outputs = .ok map →
      ∀ calls given fault later, Map.compute given (map.after calls) = .error fault later →
        ¬ Missing fault := by
  have reachable := built_reachable changes
  refine ⟨fun id node found input member => reachable.connected.earlier found member,
    fun port => ?_,
    fun change id after => Change.run_named, fun change fault after => Change.run_error,
    fun feeds fault after => compute_misses_nothing reachable, ?_⟩
  · rw [mem_ports]
    simp only [outputPort_ok]
    constructor
    · rintro ⟨output, node, here, found⟩
      exact ⟨node, here, (List.getElem?_eq_some_iff.mp found).1⟩
    · rintro ⟨node, here, below⟩
      exact ⟨_, node, here, List.getElem?_eq_getElem below⟩
  · intro inputs outputs map made calls given fault later failed
    obtain ⟨named, rfl⟩ := Map.ofModel_ok.mp made
    have aged := Map.after_aged { model := built changes, inputs := inputs, outputs := outputs }
      calls
    refine Map.compute_misses_nothing (reachable.aged aged.model) ?_ failed
    rw [aged.inputs, aged.outputs]
    exact named.aged aged.model

end Model
end TensorGraph

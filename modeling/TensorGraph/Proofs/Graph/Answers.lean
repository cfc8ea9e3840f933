/-
Answers of a refined map.

A map and its refinement answer every call alike, whatever was called before.
Both remember the same: the nodes in the place of a dense layer have no memory,
and the others keep theirs.  So they start every run on the same heap, and what
a run leaves in the memory of a node it leaves in that of its copy.
-/

import TensorGraph.Proofs.Graph.Calls
import TensorGraph.Proofs.Graph.Expansion
import TensorGraph.Proofs.Graph.Refinement
import TensorGraph.Proofs.Graph.Shapes

namespace TensorGraph

/-! ### Memory -/

/-- Nodes with other memory, which may depend on where the memory stood. -/
def restated (change : Nat → List Storage → List Storage) : Nat → List Node → List Node
  | _, [] => []
  | name, node :: rest =>
      { node with state := change name node.state } ::
        restated change (name + node.state.length) rest

namespace Model

theorem remembering_eq (model : Model) (heap : Heap) :
    model.remembering heap =
      { nodes := restated (fun name state => (handles name state).map (contents heap)) 0
          model.nodes } := by
  have all : ∀ (name : Nat) (nodes : List Node),
      List.zipWith (fun node state => { node with state := state }) nodes
        ((memoryHandles name (nodes.map Node.state)).map fun values =>
          values.map (contents heap)) =
      restated (fun name state => (handles name state).map (contents heap)) name nodes := by
    intro name nodes
    induction nodes generalizing name with
    | nil => rfl
    | cons node rest ih => exact congrArg (_ :: ·) (ih _)
  exact congrArg Model.mk (all 0 model.nodes)

theorem reset_eq (model : Model) :
    model.reset = { nodes := restated (fun _ state => state.map Storage.cleared) 0 model.nodes } := by
  have all : ∀ (name : Nat) (nodes : List Node), nodes.map Node.reset =
      restated (fun _ state => state.map Storage.cleared) name nodes := by
    intro name nodes
    induction nodes generalizing name with
    | nil => rfl
    | cons node rest ih => exact congrArg (_ :: ·) (ih _)
  exact congrArg Model.mk (all 0 model.nodes)

end Model

namespace Rebuilding

open Model

variable {id place : NodeId} {ports last : PortMap} {rest added : List Node}

/-- The nodes of a pass remember what the nodes of the model do. -/
theorem Rebuilds.memory (rebuilds : Rebuilds id rest place ports added last) :
    (added.map Node.state).flatten = (rest.map Node.state).flatten := by
  induction rebuilds with
  | done => rfl
  | @copied _ node _ _ _ _ _ _ _ _ _ ih =>
      rw [List.map_cons, List.map_cons, List.flatten_cons, List.flatten_cons, ih]
  | dense made _ _ _ ih =>
      obtain ⟨-, -, rfl⟩ := dense_ok.mp made
      exact ih
  | normalization made _ _ ih =>
      obtain ⟨-, -, rfl⟩ := normalizing_ok made
      exact ih

private theorem restated_stateless {change : Nat → List Storage → List Storage}
    (nothing : ∀ name, change name [] = []) {operation : Operation} {inputs : List InputPort}
    {output : OutputPort} {name : Nat} :
    restated change name (Node.stateless operation inputs output :: rest) =
      Node.stateless operation inputs output :: restated change name rest := by
  change { Node.stateless operation inputs output with state := change name [] } :: _ = _
  rw [nothing]
  rfl

/-- What the nodes remember does not matter to a pass. -/
theorem Rebuilds.restated (rebuilds : Rebuilds id rest place ports added last)
    {change : Nat → List Storage → List Storage} (nothing : ∀ name, change name [] = [])
    (name : Nat) :
    Rebuilds id (restated change name rest) place ports (restated change name added) last := by
  induction rebuilds generalizing name with
  | done => exact .done
  | copied plain moved _ ih => exact .copied plain moved (ih _)
  | dense made float moved _ ih =>
      obtain ⟨-, -, rfl⟩ := dense_ok.mp made
      rw [restated_stateless nothing, denseChain]
      simp only [List.cons_append, List.nil_append, Node.alike, restated_stateless nothing]
      exact .dense made float moved (ih name)
  | normalization made moved _ ih =>
      obtain ⟨-, -, rfl⟩ := normalizing_ok made
      rw [normalizationChain]
      simp only [List.cons_append, List.nil_append, Node.alike, restated_stateless nothing]
      exact .normalization made moved (ih name)

end Rebuilding

/-! ### Runs of the two models -/

namespace Model

open Rebuilding

/-- The second model has the nodes of the first, with three in the place of each dense layer. -/
structure Expands (model next : Model) (step : PortMap) : Prop where
  rebuilds : Rebuilds 0 model.nodes 0 [] next.nodes step
  simple : ∀ node ∈ model.nodes, node.kind ≠ .batchNormalization
  rows : ∀ node ∈ model.nodes, 0 < node.outputs.length

variable {model next : Model} {step : PortMap}

private theorem of_restated {change : Nat → List Storage → List Storage} {holds : Node → Prop}
    (frame : ∀ node state, holds node → holds { node with state := state }) {nodes : List Node}
    (all : ∀ node ∈ nodes, holds node) (name : Nat) :
    ∀ node ∈ restated change name nodes, holds node := by
  induction nodes generalizing name with
  | nil => exact nofun
  | cons first rest ih =>
      intro node member
      rcases List.mem_cons.mp member with rfl | member
      · exact frame first _ (all first List.mem_cons_self)
      · exact ih (fun node inside => all node (List.mem_cons_of_mem _ inside)) _ node member

theorem Expands.restated (expands : model.Expands next step)
    {change : Nat → List Storage → List Storage} (nothing : ∀ name, change name [] = []) :
    Expands { nodes := restated change 0 model.nodes } { nodes := restated change 0 next.nodes }
      step :=
  ⟨expands.rebuilds.restated nothing 0, of_restated (fun _ _ kind => kind) expands.simple 0,
    of_restated (fun _ _ positive => positive) expands.rows 0⟩

theorem Expands.reset (expands : model.Expands next step) : model.reset.Expands next.reset step := by
  rw [reset_eq, reset_eq]
  exact expands.restated fun _ => rfl

theorem Expands.placed (expands : model.Expands next step) : next.placed = model.placed := by
  unfold Model.placed memory
  rw [expands.rebuilds.memory]

theorem Expands.remembering (expands : model.Expands next step) {heap heap' : Heap}
    (same : ∀ state ∈ model.placedState, ∀ value ∈ state, contents heap' value = contents heap value) :
    (model.remembering heap).Expands (next.remembering heap') step := by
  have flat : next.placedState.flatten = model.placedState.flatten := by
    unfold placedState memory
    rw [memoryHandles_flatten, memoryHandles_flatten, expands.rebuilds.memory]
  have equal : next.remembering heap' = next.remembering heap := by
    unfold Model.remembering
    refine congrArg next.withMemory (List.map_congr_left fun state member =>
      List.map_congr_left fun value inside => ?_)
    have there : value ∈ model.placedState.flatten :=
      flat ▸ List.mem_flatten.mpr ⟨state, member, inside⟩
    obtain ⟨state', member', inside'⟩ := List.mem_flatten.mp there
    exact same state' member' value inside'
  rw [equal, remembering_eq, remembering_eq]
  exact expands.restated fun _ => rfl

end Model

/-- The same data for a node and for that in its place. -/
structure Feed.Renamed (step : PortMap) (feed feed' : Feed) : Prop where
  data : feed'.data = feed.data
  layout : feed'.layout = feed.layout
  node : step.Renames feed.node feed'.node

/-- The same values for nodes and for those in their places. -/
def SameFeeds (step : PortMap) : FeedValues → FeedValues → Prop :=
  List.Forall₂ fun entry entry' => step.Renames entry.1 entry'.1 ∧ entry'.2 = entry.2

theorem placeFeeds_renamed {step : PortMap} {feeds feeds' : List Feed}
    (same : List.Forall₂ (Feed.Renamed step) feeds feeds') {known known' : FeedValues}
    (entries : SameFeeds step known known') (heap : Heap) :
    (∃ values values' later, placeFeeds feeds known heap = .ok values later ∧
      placeFeeds feeds' known' heap = .ok values' later ∧ SameFeeds step values values') ∨
    ∃ fault later, placeFeeds feeds known heap = .error fault later ∧
      placeFeeds feeds' known' heap = .error fault later := by
  induction same generalizing known known' heap with
  | nil => exact .inl ⟨known, known', heap, rfl, rfl, entries⟩
  | @cons feed feed' rest rest' head _ ih =>
      obtain ⟨id', data', layout'⟩ := feed'
      obtain ⟨rfl, rfl, named⟩ := head
      cases made : Value.ofStorage feed.data feed.layout heap with
      | error fault later =>
          exact .inr ⟨fault, later, Action.bind_error.mpr (.inl made),
            Action.bind_error.mpr (.inl made)⟩
      | ok value later =>
          have placed : ∀ (node : NodeId) (others : List Feed) (before : FeedValues),
              placeFeeds ({ feed with node := node } :: others) before heap =
                placeFeeds others ((node, value) :: before) later := by
            intro node others before
            change (Value.ofStorage feed.data feed.layout >>= fun value =>
              placeFeeds others ((node, value) :: before)) heap = _
            change EStateM.bind _ _ heap = _
            unfold EStateM.bind
            rw [made]
          rw [placed feed.node rest known, placed id' rest' known']
          have extended : SameFeeds step ((feed.node, value) :: known) ((id', value) :: known') :=
            .cons ⟨named, rfl⟩ entries
          exact ih extended later

open Rebuilding in
theorem SameFeeds.alike {step : PortMap} {id place : NodeId} {renamed : NodeId → NodeId → Prop}
    {values values' : FeedValues} (same : SameFeeds step values values')
    (apart : Apart id place step) {heap : Heap}
    (within : ∀ entry ∈ values, entry.2.Within heap) :
    (Twins.whole renamed heap).FedAlike step values values' := by
  intro key key' named
  unfold SameFeeds at same
  induction same with
  | nil => exact .none
  | @cons entry entry' rest rest' head _ ih =>
      obtain ⟨id, value⟩ := entry
      obtain ⟨id', value'⟩ := entry'
      obtain ⟨named', equal⟩ := head
      dsimp only at named' equal
      subst equal
      have others := ih fun entry member => within entry (List.mem_cons_of_mem _ member)
      have both : (key == id) = (key' == id') := by
        rw [Bool.eq_iff_iff, beq_iff_eq, beq_iff_eq]
        constructor
        · rintro rfl
          exact congrArg Port.node (Option.some.inj (named.symm.trans named'))
        · exact apart.injective _ _ _ _ named named'
      rw [List.lookup_cons, List.lookup_cons, both]
      cases key' == id' with
      | true => exact .some (Twins.whole_alike (within (id, value') List.mem_cons_self))
      | false => exact others

namespace Model

open Rebuilding

variable {model next : Model} {step : PortMap}

/-- Two runs end alike, and leave two models of which the second still has the nodes of the
first. -/
inductive SameRun (step : PortMap) :
    EStateM.Result Fault Model Evaluation → EStateM.Result Fault Model Evaluation → Prop where
  | ok {model next : Model} {evaluation evaluation' : Evaluation}
      (expands : model.Expands next step) (world : Twins step.Renames)
      (agrees : world.Agrees evaluation.heap evaluation'.heap)
      (follows : world.Follows step evaluation.values evaluation'.values) :
      SameRun step (.ok evaluation model) (.ok evaluation' next)
  | error {model next : Model} {fault fault' : Fault} (expands : model.Expands next step)
      (alike : Fault.Alike step.Renames fault fault') :
      SameRun step (.error fault model) (.error fault' next)

/-- The memory of the nodes after two runs that went alike. -/
private theorem contents_same {renamed : NodeId → NodeId → Prop} {later : Twins renamed}
    {heap final final' : Heap} (growing : (Twins.whole renamed heap).Later later)
    (agrees : later.Agrees final final') {storage : Storage} {value : Value}
    (holds : Holds heap storage value) : contents final' value = contents final value := by
  obtain ⟨name, rfl, below, -⟩ := holds
  exact (agrees.same _ _ _ _ (growing _ _ _ _ ⟨rfl, below, rfl, rfl⟩)).1

/-- A computation on feeds that are in place. -/
theorem compute_fed {feeds : List Feed} {known : FeedValues} {heap : Heap}
    (fed : placeFeeds feeds [] model.placed = .ok known heap) :
    Model.compute feeds model =
      match (model.run model.placedState known : Host Unit PortValues) (started heap) with
      | .error fault final => .error fault (model.remembering final.heap)
      | .ok values final =>
          .ok
            { values := values
              heap := final.heap
              operations := final.operations }
            (model.remembering final.heap) := by
  rcases model.compute_cases feeds with ⟨_, _, refused, -⟩ |
    ⟨_, _, fed', ⟨fault, final, ran, same⟩ | ⟨values, final, ran, same⟩⟩
  · cases fed.symm.trans refused
  · cases fed.symm.trans fed'
    rw [same, ran]
  · cases fed.symm.trans fed'
    rw [same, ran]

theorem compute_unfed {feeds : List Feed} {fault : Fault} {heap : Heap}
    (refused : placeFeeds feeds [] model.placed = .error fault heap) :
    Model.compute feeds model = .error fault model := by
  rcases model.compute_cases feeds with ⟨_, _, refused', same⟩ | ⟨_, _, fed, -⟩
  · cases refused.symm.trans refused'
    exact same
  · cases refused.symm.trans fed

theorem Expands.compute (expands : model.Expands next step) {feeds feeds' : List Feed}
    (same : List.Forall₂ (Feed.Renamed step) feeds feeds') :
    SameRun step (Model.compute feeds model) (Model.compute feeds' next) := by
  rcases placeFeeds_renamed same .nil model.placed with
    ⟨known, known', heap, fed, fed', entries⟩ | ⟨fault, later, refused, refused'⟩
  · obtain ⟨placed, within⟩ := placeFeeds_ok fed nofun
    have held {state : List Value} (member : state ∈ model.placedState) {value : Value}
        (inside : value ∈ state) : ∃ storage, Holds heap storage value := by
      obtain ⟨storage, holds⟩ := model.placedState_holds member inside
      exact ⟨storage, placed ▸ holds.addAll _⟩
    have run : (Twins.whole step.Renames heap).Relates
        (model.run model.placedState known : Host Unit PortValues)
        (next.run next.placedState known' : Host Unit PortValues)
        fun later answer answer' => later.Follows step answer answer' := by
      refine Twins.runNodes_rebuilt expands.rebuilds expands.simple expands.rows .nil
        (fun _ _ named => named) (entries.alike (expands.rebuilds.apart .nil) within) ?_ nofun
      intro state member value inside
      obtain ⟨storage, holds⟩ := held member inside
      exact Twins.whole_alike holds.within
    obtain ⟨done, failed⟩ := run (started heap) (started heap) (Twins.whole_agrees _ heap)
    have expands' {later : Twins step.Renames} {final final' : Heap}
        (growing : (Twins.whole step.Renames heap).Later later)
        (agrees : later.Agrees final final') :
        (model.remembering final).Expands (next.remembering final') step := by
      refine expands.remembering fun state member value inside => ?_
      obtain ⟨storage, holds⟩ := held member inside
      exact contents_same growing agrees holds
    rw [compute_fed fed, compute_fed (expands.placed.symm ▸ fed')]
    cases ran : (model.run model.placedState known : Host Unit PortValues) (started heap) with
    | ok values final =>
        obtain ⟨later, values', final', ran', growing, agrees, follows⟩ := done values final ran
        rw [ran']
        exact .ok (expands' growing agrees) later agrees follows
    | error fault final =>
        obtain ⟨later, fault', final', ran', growing, agrees, alike⟩ := failed fault final ran
        rw [ran']
        exact .error (expands' growing agrees) alike
  · have refused' : placeFeeds feeds' [] next.placed = .error fault later :=
      expands.placed ▸ refused'
    rw [compute_unfed refused, compute_unfed refused']
    exact .error expands (.inl rfl)

end Model

/-! ### Maps -/

namespace Twins.Alike

variable {renamed : NodeId → NodeId → Prop} {world : Twins renamed} {value value' : Value}
  {heap heap' : Heap}

/-- Twins live at the same place of storages with the same contents. -/
private theorem host_same (alike : world.Alike value value') (agrees : world.Agrees heap heap') :
    (∃ name name' base, value.host = .ok (name, base) ∧ value'.host = .ok (name', base) ∧
      heap'.storage name' = heap.storage name) ∨
      ∃ cause, value.host = .error cause ∧ value'.host = .error cause := by
  rcases alike.host with ⟨⟨name, base⟩, ⟨name', base'⟩, placed, placed', same, dtype, size, paired⟩ |
    missing
  · dsimp only at same paired
    subst same
    exact .inl ⟨name, name', base', placed, placed', (agrees.same _ _ _ _ paired).1⟩
  · exact .inr missing

theorem literals (alike : world.Alike value value') (agrees : world.Agrees heap heap') :
    value'.literals heap' = value.literals heap := by
  unfold Value.literals
  rw [alike.ready]
  rcases alike.host_same agrees with ⟨name, name', base, placed, placed', data⟩ |
    ⟨cause, missing, missing'⟩
  · rw [placed, placed']
    simp only [bind, Except.bind, Heap.cell, data]
  · rw [missing, missing']
    cases value.ready <;> rfl

/-- Twins are read as the same numbers. -/
theorem toFloats (alike : world.Alike value value') (agrees : world.Agrees heap heap') :
    value'.toFloats heap' = value.toFloats heap :=
  congrArg _ (alike.literals agrees)

/-- Twins are read as the same elements. -/
theorem toStorage (alike : world.Alike value value') (agrees : world.Agrees heap heap') :
    value'.toStorage heap' = value.toStorage heap := by
  unfold Value.toStorage
  rw [alike.ready]
  rcases alike.host_same agrees with ⟨name, name', base, placed, placed', data⟩ |
    ⟨cause, missing, missing'⟩
  · rw [placed, placed']
    simp only [bind, Except.bind, data]
  · rw [missing, missing']
    cases value.ready <;> rfl

end Twins.Alike

namespace Map

variable {map next : Map} {step : PortMap}

/-- The second map names the counterparts of what the first one names. -/
structure Expands (map next : Map) (step : PortMap) : Prop where
  model : map.model.Expands next.model step
  inputs : List.Forall₂ (fun input input' : String × NodeId => step.Renames input.2 input'.2)
    map.inputs next.inputs
  outputs : List.Forall₂ (fun output output' : String × Port =>
    step.lookup output.2 = some output'.2) map.outputs next.outputs
  specs : next.inputSpecs = map.inputSpecs

/-- The feeds that the two maps make of some rows. -/
theorem Expands.feeds (expands : map.Expands next step) (given : List (List Float)) :
    (∃ feeds feeds', map.feeds given = .ok feeds ∧ next.feeds given = .ok feeds' ∧
      List.Forall₂ (Feed.Renamed step) feeds feeds') ∨
    ∃ cause, map.feeds given = .error cause ∧ next.feeds given = .error cause := by
  unfold Map.feeds
  rw [← expands.inputs.length_eq, expands.specs]
  split
  · exact .inr ⟨_, rfl, rfl⟩
  cases map.inputSpecs with
  | error cause => exact .inr ⟨cause, rfl, rfl⟩
  | ok specs =>
      simp only [bind, Except.bind]
      cases checkRows specs given with
      | error cause => exact .inr ⟨cause, rfl, rfl⟩
      | ok _ =>
          refine .inl ⟨_, _, rfl, rfl, ?_⟩
          have inputs := expands.inputs
          generalize specs.zip given = pairs
          generalize map.inputs = first, next.inputs = second at inputs
          induction inputs generalizing pairs with
          | nil => exact .nil
          | cons head _ ih =>
              cases pairs with
              | nil => exact .nil
              | cons pair rest => exact .cons ⟨rfl, rfl, head⟩ (ih rest)

/-- What the two maps read off two runs that went alike. -/
theorem Expands.rows (expands : map.Expands next step) {world : Twins step.Renames}
    {evaluation evaluation' : Evaluation} (agrees : world.Agrees evaluation.heap evaluation'.heap)
    (follows : world.Follows step evaluation.values evaluation'.values) :
    next.rows evaluation' = map.rows evaluation := by
  have outputs := expands.outputs
  unfold Map.rows
  generalize map.outputs = first, next.outputs = second at outputs
  induction outputs with
  | nil => rfl
  | cons head _ ih =>
      obtain ⟨value, value', here, here', alike⟩ := follows _ _ head
      rw [List.mapM_cons, List.mapM_cons, ih]
      unfold rowOf Evaluation.floats?
      rw [here, here']
      simp only [Option.map_some, alike.toFloats agrees]

/-- Two answers that differ at most in how a complaint names a node that was not fed. -/
inductive SameAnswer (step : PortMap) :
    Except Fault (List (List Float)) → Except Fault (List (List Float)) → Prop where
  | ok (rows : List (List Float)) : SameAnswer step (.ok rows) (.ok rows)
  | error {fault fault' : Fault} (alike : Fault.Alike step.Renames fault fault') :
      SameAnswer step (.error fault) (.error fault')

theorem inputSpecs_aged {later : Map} (aged : map.Aged later) :
    later.inputSpecs = map.inputSpecs := by
  unfold inputSpecs
  rw [aged.inputs]
  simp only [inputSpec_aged aged.model]

theorem Aged.feeds {later : Map} (aged : map.Aged later) (rows : List (List Float)) :
    later.feeds rows = map.feeds rows := by
  unfold Map.feeds
  rw [aged.inputs, inputSpecs_aged aged]

theorem Expands.later (expands : map.Expands next step) {map' next' : Map}
    (aged : map.Aged map') (aged' : next.Aged next')
    (model : map'.model.Expands next'.model step) : map'.Expands next' step := by
  refine ⟨model, ?_, ?_, ?_⟩
  · rw [aged.inputs, aged'.inputs]
    exact expands.inputs
  · rw [aged.outputs, aged'.outputs]
    exact expands.outputs
  · rw [inputSpecs_aged aged, inputSpecs_aged aged', expands.specs]

/-- One computation. -/
theorem Expands.compute (expands : map.Expands next step) (given : List (List Float)) :
    SameAnswer step (map.sample given) (next.sample given) ∧
      (Action.last (compute given map)).model.Expands (Action.last (compute given next)).model
        step := by
  unfold sample
  rcases expands.feeds given with ⟨feeds, feeds', fed, fed', same⟩ | ⟨cause, refused, refused'⟩
  · have run := expands.model.compute same
    generalize ran : Model.compute feeds map.model = left at run
    generalize ran' : Model.compute feeds' next.model = right at run
    cases run with
    | error expands' alike =>
        rw [compute_failed fed ran, compute_failed fed' ran']
        exact ⟨.error alike, expands'⟩
    | ok expands' world agrees follows =>
        rw [compute_done fed ran, compute_done fed' ran', expands.rows agrees follows]
        cases map.rows _ with
        | ok rows => exact ⟨.ok rows, expands'⟩
        | error cause => exact ⟨.error (.inl rfl), expands'⟩
  · rw [compute_refused refused, compute_refused refused']
    exact ⟨.error (.inl rfl), expands.model⟩

/-- One call. -/
theorem Expands.call (expands : map.Expands next step) (call : Call) :
    SameAnswer step (map.answer call) (next.answer call) ∧
      (map.next call).Expands (next.next call) step := by
  have both : SameAnswer step (map.answer call) (next.answer call) ∧
      (map.next call).model.Expands (next.next call).model step := by
    cases call with
    | compute given => exact expands.compute given
    | reset => exact ⟨.ok [], expands.model.reset⟩
  exact ⟨both.1, expands.later (map.next_aged call) (next.next_aged call) both.2⟩

/-- Any number of calls. -/
theorem Expands.answers (expands : map.Expands next step) (calls : List Call) :
    List.Forall₂ (SameAnswer step) (map.answers calls) (next.answers calls) := by
  induction calls generalizing map next with
  | nil => exact .nil
  | cons call rest ih =>
      obtain ⟨same, expands'⟩ := expands.call call
      exact .cons same (ih expands')

/-! ### Refined maps -/

theorem SameAnswer.refl (step : PortMap) (answer : Except Fault (List (List Float))) :
    SameAnswer step answer answer := by
  cases answer with
  | ok rows => exact .ok rows
  | error fault => exact .error (.inl rfl)

private theorem counterpart_ok {ports : PortMap} {port port' : Port} :
    counterpart ports port = .ok port' ↔ ports.lookup port = some port' := by
  unfold counterpart
  cases ports.lookup port with
  | none => simp
  | some found => simp

/-- A refinement names the counterparts of what the map names. -/
private theorem refine_names {passes : Nat} (done : map.refine passes = .ok next) :
    ∃ ports, map.model.refine passes = .ok (next.model, ports) ∧
      Named next.model next.inputs next.outputs ∧
      List.Forall₂ (fun input input' : String × NodeId => input'.1 = input.1 ∧ ∃ port',
        ports.lookup { node := input.2, output := 0 } = some port' ∧ input'.2 = port'.node)
        map.inputs next.inputs ∧
      List.Forall₂ (fun output output' : String × Port => output'.1 = output.1 ∧
        ports.lookup output.2 = some output'.2) map.outputs next.outputs := by
  obtain ⟨⟨model, ports⟩, refined, done⟩ := bind_eq_ok.mp done
  obtain ⟨inputs, first, done⟩ := bind_eq_ok.mp done
  obtain ⟨outputs, second, done⟩ := bind_eq_ok.mp done
  obtain ⟨named, rfl⟩ := ofModel_ok.mp done
  refine ⟨ports, refined, named, (mapM_forall₂.mp first).imp ?_, (mapM_forall₂.mp second).imp ?_⟩
  · rintro ⟨name, id⟩ _ found
    obtain ⟨port', followed, ⟨⟩⟩ := bind_eq_ok.mp found
    exact ⟨rfl, port', counterpart_ok.mp followed, rfl⟩
  · rintro ⟨name, port⟩ _ found
    obtain ⟨port', followed, ⟨⟩⟩ := bind_eq_ok.mp found
    exact ⟨rfl, counterpart_ok.mp followed⟩

private theorem eq_of_forall₂ {α : Type} {related : α → α → Prop} {first second : List α}
    (all : List.Forall₂ related first second) (same : ∀ left right, related left right →
      right = left) : second = first := by
  induction all with
  | nil => rfl
  | cons head _ ih => rw [same _ _ head, ih]

/-- Without a pass the map stays as it is. -/
private theorem refine_zero (connected : map.model.Connected) (done : map.refine 0 = .ok next) :
    next = map := by
  obtain ⟨ports, refined, -, inputs, outputs⟩ := refine_names done
  have same := (Model.refine_zero connected).symm.trans refined
  simp only [Except.ok.injEq, Prod.mk.injEq] at same
  obtain ⟨model', rfl⟩ := same
  have inputs' : next.inputs = map.inputs := by
    refine eq_of_forall₂ inputs fun input input' same => ?_
    obtain ⟨name, port', found, number⟩ := same
    obtain ⟨rfl, -⟩ := Model.lookup_samePorts.mp found
    exact Prod.ext name number
  have outputs' : next.outputs = map.outputs := by
    refine eq_of_forall₂ outputs fun output output' same => ?_
    exact Prod.ext same.1 (Model.lookup_samePorts.mp same.2).1
  obtain ⟨model, _, _⟩ := map
  obtain ⟨_, _, _⟩ := next
  cases model'
  cases inputs'
  cases outputs'
  rfl

theorem inputSpec_ok {model : Model} {name : String} {id : NodeId} {spec : PortSpec} :
    inputSpec model name id = .ok spec ↔
      inputNode? model id = some (spec.dtype, spec.shape) ∧ spec.name = name := by
  unfold inputSpec
  obtain ⟨specName, dtype, shape⟩ := spec
  cases inputNode? model id with
  | none => simp
  | some found =>
      obtain ⟨type, sizes⟩ := found
      simp only [Except.ok.injEq, PortSpec.mk.injEq, Option.some.injEq, Prod.mk.injEq]
      tauto

/-- An input and its counterpart have one type and shape. -/
private theorem inputSpec_counterpart {model target : Model} (connected : model.Connected)
    (connected' : target.Connected) {id : NodeId} {port' : Port} {name : String}
    {spec spec' : PortSpec}
    (counterpart : Rebuilding.Counterpart model target { node := id, output := 0 } port')
    (found : inputSpec model name id = .ok spec)
    (found' : inputSpec target name port'.node = .ok spec') : spec' = spec := by
  obtain ⟨input, rfl⟩ := inputSpec_ok.mp found
  obtain ⟨input', name'⟩ := inputSpec_ok.mp found'
  obtain ⟨node, here, outputs, -⟩ := connected.input input
  obtain ⟨node', here', outputs', -⟩ := connected'.input input'
  obtain ⟨output, output', known, known', typed, sized⟩ := counterpart
  obtain ⟨_, same, first⟩ := Model.outputPort_ok.mp known
  obtain ⟨_, same', first'⟩ := Model.outputPort_ok.mp known'
  cases here.symm.trans same
  cases here'.symm.trans same'
  rw [outputs] at first
  rw [outputs'] at first'
  cases first
  obtain rfl := List.mem_singleton.mp (List.mem_of_getElem? first')
  obtain ⟨_, _, _⟩ := spec
  obtain ⟨_, _, _⟩ := spec'
  cases typed
  cases sized
  cases name'
  rfl

/-- The inputs of a refined map have the types and shapes of those of the map. -/
private theorem specs_same {model target : Model} (connected : model.Connected)
    (connected' : target.Connected) {ports : PortMap}
    (sound : ∀ port port', ports.lookup port = some port' →
      Rebuilding.Counterpart model target port port')
    {inputs inputs' : List (String × NodeId)}
    (same : List.Forall₂ (fun input input' : String × NodeId => input'.1 = input.1 ∧ ∃ port',
      ports.lookup { node := input.2, output := 0 } = some port' ∧ input'.2 = port'.node)
      inputs inputs')
    (all : ∀ input ∈ inputs, ∃ spec, inputSpec model input.1 input.2 = .ok spec)
    (all' : ∀ input ∈ inputs', ∃ spec, inputSpec target input.1 input.2 = .ok spec) :
    (inputs'.mapM fun (name, id) => inputSpec target name id) =
      inputs.mapM fun (name, id) => inputSpec model name id := by
  induction same with
  | nil => rfl
  | @cons input input' rest rest' head _ ih =>
      obtain ⟨port', mapped, place⟩ := head.2
      obtain ⟨spec, found⟩ := all input List.mem_cons_self
      obtain ⟨spec', found'⟩ := all' input' List.mem_cons_self
      obtain ⟨name, id⟩ := input
      obtain ⟨name', id'⟩ := input'
      obtain rfl : name' = name := head.1
      obtain rfl : id' = port'.node := place
      have first : inputSpec target name' port'.node = inputSpec model name' id := by
        rw [found, found', inputSpec_counterpart connected connected' (sound _ _ mapped) found
          found']
      have others := ih (fun input member => all input (List.mem_cons_of_mem _ member))
        fun input member => all' input (List.mem_cons_of_mem _ member)
      rw [List.mapM_cons, List.mapM_cons, others]
      dsimp only
      rw [first]

theorem SameAnswer.mono {step ports : PortMap} (known : ∀ port, ports.lookup port = step.lookup port)
    {answer answer' : Except Fault (List (List Float))} (same : SameAnswer step answer answer') :
    SameAnswer ports answer answer' := by
  cases same with
  | ok rows => exact .ok rows
  | error alike =>
      rcases alike with rfl | ⟨id, id', named, rfl, rfl⟩
      · exact .error (.inl rfl)
      · exact .error (.inr ⟨id, id', (known _).trans named, rfl, rfl⟩)

/-- A map without batch normalizations, in any state, and its refinement answer every call alike,
the numbers as they are.  Only the complaint of an input node that was not fed has the name that
the node has in its own model. -/
theorem refine_answers {model : Model} (reachable : model.Reachable)
    (simple : ∀ node ∈ model.nodes, node.kind ≠ .batchNormalization)
    {inputs : List (String × NodeId)} {outputs : List (String × Port)}
    (made : ofModel model inputs outputs = .ok map) (passes : Nat)
    (done : map.refine passes = .ok next) :
    ∃ ports, model.refine passes = .ok (next.model, ports) ∧
      ∀ calls, List.Forall₂ (SameAnswer ports) (map.answers calls) (next.answers calls) := by
  obtain ⟨named, rfl⟩ := ofModel_ok.mp made
  have connected := reachable.connected
  obtain ⟨ports, refined, named', inputs', outputs'⟩ := refine_names done
  refine ⟨ports, refined, fun calls => ?_⟩
  cases passes with
  | zero =>
      obtain rfl := refine_zero connected done
      exact List.forall₂_same.mpr fun answer _ => .refl ports answer
  | succ passes =>
      have refinable : ∀ node ∈ model.nodes, node.operation.Refinable := by
        intro node member
        have kind := simple node member
        unfold Node.kind at kind
        cases operation : node.operation with
        | batchNormalization statistics => exact (kind (operation ▸ rfl)).elim
        | _ => trivial
      obtain ⟨_, _, refined', whole⟩ := Model.refine_succ connected refinable passes
      cases refined'.symm.trans refined
      obtain ⟨step, rebuilds, known⟩ := whole.rebuilds
      have expands : Expands { model := model, inputs := inputs, outputs := outputs } next step := by
        refine ⟨⟨rebuilds, simple, ?_⟩, inputs'.imp ?_, outputs'.imp ?_, ?_⟩
        · intro node member
          obtain ⟨id, here⟩ := List.mem_iff_getElem?.mp member
          exact (connected.shaped here).outputs_pos
        · rintro input ⟨name, id⟩ ⟨-, ⟨place, number⟩, mapped, rfl⟩
          rw [known] at mapped
          obtain rfl : number = 0 := (rebuilds.apart .nil).number _ _ mapped
          exact mapped
        · rintro output output' ⟨-, mapped⟩
          exact known _ ▸ mapped
        · exact specs_same connected whole.reachable.connected whole.sound inputs' named.inputs
            named'.inputs
      exact (expands.answers calls).imp fun _ _ same => same.mono known

/-- The case of a dense layer, which has three nodes in its place. -/
theorem refine_answers_dense : ∃ map next : Map, map.refine 1 = .ok next ∧
    map.model.size = 2 ∧ next.model.size = 4 ∧
    ∃ ports, ∀ calls, List.Forall₂ (SameAnswer ports) (map.answers calls) (next.answers calls) := by
  have input := Model.Reachable.empty.add
    (rfl : Model.empty.add (.input .f32 [1]) [] = .ok (_, 0))
  have dense := input.add
    (rfl : Model.add _
      (.denseLayer { units := 0, weights := [], bias := [], function := .relu })
      [{ node := 0, output := 0 }] = .ok (_, 1))
  obtain ⟨ports, -, alike⟩ := refine_answers dense (by decide)
    (rfl : ofModel _ [("x", 0)] [("y", { node := 1, output := 0 })] = .ok _) 1 rfl
  exact ⟨_, _, rfl, rfl, rfl, ports, alike⟩

/-- The complaints about one node are not the same. -/
theorem refine_answers_unfed : ∃ (model : Model) (map next : Map), model.Reachable ∧
    (∀ node ∈ model.nodes, node.kind ≠ .batchNormalization) ∧
    ofModel model [("x", 0)] [("y", { node := 1, output := 0 })] = .ok map ∧
    map.refine 1 = .ok next ∧ map.answers [.compute [[]]] = [.error (unfed 2)] ∧
    next.answers [.compute [[]]] = [.error (unfed 4)] ∧
    next.answers [.compute [[]]] ≠ map.answers [.compute [[]]] := by
  have input := Model.Reachable.empty.add
    (rfl : Model.empty.add (.input .f32 [0]) [] = .ok (_, 0))
  have dense := input.add
    (rfl : Model.add _
      (.denseLayer { units := 0, weights := [], bias := [], function := .relu })
      [{ node := 0, output := 0 }] = .ok (_, 1))
  have other := dense.add (rfl : Model.add _ (.input .f32 [1]) [] = .ok (_, 2))
  refine ⟨_, _, _, other, by decide, rfl, rfl, rfl, rfl, ?_⟩
  change [Except.error (unfed 4)] ≠ [Except.error (unfed 2)]
  simp [unfed, nodeText]

end Map
end TensorGraph

/-
The memory of a model around a run.

A run starts on a heap that holds the memory of the nodes and the feeds, one
storage after the other.  It may fail at any moment; in each case the nodes of
the model stay what they were, and what they remember keeps its types and sizes.
-/

import TensorGraph.Proofs.Graph.Connect
import TensorGraph.Proofs.Graph.Running
import TensorGraph.Proofs.Heap
import TensorGraph.Proofs.Kernel.Twins

namespace TensorGraph

/-! ### Storages put in place -/

/-- The value that is the whole of one storage. -/
def Storage.handle (storage : Storage) (name : Nat) : Value :=
  { dtype? := some storage.dtype
    layout? := some (Layout.packed [storage.size])
    place := .host name 0 }

/-- The values of storages that stand one after the other. -/
def handles : Nat → List Storage → List Value
  | _, [] => []
  | name, storage :: rest => storage.handle name :: handles (name + 1) rest

/-- The values of the memory of nodes that stand one after the other. -/
def memoryHandles : Nat → List (List Storage) → List (List Value)
  | _, [] => []
  | name, state :: rest => handles name state :: memoryHandles (name + state.length) rest

theorem handles_append (name : Nat) (first second : List Storage) :
    handles name (first ++ second) = handles name first ++ handles (name + first.length) second := by
  induction first generalizing name with
  | nil => rfl
  | cons storage rest ih =>
      rw [List.cons_append, handles, handles, ih, List.length_cons, Nat.add_right_comm]
      rfl

theorem memoryHandles_flatten (name : Nat) (memory : List (List Storage)) :
    (memoryHandles name memory).flatten = handles name memory.flatten := by
  induction memory generalizing name with
  | nil => rfl
  | cons state rest ih =>
      rw [memoryHandles, List.flatten_cons, List.flatten_cons, ih, handles_append]

theorem handles_of_sameShape {first second : List Storage}
    (shapes : List.Forall₂ Storage.SameShape first second) (name : Nat) :
    handles name first = handles name second := by
  induction shapes generalizing name with
  | nil => rfl
  | cons shape _ ih =>
      rw [handles, handles, ih, Storage.handle, Storage.handle, shape.1, shape.2]

theorem memoryHandles_of_sameShape {first second : List (List Storage)}
    (shapes : List.Forall₂ (List.Forall₂ Storage.SameShape) first second) (name : Nat) :
    memoryHandles name first = memoryHandles name second := by
  induction shapes generalizing name with
  | nil => rfl
  | cons shape _ ih =>
      rw [memoryHandles, memoryHandles, ih, handles_of_sameShape shape, shape.length_eq]

theorem contents_handles (heap : Heap) (name : Nat) (storages : List Storage) :
    (handles name storages).map (contents heap) = heap.row name storages.length := by
  induction storages generalizing name with
  | nil => rfl
  | cons storage rest ih =>
      rw [handles, List.map_cons, ih, List.length_cons, Heap.row_succ]
      rfl

theorem placeAll_eq (heap : Heap) (storages : List Storage) :
    placeAll storages heap = .ok (handles heap.next storages) (heap.addAll storages) := by
  induction storages generalizing heap with
  | nil => rfl
  | cons storage rest ih =>
      refine Action.bind_ok.mpr ⟨storage.handle heap.next, heap.add storage, rfl, ?_⟩
      refine Action.bind_ok.mpr ⟨_, _, ih (heap.add storage), ?_⟩
      rw [Heap.next_add]
      rfl

theorem placeMemory_eq (heap : Heap) (memory : List (List Storage)) :
    placeMemory memory heap =
      .ok (memoryHandles heap.next memory) (heap.addAll memory.flatten) := by
  induction memory generalizing heap with
  | nil => rfl
  | cons state rest ih =>
      refine Action.bind_ok.mpr ⟨_, _, placeAll_eq heap state, ?_⟩
      refine Action.bind_ok.mpr ⟨_, _, ih (heap.addAll state), ?_⟩
      rw [Heap.next_addAll, List.flatten_cons]
      unfold Heap.addAll
      rw [List.foldl_append]
      rfl

/-- The value is the whole of one storage of the heap. -/
def Holds (heap : Heap) (storage : Storage) (value : Value) : Prop :=
  ∃ name, value = storage.handle name ∧ name < heap.next ∧ heap.storage name = storage

theorem Holds.addAll {heap : Heap} {storage : Storage} {value : Value}
    (holds : Holds heap storage value) (storages : List Storage) :
    Holds (heap.addAll storages) storage value := by
  obtain ⟨name, rfl, known, same⟩ := holds
  refine ⟨name, rfl, ?_, (Heap.storage_addAll_of_lt known).trans same⟩
  rw [Heap.next_addAll]
  omega

theorem handles_hold (heap : Heap) (storages : List Storage) :
    List.Forall₂ (Holds (heap.addAll storages)) storages (handles heap.next storages) := by
  induction storages generalizing heap with
  | nil => exact .nil
  | cons storage rest ih =>
      have first : Holds (heap.add storage) storage (storage.handle heap.next) :=
        ⟨heap.next, rfl, by rw [Heap.next_add]; omega, Heap.storage_add_self heap storage⟩
      refine .cons (first.addAll rest) ?_
      have others := ih (heap.add storage)
      rw [Heap.next_add] at others
      exact others

theorem memoryHandles_hold (heap : Heap) (memory : List (List Storage)) :
    List.Forall₂ (List.Forall₂ (Holds (heap.addAll memory.flatten))) memory
      (memoryHandles heap.next memory) := by
  induction memory generalizing heap with
  | nil => exact .nil
  | cons state rest ih =>
      have others := ih (heap.addAll state)
      have joined : (heap.addAll state).addAll rest.flatten =
          heap.addAll (state :: rest).flatten := by
        unfold Heap.addAll
        rw [List.flatten_cons, List.foldl_append]
      rw [joined, Heap.next_addAll] at others
      exact .cons ((handles_hold heap state).imp fun _ _ holds => joined ▸ holds.addAll _) others

/-- The value does not name storages that the heap does not have. -/
def Value.Within (heap : Heap) (value : Value) : Prop :=
  ∀ name base, value.place = .host name base → name < heap.next

theorem Holds.within {heap : Heap} {storage : Storage} {value : Value}
    (holds : Holds heap storage value) : value.Within heap := by
  obtain ⟨name, rfl, known, -⟩ := holds
  rintro _ _ ⟨⟩
  exact known

/-- Feeds add one storage each. -/
theorem placeFeeds_ok {feeds : List Feed} {known values : FeedValues} {heap later : Heap}
    (placed : placeFeeds feeds known heap = .ok values later)
    (within : ∀ entry ∈ known, entry.2.Within heap) :
    later = heap.addAll (feeds.map Feed.data) ∧ ∀ entry ∈ values, entry.2.Within later := by
  induction feeds generalizing known heap with
  | nil =>
      obtain ⟨rfl, rfl⟩ := Action.pure_ok.mp placed
      exact ⟨rfl, within⟩
  | cons feed rest ih =>
      obtain ⟨value, middle, first, placed⟩ := Action.bind_ok.mp placed
      obtain ⟨_, _, checked, first⟩ := Action.bind_ok.mp first
      obtain ⟨-, rfl⟩ := Action.ofExcept_ok.mp checked
      obtain ⟨name, _, added, made⟩ := Action.bind_ok.mp first
      cases added
      obtain ⟨rfl, rfl⟩ := Action.pure_ok.mp made
      refine ih placed ?_
      rintro entry member
      rcases List.mem_cons.mp member with rfl | member
      · rintro _ _ ⟨⟩
        rw [Heap.next_add]
        omega
      · intro name base same
        have before := within entry member name base same
        rw [Heap.next_add]
        omega

/-- Feeds add storages, also when one of them does not fit. -/
theorem placeFeeds_grows (feeds : List Feed) (known : FeedValues) (heap : Heap) :
    heap.Grows (Action.last (placeFeeds feeds known heap)) := by
  induction feeds generalizing known heap with
  | nil => exact .refl heap
  | cons feed rest ih =>
      unfold placeFeeds Value.ofStorage
      simp only [bind_assoc]
      cases Value.checkFits feed.layout 0 feed.data.size with
      | error cause => exact .refl heap
      | ok _ => exact (Heap.Grows.add heap feed.data).trans (ih _ _)

/-! ### One run -/

namespace Model

/-- The heap that a run starts on, before the feeds are put in place. -/
def placed (model : Model) : Heap :=
  Heap.empty.addAll model.memory.flatten

/-- The values of the memory of every node on that heap. -/
def placedState (model : Model) : List (List Value) :=
  memoryHandles 0 model.memory

/-- The model with what a run left in the memory of its nodes. -/
def remembering (model : Model) (heap : Heap) : Model :=
  model.withMemory (model.placedState.map fun values => values.map (contents heap))

theorem memory_withMemory (model : Model) {memory : List (List Storage)}
    (full : memory.length = model.nodes.length) : (model.withMemory memory).memory = memory := by
  unfold Model.withMemory Model.memory
  generalize model.nodes = nodes at full
  induction nodes generalizing memory with
  | nil => exact (List.length_eq_zero_iff.mp full).symm
  | cons node rest ih =>
      cases memory with
      | nil => cases full
      | cons state others => exact congrArg (_ :: ·) (ih (Nat.succ.inj full))

theorem memory_reset (model : Model) :
    model.reset.memory.flatten = model.memory.flatten.map Storage.cleared := by
  unfold Model.reset Model.memory
  rw [List.map_flatten, List.map_map, List.map_map]
  rfl

theorem length_placedState (model : Model) : model.placedState.length = model.nodes.length :=
  (memoryHandles_hold Heap.empty model.memory).length_eq.symm.trans (List.length_map _)

/-- What the nodes remember are the storages that they stood in, one after the other. -/
theorem memory_remembering (model : Model) (heap : Heap) :
    (model.remembering heap).memory.flatten = heap.row 0 model.memory.flatten.length := by
  rw [remembering, memory_withMemory _ ((List.length_map _).trans model.length_placedState),
    ← List.map_flatten, placedState, memoryHandles_flatten, contents_handles]

/-- A host run that starts on a heap. -/
def started (heap : Heap) : HostState Unit :=
  { heap := heap
    operations := 0
    scratch := () }

/-- How a run on the host can go. -/
theorem compute_cases (model : Model) (feeds : List Feed) :
    (∃ fault heap, placeFeeds feeds [] model.placed = .error fault heap ∧
      Model.compute feeds model = .error fault model) ∨
    ∃ known heap, placeFeeds feeds [] model.placed = .ok known heap ∧
      ((∃ fault final,
        (model.run model.placedState known : Host Unit PortValues) (started heap) =
          .error fault final ∧
        Model.compute feeds model = .error fault (model.remembering final.heap)) ∨
      ∃ values final,
        (model.run model.placedState known : Host Unit PortValues) (started heap) =
          .ok values final ∧
        Model.compute feeds model =
          .ok
            { values := values
              heap := final.heap
              operations := final.operations }
            (model.remembering final.heap)) := by
  have memory := placeMemory_eq Heap.empty model.memory
  unfold Model.compute
  dsimp only
  cases fed : placeFeeds feeds [] model.placed with
  | error fault heap =>
      have prepared : (do
          let state ← placeMemory model.memory
          return (state, ← placeFeeds feeds []) : Action Heap (List (List Value) × FeedValues))
            Heap.empty = .error fault heap :=
        Action.bind_error.mpr (.inr ⟨_, _, memory, Action.bind_error.mpr (.inl fed)⟩)
      rw [prepared]
      exact .inl ⟨fault, heap, rfl, rfl⟩
  | ok known heap =>
      have prepared : (do
          let state ← placeMemory model.memory
          return (state, ← placeFeeds feeds []) : Action Heap (List (List Value) × FeedValues))
            Heap.empty = .ok (model.placedState, known) heap :=
        Action.bind_ok.mpr ⟨_, _, memory, Action.bind_ok.mpr ⟨known, heap, fed, rfl⟩⟩
      rw [prepared]
      refine .inr ⟨known, heap, rfl, ?_⟩
      dsimp only
      cases ran : (model.run model.placedState known : Host Unit PortValues) (started heap) with
      | error fault final =>
          refine .inl ⟨fault, final, rfl, ?_⟩
          have ran' : (model.run model.placedState known : Host Unit PortValues).run
              { heap := heap, operations := 0, scratch := () } = .error fault final := ran
          rw [ran']
          rfl
      | ok values final =>
          refine .inr ⟨values, final, rfl, ?_⟩
          have ran' : (model.run model.placedState known : Host Unit PortValues).run
              { heap := heap, operations := 0, scratch := () } = .ok values final := ran
          rw [ran']
          rfl

end Model

/-! ### What stays through a run -/

/-- Every storage of a heap is its own twin. -/
def Twins.whole (renamed : NodeId → NodeId → Prop) (heap : Heap) : Twins renamed :=
  { paired := fun name name' dtype size =>
      name' = name ∧ name < heap.next ∧ dtype = (heap.storage name).dtype ∧
        size = (heap.storage name).size }

theorem Twins.whole_agrees (renamed : NodeId → NodeId → Prop) (heap : Heap) :
    (whole renamed heap).Agrees heap heap := by
  refine ⟨?_, ?_, ?_, ?_⟩
  · rintro name _ _ _ ⟨rfl, known, -, -⟩
    exact ⟨known, known⟩
  · rintro name _ _ _ ⟨rfl, -, rfl, rfl⟩
    exact ⟨rfl, rfl, rfl⟩
  · rintro name _ _ _ _ _ _ ⟨rfl, -⟩ ⟨rfl, -⟩
    rfl
  · rintro _ _ name _ _ _ _ ⟨rfl, -⟩ ⟨rfl, -⟩
    rfl

theorem Twins.whole_alike {renamed : NodeId → NodeId → Prop} {heap : Heap} {value : Value}
    (within : value.Within heap) : (whole renamed heap).Alike value value := by
  refine ⟨rfl, rfl, ?_⟩
  obtain ⟨dtype?, layout?, place⟩ := value
  cases place with
  | unbound => exact .unbound
  | emitted register => exact .emitted register
  | host name base => exact .host base ⟨rfl, within name base rfl, rfl, rfl⟩

/-- Wherever two runs that go alike end, the heaps still hold the same data. -/
theorem Twins.Relates.last {renamed : NodeId → NodeId → Prop} {ρ σ α β : Type}
    {world : Twins renamed} {left : Host ρ α} {right : Host σ β}
    {post : Twins renamed → α → β → Prop} (alike : world.Relates left right post)
    (state : HostState ρ) (state' : HostState σ) (agrees : world.Agrees state.heap state'.heap) :
    ∃ later, world.Later later ∧
      later.Agrees (Action.last (left state)).heap (Action.last (right state')).heap := by
  obtain ⟨done, failed⟩ := alike state state' agrees
  cases ran : left state with
  | ok answer after =>
      obtain ⟨later, answer', after', same, growing, agrees', -⟩ := done answer after ran
      rw [same]
      exact ⟨later, growing, agrees'⟩
  | error fault after =>
      obtain ⟨later, fault', after', same, growing, agrees', -⟩ := failed fault after ran
      rw [same]
      exact ⟨later, growing, agrees'⟩

namespace Model

/-- A later state of a node: nothing but the data in its memory is other. -/
def AgedNode (node later : Node) : Prop :=
  ∃ state, later = { node with state := state } ∧
    List.Forall₂ Storage.SameShape node.state state

/-- A later state of a model. -/
def Aged (model later : Model) : Prop :=
  List.Forall₂ AgedNode model.nodes later.nodes

theorem Aged.refl (model : Model) : model.Aged model :=
  List.forall₂_same.mpr fun node _ =>
    ⟨node.state, rfl, List.forall₂_same.mpr fun _ _ => ⟨rfl, rfl⟩⟩

theorem shapes_trans {first second third : List Storage}
    (one : List.Forall₂ Storage.SameShape first second)
    (two : List.Forall₂ Storage.SameShape second third) :
    List.Forall₂ Storage.SameShape first third := by
  induction one generalizing third with
  | nil => exact two
  | cons head _ ih =>
      cases two with
      | cons head' tail' =>
          exact .cons ⟨head'.1.trans head.1, head'.2.trans head.2⟩ (ih tail')

private theorem agedNode_trans {node middle later : Node} (one : AgedNode node middle)
    (two : AgedNode middle later) : AgedNode node later := by
  obtain ⟨state, rfl, shapes⟩ := one
  obtain ⟨state', rfl, shapes'⟩ := two
  exact ⟨state', rfl, shapes_trans shapes shapes'⟩

theorem Aged.trans {model middle later : Model} (one : model.Aged middle)
    (two : middle.Aged later) : model.Aged later := by
  unfold Aged at one two ⊢
  generalize model.nodes = nodes, middle.nodes = nodes', later.nodes = nodes'' at *
  induction one generalizing nodes'' with
  | nil => exact two
  | cons head _ ih =>
      cases two with
      | cons head' tail' => exact .cons (agedNode_trans head head') (ih _ tail')

theorem reset_aged (model : Model) : model.Aged model.reset := by
  unfold Aged reset
  rw [List.forall₂_map_right_iff]
  refine List.forall₂_same.mpr fun node _ => ⟨_, rfl, ?_⟩
  rw [List.forall₂_map_right_iff]
  exact List.forall₂_same.mpr fun storage _ => ⟨rfl, Array.size_replicate⟩

theorem Aged.node? {model later : Model} (aged : model.Aged later) (id : NodeId) :
    Option.Rel AgedNode (model.node? id) (later.node? id) :=
  Correspondence.rel_getElem? aged id

theorem Aged.outputPort {model later : Model} (aged : model.Aged later) (port : Port) :
    later.outputPort port = model.outputPort port := by
  unfold Model.outputPort
  have known := aged.node? port.node
  generalize model.node? port.node = node? at *
  generalize later.node? port.node = node?' at *
  cases known with
  | none => rfl
  | some same =>
      obtain ⟨state, rfl, -⟩ := same
      rfl

theorem Aged.operations {model later : Model} (aged : model.Aged later) :
    later.nodes.map Node.operation = model.nodes.map Node.operation := by
  unfold Aged at aged
  generalize model.nodes = nodes, later.nodes = nodes' at *
  induction aged with
  | nil => rfl
  | cons head _ ih =>
      obtain ⟨state, rfl, -⟩ := head
      rw [List.map_cons, List.map_cons, ih]

theorem Aged.reads {model later : Model} (aged : model.Aged later) {input : InputPort}
    (reads : model.Reads input) : later.Reads input := by
  unfold Reads inputFrom at reads ⊢
  rw [aged.outputPort]
  exact reads

theorem Aged.before {model later : Model} (aged : model.Aged later) (id : NodeId) :
    (model.before id).Aged (later.before id) :=
  List.forall₂_take id aged

theorem Aged.connected {model later : Model} (aged : model.Aged later)
    (connected : model.Connected) : later.Connected := by
  intro id node found
  have known := aged.node? id
  unfold Model.node? at known
  rw [found] at known
  cases here : model.nodes[id]? with
  | none =>
      rw [here] at known
      cases known
  | some old =>
      rw [here] at known
      cases known with
      | some same =>
      obtain ⟨state, rfl, shapes⟩ := same
      obtain ⟨fresh, done, shapes'⟩ := connected id old here
      have made := made_of_connect done
      have again := made.elsewhere (later.before id) old.inputs
        (List.forall₂_same.mpr fun _ _ => ⟨rfl, rfl, rfl⟩) fun input member =>
          (aged.before id).reads (made.reads input member)
      exact ⟨fresh, again, shapes_trans shapes' shapes⟩

private theorem withMemory_aged {heap final : Heap}
    (kept : ∀ storage value, Holds heap storage value → storage.SameShape (contents final value))
    {nodes : List Node} {state : List (List Value)}
    (held : List.Forall₂ (List.Forall₂ (Holds heap)) (nodes.map Node.state) state) :
    List.Forall₂ AgedNode nodes
      (List.zipWith (fun node state => { node with state := state }) nodes
        (state.map fun values => values.map (contents final))) := by
  induction nodes generalizing state with
  | nil => exact .nil
  | cons node rest ih =>
      cases held with
      | cons head tail =>
          refine .cons ⟨_, rfl, ?_⟩ (ih tail)
          rw [List.forall₂_map_right_iff]
          exact head.imp kept

theorem remembering_aged (model : Model) (final : Heap)
    (kept : ∀ storage value, Holds model.placed storage value →
      storage.SameShape (contents final value)) : model.Aged (model.remembering final) :=
  withMemory_aged kept (memoryHandles_hold Heap.empty model.memory)

/-- All memory of the nodes has its own storages. -/
theorem placedState_holds (model : Model) {state : List Value} (member : state ∈ model.placedState)
    {value : Value} (inside : value ∈ state) : ∃ storage, Holds model.placed storage value := by
  obtain ⟨storages, -, held⟩ := partner_of_mem (memoryHandles_hold Heap.empty model.memory) member
  obtain ⟨storage, -, holds⟩ := partner_of_mem held inside
  exact ⟨storage, holds⟩

/-- The run of a model leaves all storages of the heap that it started on their types and
sizes. -/
theorem run_keeps (model : Model) {known : FeedValues} {storages : List Storage} {heap : Heap}
    (same : heap = model.placed.addAll storages)
    (within : ∀ entry ∈ known, entry.2.Within heap) {name : Nat} (below : name < heap.next) :
    (heap.storage name).SameShape ((Action.last
      ((model.run model.placedState known : Host Unit PortValues) (started heap))).heap.storage
        name) := by
  have kept : List.Forall₂ (List.Forall₂ (Twins.whole Eq heap).Alike) model.placedState
      model.placedState := by
    rw [same]
    refine List.forall₂_same.mpr fun state member => List.forall₂_same.mpr fun value inside => ?_
    obtain ⟨storage, holds⟩ := model.placedState_holds member inside
    exact Twins.whole_alike (holds.addAll storages).within
  have fed : (twins _ Unit Unit).SameValues (Twins.whole Eq heap) known known :=
    List.forall₂_same.mpr fun entry member => ⟨rfl, Twins.whole_alike (within entry member)⟩
  have run := (twins _ Unit Unit).model_run model kept fed
  obtain ⟨later, growing, agrees⟩ := Twins.Relates.last run (started heap) (started heap)
    (Twins.whole_agrees Eq heap)
  obtain ⟨-, typed, sized⟩ := agrees.same _ _ _ _ (growing _ _ _ _ ⟨rfl, below, rfl, rfl⟩)
  exact ⟨typed, sized⟩

theorem compute_aged (model : Model) (feeds : List Feed) :
    model.Aged (Action.last (Model.compute feeds model)) := by
  have kept : ∀ known heap, placeFeeds feeds [] model.placed = .ok known heap →
      model.Aged (model.remembering (Action.last
        ((model.run model.placedState known : Host Unit PortValues) (started heap))).heap) := by
    intro known heap placed
    obtain ⟨same, within⟩ := placeFeeds_ok placed (by simp)
    apply remembering_aged
    intro storage value holds
    obtain ⟨name, rfl, below, here⟩ := same ▸ holds.addAll (feeds.map Feed.data)
    have shape := run_keeps model same within below
    rw [here] at shape
    exact shape
  rcases model.compute_cases feeds with
    ⟨fault, heap, -, same⟩ | ⟨known, heap, placed, ⟨fault, final, ran, same⟩ | ⟨values, final, ran, same⟩⟩
  · rw [same]
    exact .refl model
  · have aged := kept known heap placed
    rw [ran] at aged
    rw [same]
    exact aged
  · have aged := kept known heap placed
    rw [ran] at aged
    rw [same]
    exact aged

end Model
end TensorGraph

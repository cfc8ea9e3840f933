/-
Maps in shared memory, and maps by themselves.

A map whose nodes hold their numbers in a heap computes what it would compute by
itself, and it writes to no storage that the heap had before but to the memory of
its own nodes.
-/

import TensorGraph.Graph.Hosted
import TensorGraph.Proofs.Graph.Answers
import TensorGraph.Proofs.Graph.Placing
import TensorGraph.Proofs.Kernel.Beside

namespace TensorGraph

/-! ### Nodes -/

/-- The parameters of a node stand in the heap, and the frame leaves them alone. -/
structure Frame.Supplies (frame : Frame) (node : Node) (parameters : List Value) : Prop where
  full : ∀ parameter ∈ node.parameters, parameter.Full
  held : List.Forall₂ (Parameter.Held frame.heap) node.parameters parameters
  distinct : (namesOf parameters).Nodup
  reserved : ∀ name ∈ namesOf parameters, ¬ frame.free name

namespace Frame.Holds

variable {frame : Frame} {ρ : Type}

theorem allocateOutputs (rows : List OutputPort) :
    frame.Holds (TensorGraph.allocateOutputs rows : Host ρ (List Value))
      fun outputs => ∀ output ∈ outputs, frame.Free output := by
  induction rows with
  | nil => exact pure nofun
  | cons row rest ih =>
      refine bind (fresh _ _ _) fun output free => bind ih fun outputs others => ?_
      exact pure (List.forall_mem_cons.mpr ⟨free, others⟩)

/-- A node writes to its memory and to its outputs. -/
theorem runOn (id : NodeId) (node : Node) (parameters inputs : List Value)
    {state outputs : List Value} (kept : ∀ value ∈ state, frame.Free value)
    (written : ∀ value ∈ outputs, frame.Free value) :
    frame.Holds (node.runOn id parameters state inputs outputs : Host ρ Unit) fun _ => True := by
  have goes : (framed ρ frame).Relates ()
      (node.runOn id parameters state inputs outputs : Host ρ Unit)
      (node.runOn id parameters state inputs outputs : Host ρ Unit) fun _ _ _ => True :=
    (framed ρ frame).runOn (.self id node inputs) (List.forall₂_same.mpr fun _ _ => rfl)
      (List.forall₂_same.mpr fun value member => ⟨rfl, kept value member⟩)
      (List.forall₂_same.mpr fun _ _ => rfl)
      (List.forall₂_same.mpr fun value member => ⟨rfl, written value member⟩)
  exact Frame.Holds.weaken goes fun _ _ => trivial

theorem run (id : NodeId) (node : Node) (inputs : List Value) {state outputs : List Value}
    (kept : ∀ value ∈ state, frame.Free value) (written : ∀ value ∈ outputs, frame.Free value) :
    frame.Holds (node.run id state inputs outputs : Host ρ Unit) fun _ => True := by
  have goes : (framed ρ frame).Relates () (node.run id state inputs outputs : Host ρ Unit)
      (node.run id state inputs outputs : Host ρ Unit) fun _ _ _ => True :=
    (framed ρ frame).run (.self id node inputs)
      (List.forall₂_same.mpr fun value member => ⟨rfl, kept value member⟩)
      (List.forall₂_same.mpr fun _ _ => rfl)
      (List.forall₂_same.mpr fun value member => ⟨rfl, written value member⟩)
  exact Frame.Holds.weaken goes fun _ _ => trivial

end Frame.Holds

namespace Frame.Supplies

variable {frame : Frame} {node : Node} {parameters : List Value}

theorem shut (supplies : frame.Supplies node parameters) :
    ∀ name ∈ namesOf parameters, ¬ frame.Opens name := by
  rintro name member (above | free)
  · exact absurd (Parameter.held_below supplies.held name member) (Nat.not_lt.mpr above)
  · exact supplies.reserved name member free

/-- The parameters still stand there later. -/
theorem later (supplies : frame.Supplies node parameters) {heap : Heap} (kept : frame.Kept heap) :
    List.Forall₂ (Parameter.Held heap) node.parameters parameters :=
  Parameter.held_later supplies.held kept.next fun name member =>
    kept.same name (Parameter.held_below supplies.held name member) (supplies.reserved name member)

theorem apart (supplies : frame.Supplies node parameters) {renamed : NodeId → NodeId → Prop}
    {world : Twins renamed} (clear : world.Clear frame) : world.Apart (namesOf parameters) :=
  fun name' member _ _ _ paired => supplies.shut name' member (clear _ _ _ _ paired)

end Frame.Supplies

namespace Twins.Shadows

variable {renamed : NodeId → NodeId → Prop} {world later : Twins renamed} {frame : Frame}
  {ρ σ : Type}

theorem allocateOutputs (rows : List OutputPort) :
    world.Shadows frame (TensorGraph.allocateOutputs rows : Host ρ (List Value))
      (TensorGraph.allocateOutputs rows : Host σ (List Value))
      fun later => List.Forall₂ later.Alike := by
  refine of_relates ((twins renamed ρ σ).allocateOutputs
      (List.forall₂_same.mpr fun _ _ => ⟨rfl, rfl⟩))
    (fun _ => Frame.Holds.allocateOutputs rows) ?_
  intro later outputs outputs' alike free
  induction alike with
  | nil => exact .nil
  | cons head _ ih =>
      obtain ⟨first, others⟩ := List.forall_mem_cons.mp free
      exact .cons (head.1.clearing first) (ih others)

/-- A node that reads its parameters where they stand, beside one that makes copies of them. -/
theorem node {id : NodeId} {node : Node} {parameters state state' inputs inputs' : List Value}
    {outputs outputs' : List Value} (supplies : frame.Supplies node parameters)
    (kept : List.Forall₂ world.Alike state state')
    (alike : List.Forall₂ world.Alike inputs inputs')
    (written : List.Forall₂ world.Alike outputs outputs') :
    world.Shadows frame (node.run id state inputs outputs : Host ρ Unit)
      (node.runOn id parameters state' inputs' outputs' : Host σ Unit) fun _ _ _ => True := by
  intro before before' agrees clear unchanged
  have held := supplies.later unchanged
  obtain ⟨adopted, adopts, agrees', known⟩ :=
    agrees.adoptAll held supplies.distinct (supplies.apart clear)
  have goes : adopted.Relates
      (node.runOn id (Parameter.handles before.heap.next node.parameters) state inputs outputs :
        Host ρ Unit)
      (node.runOn id parameters state' inputs' outputs' : Host σ Unit) fun _ _ _ => True :=
    (twins renamed ρ σ).runOn (.self id node inputs) known
      (kept.imp fun _ _ same => same.mono adopts.growing)
      (alike.imp fun _ _ same => same.mono adopts.growing)
      (written.imp fun _ _ same => ⟨same.mono adopts.growing, trivial⟩)
  have keeps : frame.Holds (node.runOn id parameters state' inputs' outputs' : Host σ Unit)
      fun _ => True :=
    .runOn id node parameters inputs' (Alike.allFree kept clear) (Alike.allFree written clear)
  have first : (Kernel.onHost (placeParameters node.parameters) : Host ρ (List Value)) before =
      .ok (Parameter.handles before.heap.next node.parameters) (Host.onto before _) :=
    Host.onHeap_ok.mpr ⟨_, placeParameters_eq supplies.full before.heap, rfl⟩
  have copied : (node.run id state inputs outputs : Host ρ Unit) before =
      (node.runOn id (Parameter.handles before.heap.next node.parameters) state inputs outputs :
        Host ρ Unit) (Host.onto before _) := Host.bind_of_ok first
  rw [copied]
  obtain ⟨done, failed⟩ := goes (Host.onto before _) before' agrees'
  have growing {later : Twins renamed} (grown : adopted.Later later) :
      world.Later (later.clearing frame) := clear.later_clearing (adopts.growing.trans grown)
  refine ⟨?_, ?_⟩
  · intro answer after ran
    obtain ⟨later, answer', after', ran', grown, agrees'', -⟩ := done answer after ran
    exact ⟨later.clearing frame, answer', after', ran', growing grown, agrees''.clearing frame,
      clear_clearing later frame, (keeps.done _ _ _ unchanged ran').1, trivial⟩
  · intro fault after ran
    obtain ⟨later, fault', after', ran', grown, agrees'', alike⟩ := failed fault after ran
    exact ⟨later.clearing frame, fault', after', ran', growing grown, agrees''.clearing frame,
      clear_clearing later frame, keeps.failed _ _ _ unchanged ran', alike⟩

/-- A node with its memory, and the node as it stands in the heap. -/
structure Stands (world : Twins renamed) (frame : Frame) (entry : Node × List Value)
    (entry' : Node × Holding) : Prop where
  node : ∃ state, entry.1 = { entry'.1 with state := state }
  supplies : frame.Supplies entry'.1 entry'.2.parameters
  memory : List.Forall₂ world.Alike entry.2 entry'.2.memory

theorem Stands.mono {entry : Node × List Value} {entry' : Node × Holding}
    (stands : Stands world frame entry entry') (growing : world.Later later) :
    Stands later frame entry entry' :=
  ⟨stands.node, stands.supplies, stands.memory.imp fun _ _ same => same.mono growing⟩

/-- The same values under the same names. -/
def SameValues {ι : Type} (world : Twins renamed) : List (ι × Value) → List (ι × Value) → Prop :=
  (twins renamed Unit Unit).SameValues world

theorem runEach {nodes : List (Node × List Value)} {nodes' : List (Node × Holding)}
    {feeds feeds' : FeedValues} {values values' : PortValues} (id : NodeId)
    (stands : List.Forall₂ (Stands world frame) nodes nodes')
    (fed : SameValues world feeds feeds') (found : SameValues world values values') :
    world.Shadows frame (runNodes feeds id nodes values : Host ρ PortValues)
      (TensorGraph.runEach HostedMap.work feeds' id nodes' values' : Host σ PortValues)
      SameValues := by
  induction nodes generalizing world nodes' id values values' with
  | nil =>
      cases stands
      exact pure found
  | cons entry rest ih =>
      cases stands with
      | @cons _ entry' _ rest' head tail =>
      obtain ⟨node, state⟩ := entry
      obtain ⟨node', holding⟩ := entry'
      obtain ⟨⟨remembered, same⟩, supplies, memory⟩ := head
      dsimp only at same supplies memory
      subst same
      -- a run does not look at what a node is said to remember, only at its memory
      have forgets : (runNodes feeds id
          (({ node' with state := remembered }, state) :: rest) values : Host ρ PortValues) =
          runNodes feeds id ((node', state) :: rest) values := rfl
      rw [forgets]
      unfold runNodes TensorGraph.runEach runStep
      simp only [bind_assoc, pure_bind]
      have read : world.Shadows frame (Host.ofExcept (node'.readFrom id values feeds) : Host ρ _)
          (Host.ofExcept (node'.readFrom id values' feeds') : Host σ _)
          fun later => List.Forall₂ later.Alike := ofExcept (found.readFrom fed id)
      apply bind read
      intro one inputs inputs' growing₁ alike
      apply bind (allocateOutputs _)
      intro two outputs outputs' growing₂ written
      have between := growing₁.trans growing₂
      apply bind (Shadows.node supplies (memory.imp fun _ _ same => same.mono between)
        (alike.imp fun _ _ same => same.mono growing₂) written)
      intro three _ _ growing₃ _
      have reached := (growing₁.trans growing₂).trans growing₃
      exact ih (id + 1) (tail.imp fun _ _ stands => stands.mono reached) (fed.mono reached)
        ((found.mono reached).written (written.imp fun _ _ same => same.mono growing₃) _)

theorem placeFeeds (feeds : List Feed) {known known' : FeedValues}
    (same : SameValues world known known') :
    world.Shadows frame (Host.onHeap (TensorGraph.placeFeeds feeds known) : Host ρ FeedValues)
      (Host.onHeap (TensorGraph.placeFeeds feeds known') : Host σ FeedValues) SameValues := by
  induction feeds generalizing world known known' with
  | nil => exact pure same
  | cons feed rest ih =>
      unfold TensorGraph.placeFeeds
      rw [Host.onHeap_bind, Host.onHeap_bind]
      have value : world.Shadows frame
          (Host.onHeap (Value.ofStorage feed.data feed.layout) : Host ρ Value)
          (Host.onHeap (Value.ofStorage feed.data feed.layout) : Host σ Value) Alike :=
        of_relates (Twins.ofStorage _ _) (fun _ => Frame.Holds.ofStorage _ _)
          fun _ _ _ alike free => alike.clearing free
      apply bind value
      intro later value value' growing alike
      exact ih (.cons ⟨rfl, alike⟩ (same.mono growing))

end Twins.Shadows

/-! ### Maps at rest -/

/-- The value is the whole of a storage that has the type and size of another one. -/
def Keeps (heap : Heap) (storage : Storage) (value : Value) : Prop :=
  ∃ name, value = storage.handle name ∧ name < heap.next ∧ storage.SameShape (heap.storage name)

theorem Keeps.holds {heap : Heap} {storages : List Storage} {values : List Value}
    (keeps : List.Forall₂ (Keeps heap) storages values) :
    List.Forall₂ (Holds heap) (values.map (contents heap)) values := by
  induction keeps with
  | nil => exact .nil
  | @cons storage _ _ _ head _ ih =>
      obtain ⟨name, rfl, below, typed, sized⟩ := head
      have same : storage.handle name = (heap.storage name).handle name := by
        unfold Storage.handle
        rw [typed, sized]
      exact .cons ⟨name, same, below, rfl⟩ ih

theorem Keeps.below {heap : Heap} {storages : List Storage} {values : List Value}
    (keeps : List.Forall₂ (Keeps heap) storages values) :
    ∀ name ∈ namesOf values, name < heap.next := by
  intro name member
  obtain ⟨value, inside, here⟩ := mem_namesOf.mp member
  obtain ⟨storage, -, name', rfl, below, -⟩ := partner_of_mem keeps inside
  cases here
  exact below

theorem Keeps.shapes {heap : Heap} {storages : List Storage} {values : List Value}
    (keeps : List.Forall₂ (Keeps heap) storages values) :
    List.Forall₂ Storage.SameShape storages (values.map (contents heap)) := by
  induction keeps with
  | nil => exact .nil
  | cons head _ ih =>
      obtain ⟨name, rfl, -, shape⟩ := head
      exact .cons shape ih

theorem Keeps.later {heap last : Heap} {storages : List Storage} {values : List Value}
    (keeps : List.Forall₂ (Keeps heap) storages values) (grown : heap.next ≤ last.next)
    (shapes : ∀ name ∈ namesOf values, (heap.storage name).SameShape (last.storage name)) :
    List.Forall₂ (Keeps last) storages values := by
  induction keeps with
  | nil => exact .nil
  | cons head _ ih =>
      obtain ⟨name, rfl, below, typed, sized⟩ := head
      obtain ⟨⟨typed', sized'⟩, others⟩ := List.forall_mem_cons.mp shapes
      have shape : Storage.SameShape _ (last.storage name) :=
        ⟨typed'.trans typed, sized'.trans sized⟩
      exact .cons ⟨name, rfl, below.trans_le grown, shape⟩ (ih others)

/-- A node stands in the heap: the parameters are there, and the memory has its types and sizes. -/
structure Holding.Rests (heap : Heap) (node : Node) (holding : Holding) : Prop where
  full : ∀ parameter ∈ node.parameters, parameter.Full
  held : List.Forall₂ (Parameter.Held heap) node.parameters holding.parameters
  distinct : (namesOf holding.parameters).Nodup
  memory : List.Forall₂ (Keeps heap) node.state holding.memory

/-- A node stands where it stood, as long as nobody writes to its parameters and its memory keeps
its types and sizes. -/
theorem Holding.Rests.later {heap last : Heap} {node : Node} {holding : Holding}
    (rests : Rests heap node holding) (grown : heap.next ≤ last.next)
    (same : ∀ name ∈ namesOf holding.parameters, last.storage name = heap.storage name)
    (shapes : ∀ name ∈ namesOf holding.memory,
      (heap.storage name).SameShape (last.storage name)) : Rests last node holding :=
  ⟨rests.full, Parameter.held_later rests.held grown same, rests.distinct,
    Keeps.later rests.memory grown shapes⟩

/-- What a node recalls is what stands in its memory. -/
theorem Holding.Rests.recall_eq {heap : Heap} {node : Node} {holding : Holding}
    (rests : Rests heap node holding) :
    node.recall heap holding = { node with state := holding.memory.map (contents heap) } := by
  have held := rests.held
  obtain ⟨operation, inputs, outputs, state⟩ := node
  obtain ⟨parameters, memory⟩ := holding
  have same : operation.recall heap parameters = operation := by
    cases operation with
    | constant values sizes =>
        obtain ⟨_, _, ⟨name, rfl, -, here⟩, -, rfl⟩ := List.forall₂_cons_left_iff.mp held
        exact congrArg (Operation.constant · sizes) here
    | _ => rfl
  unfold Node.recall
  rw [same]

namespace HostedMap

/-- The parameters of all nodes. -/
def parameters (hosted : HostedMap) : List Value :=
  (hosted.holdings.map Holding.parameters).flatten

/-- The memory of all nodes. -/
def memory (hosted : HostedMap) : List Value :=
  (hosted.holdings.map Holding.memory).flatten

/-- What a run of the map may write. -/
def frame (hosted : HostedMap) (heap : Heap) : Frame :=
  { heap := heap
    free := fun name => name ∈ namesOf hosted.memory }

/-- The nodes of the map stand in the heap, each with memory of its own. -/
structure Rests (hosted : HostedMap) (heap : Heap) : Prop where
  nodes : List.Forall₂ (Holding.Rests heap) hosted.map.model.nodes hosted.holdings
  distinct : (namesOf hosted.memory).Nodup
  apart : ∀ name ∈ namesOf hosted.memory, name ∉ namesOf hosted.parameters

/-- The map left alone everything but its memory, which has its types and sizes still. -/
structure Leaves (hosted : HostedMap) (heap later : Heap) : Prop where
  kept : (hosted.frame heap).Kept later
  shapes : ∀ name ∈ namesOf hosted.memory, (heap.storage name).SameShape (later.storage name)

variable {hosted : HostedMap} {heap last : Heap}

/-- What stands in the memory of the nodes. -/
def remembered (hosted : HostedMap) (heap : Heap) : List (List Storage) :=
  hosted.holdings.map fun holding => holding.memory.map (contents heap)

theorem Rests.current_model (rests : hosted.Rests heap) :
    (hosted.current heap).model = hosted.map.model.withMemory (hosted.remembered heap) := by
  have nodes := rests.nodes
  unfold current remembered Model.recall Model.withMemory
  dsimp only
  generalize hosted.map.model.nodes = nodes', hosted.holdings = holdings at nodes
  congr 1
  induction nodes with
  | nil => rfl
  | cons head _ ih => exact congrArg₂ List.cons head.recall_eq ih

theorem Rests.memory_current (rests : hosted.Rests heap) :
    (hosted.current heap).model.memory = hosted.remembered heap := by
  rw [rests.current_model]
  exact Model.memory_withMemory _ ((List.length_map _).trans rests.nodes.length_eq.symm)

theorem parameters_mem {holding : Holding} (member : holding ∈ hosted.holdings) :
    holding.parameters ⊆ hosted.parameters := fun _ inside =>
  List.mem_flatten.mpr ⟨_, List.mem_map_of_mem member, inside⟩

theorem memory_mem {holding : Holding} (member : holding ∈ hosted.holdings) :
    holding.memory ⊆ hosted.memory := fun _ inside =>
  List.mem_flatten.mpr ⟨_, List.mem_map_of_mem member, inside⟩

theorem Rests.parameters_below (rests : hosted.Rests heap) :
    ∀ name ∈ namesOf hosted.parameters, name < heap.next := by
  intro name member
  obtain ⟨holding, one, inside⟩ := mem_namesOf_flatten.mp member
  obtain ⟨node, -, rest⟩ := partner_of_mem rests.nodes one
  exact Parameter.held_below rest.held name inside

/-- A map stands where it stood, as long as nobody writes to its parameters and its memory keeps
its types and sizes. -/
theorem Rests.later (rests : hosted.Rests heap) (grown : heap.next ≤ last.next)
    (same : ∀ name ∈ namesOf hosted.parameters, last.storage name = heap.storage name)
    (shapes : ∀ name ∈ namesOf hosted.memory,
      (heap.storage name).SameShape (last.storage name)) : hosted.Rests last := by
  refine ⟨?_, rests.distinct, rests.apart⟩
  refine List.forall₂_iff_zip.mpr ⟨rests.nodes.length_eq, fun inside => ?_⟩
  have member := (List.of_mem_zip inside).2
  exact ((List.forall₂_iff_zip.mp rests.nodes).2 inside).later grown
    (fun name here => same name (namesOf_mono (parameters_mem member) here))
    (fun name here => shapes name (namesOf_mono (memory_mem member) here))

/-- A map stands as before when it has left alone everything but its memory. -/
theorem Rests.leaves (rests : hosted.Rests heap) (leaves : hosted.Leaves heap last) :
    hosted.Rests last :=
  rests.later leaves.kept.next (fun name member => leaves.kept.same name
    (rests.parameters_below name member) fun inside => rests.apart name inside member) leaves.shapes

/-- A map that stands as before remembers as before when nobody writes to its memory. -/
theorem Rests.current_later (rests : hosted.Rests heap) (rests' : hosted.Rests last)
    (same : ∀ name ∈ namesOf hosted.memory, last.storage name = heap.storage name) :
    hosted.current last = hosted.current heap := by
  have remembers : hosted.remembered last = hosted.remembered heap := by
    unfold remembered
    refine List.map_congr_left fun holding member => List.map_congr_left fun value inside => ?_
    exact contents_same fun name here =>
      same name (mem_namesOf.mpr ⟨value, memory_mem member inside, here⟩)
  have model : (hosted.current last).model = (hosted.current heap).model := by
    rw [rests.current_model, rests'.current_model, remembers]
  exact congrArg (fun model => { hosted.map with model := model }) model

theorem Rests.memory_below (rests : hosted.Rests heap) :
    ∀ name ∈ namesOf hosted.memory, name < heap.next := by
  intro name member
  obtain ⟨holding, one, inside⟩ := mem_namesOf_flatten.mp member
  obtain ⟨node, -, rest⟩ := partner_of_mem rests.nodes one
  exact Keeps.below rest.memory name inside

theorem Rests.grows (rests : hosted.Rests heap) (grows : heap.Grows last) : hosted.Rests last :=
  rests.later grows.next (fun name member => grows.kept name (rests.parameters_below name member))
    fun name member => by
      rw [grows.kept name (rests.memory_below name member)]
      exact ⟨rfl, rfl⟩

theorem Rests.current_grows (rests : hosted.Rests heap) (grows : heap.Grows last) :
    hosted.current last = hosted.current heap :=
  rests.current_later (rests.grows grows) fun name member =>
    grows.kept name (rests.memory_below name member)

/-! ### One run -/

/-- Before a run the memory of the map by itself is the twin of that in the heap. -/
theorem Rests.start (rests : hosted.Rests heap) (renamed : NodeId → NodeId → Prop) :
    ∃ world : Twins renamed, world.Agrees (hosted.current heap).model.placed heap ∧
      world.Clear (hosted.frame heap) ∧
        List.Forall₂ (List.Forall₂ world.Alike) (hosted.current heap).model.placedState
          (hosted.holdings.map Holding.memory) := by
  have nothing :
      Twins.Agrees ({ paired := fun _ _ _ _ => False } : Twins renamed) Heap.empty heap :=
    ⟨nofun, nofun, nofun, nofun⟩
  have held : List.Forall₂ (List.Forall₂ (Holds heap)) (hosted.current heap).model.memory
      (hosted.holdings.map Holding.memory) := by
    rw [rests.memory_current, remembered, List.forall₂_map_left_iff, List.forall₂_map_right_iff]
    refine List.forall₂_same.mpr fun holding member => ?_
    obtain ⟨node, -, rest⟩ := partner_of_mem rests.nodes member
    exact Keeps.holds rest.memory
  obtain ⟨world, adopts, agrees, alike⟩ := nothing.adoptMemory held rests.distinct fun _ _ => nofun
  refine ⟨world, agrees, fun name name' dtype size paired => .inr ?_, alike⟩
  exact (adopts.only _ _ _ _ paired).resolve_left id

/-- The nodes of the map by itself, and the nodes in the heap. -/
theorem Rests.stands (rests : hosted.Rests heap) {renamed : NodeId → NodeId → Prop}
    {world : Twins renamed} {state : List (List Value)}
    (alike : List.Forall₂ (List.Forall₂ world.Alike) state (hosted.holdings.map Holding.memory)) :
    List.Forall₂ (Twins.Shadows.Stands world (hosted.frame heap))
      ((hosted.current heap).model.nodes.zip state) hosted.nodes := by
  have reserved : ∀ holding ∈ hosted.holdings, ∀ name ∈ namesOf holding.parameters,
      ¬ (hosted.frame heap).free name := fun holding member name here inside =>
    rests.apart name inside (namesOf_mono (parameters_mem member) here)
  have nodes := rests.nodes
  rw [List.forall₂_map_right_iff] at alike
  rw [rests.current_model]
  unfold HostedMap.nodes Model.withMemory remembered
  generalize hosted.map.model.nodes = nodes', hosted.holdings = holdings at nodes reserved alike
  induction nodes generalizing state with
  | nil => exact .nil
  | @cons node holding _ _ head _ ih =>
      obtain ⟨first, others⟩ := List.forall_mem_cons.mp reserved
      cases alike with
      | cons one rest =>
          refine .cons ⟨⟨_, rfl⟩, ⟨head.full, head.held, head.distinct, first⟩, one⟩ ?_
          exact ih others rest

/-- What was remembered before does not matter to what is remembered now. -/
theorem withMemory_again (model : Model) {first second : List (List Storage)}
    (same : first.length = second.length) :
    (model.withMemory first).withMemory second = model.withMemory second := by
  unfold Model.withMemory
  congr 1
  generalize model.nodes = nodes
  induction nodes generalizing first second with
  | nil => cases second <;> rfl
  | cons node rest ih =>
      cases first with
      | nil =>
          obtain rfl := List.length_eq_zero_iff.mp same.symm
          rfl
      | cons head others =>
          cases second with
          | nil => cases same
          | cons head' others' => exact congrArg (_ :: ·) (ih (Nat.succ.inj same))

theorem contents_alike {world : Twins Eq} {heap heap' : Heap} (agrees : world.Agrees heap heap')
    {value value' : Value} (alike : world.Alike value value') :
    contents heap' value' = contents heap value := by
  obtain ⟨dtype?, layout?, place⟩ := value
  obtain ⟨dtype?', layout?', place'⟩ := value'
  cases alike.place with
  | unbound | emitted => rfl
  | host base paired => exact (agrees.same _ _ _ _ paired).1

/-- What the map by itself remembers after a run is what stands in the heap then. -/
theorem Rests.remembering (rests : hosted.Rests heap) (leaves : hosted.Leaves heap last)
    {world : Twins Eq} {final : Heap} (agrees : world.Agrees final last)
    (alike : List.Forall₂ (List.Forall₂ world.Alike) (hosted.current heap).model.placedState
      (hosted.holdings.map Holding.memory)) :
    (hosted.current heap).model.remembering final = (hosted.current last).model := by
  have same : (hosted.current heap).model.placedState.map
      (fun values => values.map (contents final)) = hosted.remembered last := by
    unfold remembered
    rw [List.forall₂_map_right_iff] at alike
    generalize (hosted.current heap).model.placedState = state, hosted.holdings = holdings at alike
    induction alike with
    | nil => rfl
    | @cons _ holding _ _ head _ ih =>
        refine congrArg₂ List.cons ?_ ih
        dsimp only
        generalize holding.memory = memory at head ⊢
        induction head with
        | nil => rfl
        | cons one _ ih' => exact congrArg₂ List.cons (contents_alike agrees one).symm ih'
  rw [(rests.leaves leaves).current_model, Model.remembering, same, rests.current_model]
  refine withMemory_again _ ?_
  rw [remembered, remembered, List.length_map, List.length_map]

/-- The types and sizes of the memory go on. -/
theorem shapes_of_agrees {world later : Twins Eq} {left left' : Heap}
    (agrees : world.Agrees left heap) (agrees' : later.Agrees left' last)
    (growing : world.Later later) {state : List (List Value)}
    (alike : List.Forall₂ (List.Forall₂ world.Alike) state (hosted.holdings.map Holding.memory)) :
    ∀ name ∈ namesOf hosted.memory, (heap.storage name).SameShape (last.storage name) := by
  intro name member
  obtain ⟨value, inside, here⟩ := mem_namesOf.mp member
  obtain ⟨values', those, inside⟩ := List.mem_flatten.mp inside
  obtain ⟨values, -, same⟩ := partner_of_mem alike those
  obtain ⟨twin, -, same⟩ := partner_of_mem same inside
  obtain ⟨dtype?, layout?, place⟩ := value
  obtain ⟨dtype?', layout?', place'⟩ := twin
  cases same.place with
  | unbound | emitted => cases here
  | host base paired =>
      cases here
      obtain ⟨one, typed, sized⟩ := agrees.same _ _ _ _ paired
      obtain ⟨two, typed', sized'⟩ := agrees'.same _ _ _ _ (growing _ _ _ _ paired)
      rw [one, two]
      exact ⟨typed'.trans typed.symm, sized'.trans sized.symm⟩

/-- The run in the heap ends as that of the map by itself. -/
inductive SameEnd (hosted : HostedMap) :
    EStateM.Result Fault Heap Evaluation → EStateM.Result Fault Model Evaluation → Prop where
  | ok {evaluation evaluation' : Evaluation} {last : Heap} (world : Twins Eq)
      (agrees : world.Agrees evaluation'.heap evaluation.heap)
      (same : Twins.Shadows.SameValues world evaluation'.values evaluation.values) :
      SameEnd hosted (.ok evaluation last) (.ok evaluation' (hosted.current last).model)
  | error (fault : Fault) (last : Heap) :
      SameEnd hosted (.error fault last) (.error fault (hosted.current last).model)

theorem Fault.alike_eq {left right : Fault} (alike : Fault.Alike Eq left right) : right = left := by
  rcases alike with same | ⟨id, _, rfl, rfl, rfl⟩
  · exact same
  · rfl

/-- A computation on some feeds that are in place. -/
theorem evaluate_fed {feeds : List Feed} {known : FeedValues}
    (fed : placeFeeds feeds [] heap = .ok known last) :
    hosted.evaluate feeds heap =
      match hosted.run known (Model.started last) with
      | .error fault final => .error fault final.heap
      | .ok values final =>
          .ok
            { values := values
              heap := final.heap
              operations := final.operations }
            final.heap := by
  unfold evaluate
  rw [fed]
  rfl

theorem evaluate_unfed {feeds : List Feed} {fault : Fault}
    (refused : placeFeeds feeds [] heap = .error fault last) :
    hosted.evaluate feeds heap = .error fault last := by
  unfold evaluate
  rw [refused]

/-- A run in the heap ends as that of the map by itself, and leaves alone what is not memory of
the map. -/
theorem Rests.evaluate (rests : hosted.Rests heap) (feeds : List Feed) :
    hosted.SameEnd (hosted.evaluate feeds heap)
        (Model.compute feeds (hosted.current heap).model) ∧
      hosted.Leaves heap (Action.last (hosted.evaluate feeds heap)) := by
  obtain ⟨world, agrees, clear, alike⟩ := rests.start Eq
  have here : (hosted.frame heap).Kept heap := ⟨Nat.le_refl _, fun _ _ _ => rfl⟩
  have placed : world.Shadows (hosted.frame heap)
      (Host.onHeap (placeFeeds feeds []) : Host Unit FeedValues)
      (Host.onHeap (placeFeeds feeds []) : Host Unit FeedValues) Twins.Shadows.SameValues :=
    .placeFeeds feeds .nil
  obtain ⟨done, failed⟩ := placed (Model.started _) (Model.started heap) agrees clear here
  cases fed : placeFeeds feeds [] (hosted.current heap).model.placed with
  | error fault left =>
      obtain ⟨later, fault', after', ran, growing, agrees', -, kept, same⟩ :=
        failed fault _ (Host.onHeap_error.mpr ⟨left, fed, rfl⟩)
      obtain ⟨heap', refused', rfl⟩ := Host.onHeap_error.mp ran
      have refused : placeFeeds feeds [] heap = .error fault' heap' := refused'
      obtain rfl := Fault.alike_eq same
      have grows := placeFeeds_grows feeds [] heap
      rw [refused] at grows
      rw [evaluate_unfed refused, Model.compute_unfed fed, ← rests.current_grows grows]
      exact ⟨.error fault' heap', kept, shapes_of_agrees agrees agrees' growing alike⟩
  | ok known left =>
      obtain ⟨one, known', after', ran, growing, agrees', clear', kept, same⟩ :=
        done known _ (Host.onHeap_ok.mpr ⟨left, fed, rfl⟩)
      obtain ⟨heap', placed', rfl⟩ := Host.onHeap_ok.mp ran
      have fed' : placeFeeds feeds [] heap = .ok known' heap' := placed'
      have run : one.Shadows (hosted.frame heap)
          ((hosted.current heap).model.run (hosted.current heap).model.placedState known :
            Host Unit PortValues) (hosted.run known') Twins.Shadows.SameValues :=
        .runEach 0 ((rests.stands alike).imp fun _ _ stands => stands.mono growing) same .nil
      obtain ⟨done, failed⟩ := run (Model.started left) (Model.started heap') agrees' clear' kept
      rw [evaluate_fed fed', Model.compute_fed fed]
      cases ran : ((hosted.current heap).model.run (hosted.current heap).model.placedState known :
          Host Unit PortValues) (Model.started left) with
      | error fault final =>
          obtain ⟨two, fault', final', ran', growing', agrees'', -, kept', same'⟩ :=
            failed fault final ran
          obtain rfl := Fault.alike_eq same'
          have leaves : hosted.Leaves heap final'.heap :=
            ⟨kept', shapes_of_agrees agrees agrees'' (growing.trans growing') alike⟩
          rw [ran']
          dsimp only
          rw [rests.remembering leaves agrees'' (alike.imp fun _ _ same => same.imp fun _ _ one =>
            one.mono (growing.trans growing'))]
          exact ⟨.error fault' final'.heap, leaves⟩
      | ok values final =>
          obtain ⟨two, values', final', ran', growing', agrees'', -, kept', same'⟩ :=
            done values final ran
          have leaves : hosted.Leaves heap final'.heap :=
            ⟨kept', shapes_of_agrees agrees agrees'' (growing.trans growing') alike⟩
          rw [ran']
          dsimp only
          rw [rests.remembering leaves agrees'' (alike.imp fun _ _ same => same.imp fun _ _ one =>
            one.mono (growing.trans growing'))]
          exact ⟨.ok two agrees'' same', leaves⟩

/-! ### Calls -/

theorem Leaves.refl (hosted : HostedMap) (heap : Heap) : hosted.Leaves heap heap :=
  ⟨⟨Nat.le_refl _, fun _ _ _ => rfl⟩, fun _ _ => ⟨rfl, rfl⟩⟩

/-- What the heap says of a map is a later state of it. -/
theorem Rests.aged (rests : hosted.Rests heap) : hosted.map.Aged (hosted.current heap) := by
  refine ⟨?_, rfl, rfl⟩
  have nodes := rests.nodes
  unfold Model.Aged
  rw [rests.current_model]
  unfold Model.withMemory remembered
  dsimp only
  generalize hosted.map.model.nodes = nodes', hosted.holdings = holdings at nodes
  induction nodes with
  | nil => exact .nil
  | cons head _ ih =>
      exact .cons ⟨_, rfl, Keeps.shapes head.memory⟩ ih

/-- The answers that the heap gives and those of the map by itself. -/
private theorem rows_same {world : Twins Eq} {evaluation evaluation' : Evaluation}
    (agrees : world.Agrees evaluation'.heap evaluation.heap)
    (same : Twins.Shadows.SameValues world evaluation'.values evaluation.values) :
    (hosted.current heap).rows evaluation' = hosted.map.rows evaluation := by
  change (hosted.map.outputs.mapM fun output => Map.rowOf evaluation' output.1 output.2) =
    hosted.map.outputs.mapM fun output => Map.rowOf evaluation output.1 output.2
  congr 1
  funext output
  have known : Option.Rel world.Alike (evaluation'.values.lookup output.2)
      (evaluation.values.lookup output.2) := same.lookup output.2
  unfold Map.rowOf Evaluation.floats?
  generalize evaluation'.values.lookup output.2 = left, evaluation.values.lookup output.2 = right
    at known
  cases known with
  | none => rfl
  | some alike => simp only [Option.map_some, alike.toFloats agrees]

private theorem compute_refused {rows : List (List Float)} {cause : Error}
    (refused : hosted.map.feeds rows = .error cause) :
    hosted.compute rows heap = .error (.error cause) heap := by
  unfold compute
  rw [refused]
  rfl

private theorem compute_fed {rows : List (List Float)} {feeds : List Feed}
    (fed : hosted.map.feeds rows = .ok feeds) :
    hosted.compute rows heap =
      (hosted.evaluate feeds >>= fun evaluation =>
        Action.ofExcept (hosted.map.rows evaluation)) heap := by
  unfold compute
  rw [fed]
  rfl

/-- A computation in the heap answers as the map by itself and remembers the same. -/
theorem Rests.compute (rests : hosted.Rests heap) (rows : List (List Float)) :
    Action.outcome (hosted.compute rows heap) = (hosted.current heap).sample rows ∧
      hosted.current (Action.last (hosted.compute rows heap)) =
        Action.last (Map.compute rows (hosted.current heap)) ∧
        hosted.Leaves heap (Action.last (hosted.compute rows heap)) := by
  have fed := rests.aged.feeds rows
  unfold Map.sample
  cases known : hosted.map.feeds rows with
  | error cause =>
      rw [known] at fed
      rw [Map.compute_refused fed, compute_refused known]
      exact ⟨rfl, rfl, .refl hosted heap⟩
  | ok feeds =>
      rw [known] at fed
      obtain ⟨same, leaves⟩ := rests.evaluate feeds
      rw [compute_fed known]
      generalize ran : hosted.evaluate feeds heap = left at same leaves
      generalize ran' : Model.compute feeds (hosted.current heap).model = right at same
      cases same with
      | error fault last =>
          rw [Map.compute_failed fed ran', Action.bind_of_error ran]
          exact ⟨rfl, rfl, leaves⟩
      | ok world agrees same =>
          rw [Map.compute_done fed ran', Action.bind_of_ok ran, rows_same agrees same]
          cases hosted.map.rows _ <;> exact ⟨rfl, rfl, leaves⟩

/-- Some storages are cleared, and no others change. -/
structure Clears (heap last : Heap) (names : List Nat) : Prop where
  next : last.next = heap.next
  cleared : ∀ name ∈ names, last.storage name = (heap.storage name).cleared
  others : ∀ name ∉ names, last.storage name = heap.storage name

private theorem cleared_cleared (storage : Storage) :
    storage.cleared.cleared = storage.cleared := by
  unfold Storage.cleared
  simp [Storage.zeros, Storage.size]

private theorem fillZero_all {storages : List Storage} {values : List Value}
    (keeps : List.Forall₂ (Keeps heap) storages values) :
    ∃ last, values.forM Value.fillZero heap = .ok () last ∧ Clears heap last (namesOf values) := by
  induction values generalizing storages heap with
  | nil => exact ⟨heap, rfl, rfl, nofun, fun _ _ => rfl⟩
  | cons value rest ih =>
      cases keeps with
      | @cons storage _ _ _ head tail =>
      obtain ⟨name, rfl, below, -⟩ := head
      have own := Heap.storage_replace_self below (heap.storage name).cleared
      have apart (other : Nat) (different : other ≠ name) :
          (heap.replace name (heap.storage name).cleared).storage other = heap.storage other :=
        Heap.storage_replace_of_ne different _
      generalize middle : heap.replace name (heap.storage name).cleared = heap' at own apart
      have filled : (storage.handle name).fillZero heap = .ok () heap' :=
        congrArg (EStateM.Result.ok ()) middle
      have next : heap'.next = heap.next := middle ▸ Heap.next_replace _ _ _
      have shapes : ∀ other ∈ namesOf rest,
          (heap.storage other).SameShape (heap'.storage other) := by
        intro other _
        by_cases same : other = name
        · rw [same, own]
          exact ⟨rfl, Array.size_replicate⟩
        · rw [apart other same]
          exact ⟨rfl, rfl⟩
      obtain ⟨last, done, clears⟩ := ih (Keeps.later tail next.ge shapes)
      refine ⟨last, (Action.bind_of_ok filled).trans done, clears.next.trans next, ?_, ?_⟩
      · intro other member
        by_cases inside : other ∈ namesOf rest
        · rw [clears.cleared other inside]
          by_cases same : other = name
          · rw [same, own, cleared_cleared]
          · rw [apart other same]
        · obtain rfl := (List.mem_cons.mp member).resolve_right inside
          rw [clears.others other inside, own]
      · intro other outside
        obtain ⟨different, outside⟩ := not_or.mp (mt List.mem_cons.mpr outside)
        rw [clears.others other outside, apart other different]

theorem Rests.memory (rests : hosted.Rests heap) :
    List.Forall₂ (Keeps heap) hosted.map.model.memory.flatten hosted.memory := by
  have nodes := rests.nodes
  unfold HostedMap.memory Model.memory
  generalize hosted.map.model.nodes = nodes', hosted.holdings = holdings at nodes
  induction nodes with
  | nil => exact .nil
  | cons head _ ih => exact List.rel_append head.memory ih

private theorem reset_eq (hosted : HostedMap) :
    hosted.reset = hosted.memory.forM Value.fillZero := by
  unfold reset HostedMap.memory
  generalize hosted.holdings = holdings
  induction holdings with
  | nil => rfl
  | cons holding rest ih =>
      rw [List.map_cons, List.flatten_cons]
      rw [List.forM_eq_forM, List.forM_eq_forM] at ih ⊢
      rw [List.forM_append, List.forM_cons, ih]
      rfl

/-- A reset in the heap is that of the map by itself. -/
theorem Rests.reset (rests : hosted.Rests heap) :
    ∃ last, hosted.reset heap = .ok () last ∧
      hosted.current last = (hosted.current heap).reset ∧ hosted.Leaves heap last := by
  obtain ⟨last, done, clears⟩ := fillZero_all rests.memory
  have leaves : hosted.Leaves heap last := by
    refine ⟨⟨clears.next.ge, fun name _ outside => clears.others name outside⟩, ?_⟩
    intro name member
    rw [clears.cleared name member]
    exact ⟨rfl, Array.size_replicate⟩
  refine ⟨last, (congrFun hosted.reset_eq heap).trans done, ?_, leaves⟩
  have model : (hosted.current last).model = (hosted.current heap).model.reset := by
    have remembers : hosted.remembered last =
        (hosted.remembered heap).map fun state => state.map Storage.cleared := by
      unfold remembered
      rw [List.map_map]
      refine List.map_congr_left fun holding member => ?_
      change _ = (holding.memory.map (contents heap)).map Storage.cleared
      rw [List.map_map]
      refine List.map_congr_left fun value inside => ?_
      obtain ⟨storage, -, name, rfl, -⟩ := partner_of_mem rests.memory (memory_mem member inside)
      exact clears.cleared name (mem_namesOf.mpr ⟨_, memory_mem member inside, rfl⟩)
    rw [(rests.leaves leaves).current_model, rests.current_model, remembers]
    unfold Model.withMemory Model.reset
    rw [List.map_zipWith, List.zipWith_map_right]
    rfl
  exact congrArg (fun model => { hosted.map with model := model }) model

end HostedMap
end TensorGraph

/-
One step of a map on the host.

A computation of a map runs its model and reads the outputs.  The step that is
written down as code runs the same model beside memory for the outputs, and
copies them there.  The two go alike: the model does not see the memory that
stands beside it, and what is copied is what is read.
-/

import TensorGraph.Proofs.Emission.MapStep
import TensorGraph.Proofs.Graph.Ownership
import TensorGraph.Proofs.Graph.Safety
import TensorGraph.Proofs.Kernel.Windows

namespace TensorGraph

/-! ### Models that were run before -/

namespace Model

variable {model later : Model}

/-- A node runs in one way, whatever it remembers. -/
theorem Aged.run_eq {m : Type → Type} [Kernel m] (aged : model.Aged later)
    (state : List (List Value)) (feeds : FeedValues) :
    (later.run state feeds : m PortValues) = model.run state feeds := by
  unfold Model.run runNodes
  unfold Aged at aged
  generalize model.nodes = nodes, later.nodes = nodes' at aged
  generalize (0 : NodeId) = id, ([] : PortValues) = values
  induction aged generalizing id values state with
  | nil => rfl
  | cons head _ ih =>
      obtain ⟨remembered, rfl, -⟩ := head
      cases state with
      | nil => rfl
      | cons held rest =>
          rw [List.zip_cons_cons, List.zip_cons_cons, runEach, runEach]
          exact congrArg _ (funext fun values => ih rest (id + 1) values)

theorem Aged.memory (aged : model.Aged later) :
    List.Forall₂ (List.Forall₂ Storage.SameShape) model.memory later.memory := by
  unfold Model.memory
  rw [List.forall₂_map_left_iff, List.forall₂_map_right_iff]
  refine List.Forall₂.imp ?_ aged
  rintro node _ ⟨remembered, rfl, shapes⟩
  exact shapes

theorem Aged.shapes (aged : model.Aged later) :
    List.Forall₂ Storage.SameShape model.memory.flatten later.memory.flatten :=
  List.rel_flatten aged.memory

theorem Aged.placedState_eq (aged : model.Aged later) :
    later.placedState = model.placedState :=
  (memoryHandles_of_sameShape aged.memory 0).symm

end Model

/-! ### Feeds -/

/-- The buffers of some ports, filled with rows. -/
def rowBuffers (specs : List PortSpec) (rows : List (List Float)) : List Storage :=
  List.zipWith (fun (spec : PortSpec) row => Storage.ofFloats spec.dtype row.toArray) specs rows

/-- The rows are as many as the ports, and each is as long as its port. -/
def Fitting : List PortSpec → List (List Float) → Prop :=
  List.Forall₂ fun spec row => row.length = spec.size

theorem checkRows_ok {specs : List PortSpec} {rows : List (List Float)}
    (full : rows.length = specs.length) : Map.checkRows specs rows = .ok () ↔ Fitting specs rows := by
  induction specs generalizing rows with
  | nil =>
      cases List.length_eq_zero_iff.mp full
      exact ⟨fun _ => .nil, fun _ => rfl⟩
  | cons spec specs ih =>
      obtain ⟨row, rows, rfl⟩ := List.exists_cons_of_length_eq_add_one full
      rw [Map.checkRows, Fitting, List.forall₂_cons, ← Fitting, ← ih (Nat.succ.inj full)]
      by_cases fits : row.length = spec.size
      · simp [fits]
      · simp [fits]

theorem Fitting.buffered {specs : List PortSpec} {rows : List (List Float)}
    (fitting : Fitting specs rows) : Buffered specs (rowBuffers specs rows) := by
  induction fitting with
  | nil => exact .nil
  | cons fits _ ih => exact .cons ⟨rfl, (Storage.size_ofFloats _ _).trans fits⟩ ih

namespace Map

variable {map : Map} {specs : List PortSpec} {rows : List (List Float)}

/-- The feeds that rows become. -/
def rowFeeds (inputs : List (String × NodeId)) (specs : List PortSpec) (rows : List (List Float)) :
    List Feed :=
  List.zipWith (fun input pair => feedOf input.2 pair.1 pair.2) inputs (specs.zip rows)

theorem length_inputSpecs (named : map.inputSpecs = .ok specs) :
    map.inputs.length = specs.length :=
  (mapM_forall₂.mp named).length_eq

/-- Rows are taken when they fit the inputs. -/
theorem feeds_cases (named : map.inputSpecs = .ok specs) (rows : List (List Float)) :
    (Fitting specs rows ∧ map.feeds rows = .ok (rowFeeds map.inputs specs rows)) ∨
      ¬ Fitting specs rows ∧ ∃ cause, map.feeds rows = .error cause := by
  have counted := length_inputSpecs named
  unfold feeds
  by_cases full : rows.length = specs.length
  · rw [if_neg (not_not.mpr (full.trans counted.symm)), named]
    have checked := checkRows_ok full
    cases outcome : checkRows specs rows with
    | ok _ =>
        refine .inl ⟨checked.mp outcome, ?_⟩
        simp only [bind, Except.bind, outcome]
        rfl
    | error cause =>
        refine .inr ⟨fun fitting => ?_, cause, ?_⟩
        · rw [checked.mpr fitting] at outcome
          cases outcome
        · simp only [bind, Except.bind, outcome]
  · refine .inr ⟨fun fitting => full fitting.length_eq.symm, ?_⟩
    rw [if_pos fun same => full (same.trans counted)]
    exact ⟨_, rfl⟩

theorem rowFeeds_nodes (fitting : Fitting specs rows) {inputs : List (String × NodeId)}
    (full : inputs.length = specs.length) :
    (rowFeeds inputs specs rows).map Feed.node = inputs.map Prod.snd := by
  induction fitting generalizing inputs with
  | nil =>
      cases List.length_eq_zero_iff.mp full
      rfl
  | cons _ _ ih =>
      obtain ⟨input, inputs, rfl⟩ := List.exists_cons_of_length_eq_add_one full
      exact congrArg _ (ih (Nat.succ.inj full))

/-- A feed has the type and the shape of its input. -/
theorem mem_rowFeeds (fitting : Fitting specs rows) {inputs : List (String × NodeId)} {feed : Feed}
    (member : feed ∈ rowFeeds inputs specs rows) :
    ∃ input spec row, (input, spec) ∈ inputs.zip specs ∧ row.length = spec.size ∧
      feed = feedOf input.2 spec row := by
  induction fitting generalizing inputs with
  | nil =>
      cases inputs with
      | nil => cases member
      | cons => cases member
  | @cons spec row specs rows fits _ ih =>
      cases inputs with
      | nil => cases member
      | cons input inputs =>
          rcases List.mem_cons.mp member with rfl | member
          · exact ⟨input, spec, row, List.mem_cons_self, fits, rfl⟩
          · obtain ⟨input', spec', row', inside, fits', made⟩ := ih member
            exact ⟨input', spec', row', List.mem_cons_of_mem _ inside, fits', made⟩

/-- Rows that fit are put in place one after the other. -/
theorem placeFeeds_rows (fitting : Fitting specs rows) {inputs : List (String × NodeId)}
    (full : inputs.length = specs.length) (known : FeedValues) (heap : Heap) :
    placeFeeds (rowFeeds inputs specs rows) known heap =
      .ok (((inputs.map Prod.snd).zip (bufferValues heap.next specs)).reverse ++ known)
        (heap.addAll (rowBuffers specs rows)) := by
  induction fitting generalizing inputs known heap with
  | nil =>
      cases List.length_eq_zero_iff.mp full
      rfl
  | @cons spec row specs rows fits _ ih =>
      obtain ⟨input, inputs, rfl⟩ := List.exists_cons_of_length_eq_add_one full
      have sized : (Storage.ofFloats spec.dtype row.toArray).size = elementCount spec.shape :=
        (Storage.size_ofFloats _ _).trans fits
      have placed := Host.stored_fills sized heap
      have others := ih (Nat.succ.inj full) ((input.2, Value.ofWhole spec.dtype spec.shape heap.next) ::
        known) (heap.add (Storage.ofFloats spec.dtype row.toArray))
      rw [Heap.next_add] at others
      refine (Action.bind_of_ok placed).trans (others.trans ?_)
      rw [bufferValues, List.map_cons, List.zip_cons_cons, List.reverse_cons, List.append_assoc]
      rfl

end Map

/-! ### Runs beside other storages -/

theorem Twins.Agrees.addAll_right {renamed : NodeId → NodeId → Prop} {world : Twins renamed}
    {heap heap' : Heap} (agrees : world.Agrees heap heap') (storages : List Storage) :
    world.Agrees heap (heap'.addAll storages) := by
  induction storages generalizing heap' with
  | nil => exact agrees
  | cons storage rest ih => exact ih (agrees.add_right storage)

namespace Model

variable {model : Model} {known : FeedValues} {heap heap' : Heap}

/-- Two host runs that end alike: with the same fault, or with values that are read alike.  What
the first one began with holds the same in the end. -/
inductive SameEnd (heap : Heap) : EStateM.Result Fault (HostState Unit) PortValues →
    EStateM.Result Fault (HostState Unit) PortValues → Prop where
  | ok {values values' : PortValues} {final final' : HostState Unit} (world : Twins Eq)
      (same : ∀ name < heap.next, final'.heap.storage name = final.heap.storage name)
      (agrees : world.Agrees final.heap final'.heap)
      (alike : (twins Eq Unit Unit).SameValues world values values') :
      SameEnd heap (.ok values final) (.ok values' final')
  | error {fault : Fault} {final final' : HostState Unit}
      (same : ∀ name < heap.next, final'.heap.storage name = final.heap.storage name) :
      SameEnd heap (.error fault final) (.error fault final')

/-- A model does not see what stands beside its memory and its feeds. -/
theorem run_beside {storages : List Storage} (beside : List Storage) (here : heap = model.placed.addAll storages)
    (within : ∀ entry ∈ known, entry.2.Within heap) :
    SameEnd heap ((model.run model.placedState known : Host Unit PortValues) (started heap))
      ((model.run model.placedState known : Host Unit PortValues)
        (started (heap.addAll beside))) := by
  have kept : List.Forall₂ (List.Forall₂ (Twins.whole Eq heap).Alike) model.placedState
      model.placedState := by
    rw [here]
    refine List.forall₂_same.mpr fun state member => List.forall₂_same.mpr fun value inside => ?_
    obtain ⟨storage, holds⟩ := model.placedState_holds member inside
    exact Twins.whole_alike (holds.addAll storages).within
  have fed : (twins Eq Unit Unit).SameValues (Twins.whole Eq heap) known known :=
    List.forall₂_same.mpr fun entry member => ⟨rfl, Twins.whole_alike (within entry member)⟩
  have agrees := (Twins.whole_agrees Eq heap).addAll_right beside
  have run := (twins Eq Unit Unit).model_run model kept fed
  obtain ⟨done, failed⟩ := run (started heap) (started (heap.addAll beside)) agrees
  have same {later : Twins Eq} {final final' : Heap}
      (growing : (Twins.whole Eq heap).Later later) (agrees : later.Agrees final final') :
      ∀ name < heap.next, final'.storage name = final.storage name := fun name below =>
    (agrees.same _ _ _ _ (growing _ _ _ _ ⟨rfl, below, rfl, rfl⟩)).1
  cases ran : (model.run model.placedState known : Host Unit PortValues) (started heap) with
  | ok values final =>
      obtain ⟨later, values', final', ran', growing, agrees', alike⟩ := done values final ran
      rw [ran']
      exact .ok later (same growing agrees') agrees' alike
  | error fault final =>
      obtain ⟨later, fault', final', ran', growing, agrees', alike⟩ := failed fault final ran
      rw [ran']
      rcases alike with rfl | ⟨id, _, rfl, rfl, rfl⟩ <;> exact .error (same growing agrees')

end Model

/-! ### Copies into whole storages -/

/-- What is copied into a whole storage is what it holds afterwards, in order. -/
theorem Host.assign_fills {ρ : Type} {state : HostState ρ} {target source : Value}
    {name name' base : Nat} {sizes : List Nat} {old : Storage} {layout : Layout}
    (fills : target.Fills state.heap name sizes old) (stands : source.Stands state.heap name' base)
    (shaped : source.layout? = some layout) (same : layout.logicalSizes = sizes)
    (typed : source.dtype? = some old.dtype) (different : name' ≠ name)
    (counts : elementCount sizes ≤ Nat.pow 2 63) :
    Yields (Kernel.assign target source : Host ρ Unit) state fun _ after =>
      state.heap.Spares name after.heap ∧ ∃ new, target.Fills after.heap name sizes new ∧
        source.literals state.heap = .ok new.cells.toList := by
  have sizes' : (Layout.packed sizes).logicalSizes = sizes := Layout.logicalSizes_packed sizes
  have room : (Layout.packed sizes).elementCount ≤ Nat.pow 2 63 := by
    rwa [← Layout.elementCount_logicalSizes, sizes']
  refine (assign_yields fills.stands fills.shaped stands shaped (sizes'.trans same.symm)
    (typed.trans fills.typed.symm) different room).mono fun _ after rewritten => ?_
  have there := fills.stands.keeps rewritten.keeps
  obtain ⟨elements, shows⟩ := stands.shows shaped
  have shown : Value.Shows after.heap name 0 (Layout.packed sizes) elements := by
    refine Value.shows_of_same shows (sizes'.trans same.symm) fun coordinates inside element read => ?_
    have inside' : (Layout.packed sizes).Inside coordinates := by
      rw [Layout.inside_packed, ← same]
      exact inside
    obtain ⟨copied, made, found⟩ := rewritten.each coordinates (Set.mem_univ _) _ _
      ((there.lies_iff fills.shaped).mpr ⟨inside', rfl, rfl⟩)
    rw [((stands.lies_iff shaped).mpr ⟨inside, rfl, rfl⟩).get] at made
    cases made.symm.trans read
    exact found
  obtain ⟨new, fills', -, listed⟩ :=
    fills.held_of_literals rewritten.keeps (there.literals fills.shaped shown)
  refine ⟨⟨rewritten.keeps, fun other known apart =>
    rewritten.storage_eq fills.stands known apart⟩, new, fills', ?_⟩
  rw [stands.literals shaped shows, listed]

/-! ### Delivering -/

/-- Some elements are read off a value of the type and shape of a port.  They stand in a storage
that is not among the first ones. -/
structure Shown (heap : Heap) (floor : Nat) (spec : PortSpec) (elements : List Literal)
    (value : Value) : Prop where
  typed : value.dtype? = some spec.dtype
  shaped : value.layout? = some (Layout.packed spec.shape)
  stands : ∃ name base, floor ≤ name ∧ value.Stands heap name base
  read : value.literals heap = .ok elements

theorem Shown.spared {heap after : Heap} {floor name : Nat} {spec : PortSpec}
    {elements : List Literal} {value : Value} (shown : Shown heap floor spec elements value)
    (spares : heap.Spares name after) (below : name < floor) :
    Shown after floor spec elements value := by
  obtain ⟨other, base, above, stands⟩ := shown.stands
  have stands' := stands.keeps spares.keeps
  obtain ⟨elements', shows⟩ := stands.shows shown.shaped
  have same : after.storage other = heap.storage other :=
    spares.others other stands.known (below.trans_le above).ne'
  have shows' : Value.Shows after other base (Layout.packed spec.shape) elements' := by
    unfold Value.Shows Heap.cell at shows ⊢
    rwa [same]
  refine ⟨shown.typed, shown.shaped, ⟨other, base, above, stands'⟩, ?_⟩
  rw [stands'.literals shown.shaped shows', ← stands.literals shown.shaped shows, shown.read]

namespace Map

/-- What is delivered to some ports whose buffers stand one after the other. -/
structure Deliverable (heap : Heap) (values : PortValues) (first : Nat)
    (pairs : List (PortSpec × Port)) (rows : List (List Literal)) : Prop where
  room : ∀ (position : Nat) (spec : PortSpec), (pairs.map Prod.fst)[position]? = some spec →
    ∃ old, (Value.ofWhole spec.dtype spec.shape (first + position)).Fills heap (first + position)
      spec.shape old
  counts : ∀ pair ∈ pairs, elementCount pair.1.shape ≤ Nat.pow 2 63
  sources : List.Forall₂ (fun pair elements => ∃ value, values.lookup pair.2 = some value ∧
    Shown heap (first + pairs.length) pair.1 elements value) pairs rows

/-- Everything is copied into the buffers, and no storage before them is written. -/
theorem deliver_yields {ρ : Type} {state : HostState ρ} {values : PortValues} {first : Nat}
    {pairs : List (PortSpec × Port)} {rows : List (List Literal)}
    (ready : Deliverable state.heap values first pairs rows) :
    Host.Yields (deliver values pairs (bufferValues first (pairs.map Prod.fst)) : Host ρ Unit) state
      fun _ after => (∀ name < first, after.heap.storage name = state.heap.storage name) ∧
        (after.heap.row first pairs.length).map (fun storage => storage.cells.toList) = rows := by
  obtain ⟨room, counts, sources⟩ := ready
  induction pairs generalizing first rows state with
  | nil =>
      cases sources
      exact .of_done rfl ⟨fun _ _ => rfl, rfl⟩
  | cons pair rest ih =>
      obtain ⟨spec, port⟩ := pair
      cases sources with
      | @cons _ elements _ rows source sources =>
      obtain ⟨value, found, shown⟩ := source
      obtain ⟨old, fills⟩ := room 0 spec rfl
      obtain ⟨name, base, above, stands⟩ := shown.stands
      have apart : name ≠ first := by
        simp only [List.length_cons] at above
        omega
      have typed := shown.typed.trans fills.typed
      have assigned := Host.assign_fills fills stands shown.shaped
        (Layout.logicalSizes_packed _) typed apart (counts _ List.mem_cons_self)
      obtain ⟨_, middle, done, spares, new, fills', read⟩ := assigned
      have delivered : (deliverTo values spec port (Value.ofWhole spec.dtype spec.shape first) :
          Host ρ Unit) state = .ok () middle := by
        unfold deliverTo
        rw [found]
        exact done
      -- The first buffer is full; the other ones, and what is copied into them, are as before.
      have later := @ih middle (first + 1) rows ?_
        (fun pair member => counts pair (List.mem_cons_of_mem _ member)) ?_
      · refine .behind delivered (later.mono fun _ after both => ⟨fun name below => ?_, ?_⟩)
        · rw [both.1 name (below.trans (Nat.lt_succ_self _)),
            spares.others name (below.trans fills.known) below.ne]
        · have held : middle.heap.storage first = new := fills'.held
          rw [shown.read] at read
          rw [List.length_cons, Heap.row_succ, List.map_cons, both.2,
            both.1 first (Nat.lt_succ_self _), held, Except.ok.inj read]
      · intro position spec' found'
        obtain ⟨old', there⟩ := room (position + 1) spec' found'
        rw [Nat.add_assoc, Nat.add_comm 1]
        exact ⟨old', there.spared spares (by omega)⟩
      · refine sources.imp fun pair elements ⟨value, found, shown⟩ => ⟨value, found, ?_⟩
        rw [List.length_cons, ← Nat.add_assoc, Nat.add_right_comm] at shown
        exact shown.spared spares (by omega)

end Map

/-! ### Runs -/

namespace Model

variable {ρ : Type} {model : Model} {known : FeedValues}

theorem run_growing : Work.Growing (fun id node state inputs outputs =>
    node.run id state inputs outputs : Work (Host ρ) (List Value)) := by
  intro id node held inputs outputs state after done
  exact Frame.Holds.grown (fun frame free => .run id node inputs (fun value _ => free value)
    fun value _ => free value) done

/-- What a model gives out stands in new storages. -/
theorem run_new {state : List (List Value)} {before after : HostState ρ} {values : PortValues}
    (done : (model.run state known : Host ρ PortValues) before = .ok values after) :
    before.heap.next ≤ after.heap.next ∧ ∀ name ∈ namesOf (values.map Prod.snd),
      before.heap.next ≤ name ∧ name < after.heap.next := by
  obtain ⟨grown, new⟩ := runEach_new run_growing done
  exact ⟨grown, fun name member => (new name member).resolve_left List.not_mem_nil⟩

end Model

/-! ### Feeds of code -/

section Emitted

open Emission

variable {σ κ : Type} {before after : EmissionState σ} {feeds : FeedValues}

/-- Every node was run. -/
theorem runEach_each {work : Work (Emission σ) κ} {nodes : List (Node × κ)} {id position : NodeId}
    {values values' : PortValues} (done : runEach work feeds id nodes values before =
      .ok values' after) {entry : Node × κ} (found : nodes[position]? = some entry) :
    ∃ found' found'' middle middle', runStep work feeds (id + position) entry.1 entry.2 found' middle =
      .ok found'' middle' := by
  induction nodes generalizing id position values before with
  | nil => cases found
  | cons node rest ih =>
      obtain ⟨one, middle, ran, done⟩ := bind_ok.mp done
      cases position with
      | zero =>
          cases found
          exact ⟨values, one, before, middle, ran⟩
      | succ position =>
          have later := ih done found
          rwa [Nat.add_assoc, Nat.add_comm 1] at later

/-- No code is made for an input node that is not fed. -/
theorem Model.fed_of_emitted {model : Model} (connected : model.Connected)
    {state : List (List Value)} (full : state.length = model.nodes.length) {values : PortValues}
    (done : (model.run state feeds : Emission σ PortValues) before = .ok values after)
    {id : NodeId} {dtype : DType} {sizes : List Nat}
    (input : Map.inputNode? model id = some (dtype, sizes)) : feeds.lookup id ≠ none := by
  obtain ⟨⟨operation, inputs, outputs, memory⟩, here, -, rfl, rfl⟩ := connected.input input
  have below := (List.getElem?_eq_some_iff.mp here).1
  have there : (model.nodes.zip state)[id]? = some (_, state.get ⟨id, full ▸ below⟩) :=
    List.getElem?_zip_eq_some.mpr ⟨here, List.getElem?_eq_getElem _⟩
  obtain ⟨found, found', middle, middle', ran⟩ := runEach_each done there
  intro missing
  obtain ⟨read, _, looked, allocated⟩ := bind_ok.mp ran
  obtain ⟨looked', rfl⟩ := ofExcept_ok.mp looked
  have nothing : (feeds.lookup (0 + id)).toList = read := Except.ok.inj looked'
  rw [Nat.zero_add, missing] at nothing
  subst nothing
  obtain ⟨targets, _, -, worked⟩ := bind_ok.mp allocated
  obtain ⟨_, _, worked', -⟩ := bind_ok.mp worked
  obtain ⟨parameters, _, -, entered⟩ := bind_ok.mp worked'
  obtain ⟨output, _, -, failed⟩ := bind_ok.mp entered
  exact fail_ok failed

end Emitted

/-! ### Outputs -/

/-- A value that is known to be a tensor lives in a storage. -/
theorem Ground.Carried.stands {allowed : Fault → Prop} {ground : Ground allowed} {dtype : DType}
    {sizes : List Nat} {value : Value} {heap : Heap} (carried : ground.Carried dtype sizes value)
    (holds : ground.Holds heap) : ∃ name base, value.Stands heap name base := by
  obtain ⟨name, base, size, place, room, fits⟩ := Ground.Tensor.place carried
  obtain ⟨below, typed, sized⟩ := holds name _ room
  refine ⟨name, base, place, below, (Ground.Tensor.dtype carried).trans (congrArg some typed.symm),
    ?_, fun layout shaped => ?_⟩
  · rw [sized]
    exact (Nat.le_add_right _ _).trans fits
  · cases (Ground.Tensor.layout carried).symm.trans shaped
    exact ⟨.packed sizes, sized ▸ fits⟩

/-- The twin of a value lives in the twin of its storage. -/
theorem Twins.Alike.stands {renamed : NodeId → NodeId → Prop} {world : Twins renamed}
    {value value' : Value} {heap heap' : Heap} {name base : Nat} (alike : world.Alike value value')
    (agrees : world.Agrees heap heap') (stands : value.Stands heap name base) :
    ∃ name', value'.Stands heap' name' base := by
  obtain ⟨typed, shaped, placed⟩ := alike
  rw [stands.place] at placed
  generalize here : value'.place = place' at placed
  cases placed with
  | @host _ name' dtype size _ paired =>
      have same := (agrees.same _ _ _ _ paired).1
      refine ⟨name', here, (agrees.within _ _ _ _ paired).2, ?_, ?_, fun layout found => ?_⟩
      · rw [typed, stands.typed, same]
      · rw [same]
        exact stands.within
      · rw [same]
        exact stands.fits layout (shaped.symm.trans found)

/-- Only arithmetic stops a run. -/
def Calculated (fault : Fault) : Prop :=
  ∃ cause, fault = .error cause ∧ cause.isArithmetic = true

theorem Ground.Counts.of_calculated {count : Nat} (counts : Ground.Counts Calculated count) :
    count ≤ Nat.pow 2 63 := by
  refine counts.resolve_right fun negative => ?_
  obtain ⟨cause, same, arithmetic⟩ := negative 0
  cases same
  simp [Error.isArithmetic, String.toList_append] at arithmetic

/-- A model that is built has no runs that stop but for arithmetic, when its memory has positions. -/
theorem Model.Connected.runnable_calculated {model : Model} (connected : model.Connected)
    (fits : ∀ node ∈ model.nodes, ∀ count ∈ node.extents, count ≤ 2 ^ 63) :
    model.Runnable Calculated := by
  refine ⟨connected, fun node member count inside => .inl (fits node member count inside), ?_⟩
  intro node member op operation source inside left right same typed
  rcases Literal.binary_cases op (typed.trans same.symm) with done | ⟨-, cause, failed, known⟩
  · exact .inl (same ▸ done)
  · refine .inr ⟨cause, failed, cause, rfl, ?_⟩
    rcases known with rfl | rfl
    · rfl
    · simp [Error.isArithmetic, String.toList_append]

namespace Map

/-- A run of the second of two models that go alike, and what is known of the run of the first. -/
structure Beside (model : Model) (evaluation : Evaluation) (values' : PortValues) (final' : Heap)
    (floor : Nat) : Prop where
  bound : ∃ ground : Ground Calculated, ground.Holds evaluation.heap ∧
    ground.Bound model model.size evaluation.values
  alike : ∃ world : Twins Eq, world.Agrees evaluation.heap final' ∧
    (twins Eq Unit Unit).SameValues world evaluation.values values'
  new : ∀ name ∈ namesOf (values'.map Prod.snd), floor ≤ name

variable {model : Model} {evaluation : Evaluation} {values' : PortValues} {final' : Heap}
  {floor : Nat}

/-- What is read off an output, and what is copied for it. -/
theorem Beside.output (beside : Beside model evaluation values' final' floor)
    {name : String} {port : Port} {spec : PortSpec}
    (named : outputSpec model name port = .ok spec) :
    ∃ elements, rowOf evaluation name port = .ok (elements.map Literal.toFloat) ∧
      elementCount spec.shape ≤ Nat.pow 2 63 ∧
        ∃ value, values'.lookup port = some value ∧ Shown final' floor spec elements value := by
  obtain ⟨ground, holds, bound⟩ := beside.bound
  obtain ⟨world, agrees, same⟩ := beside.alike
  obtain ⟨output, known, made⟩ := bind_eq_ok.mp named
  cases made
  obtain ⟨value, found, carried⟩ := bound.port known
  obtain ⟨name₁, base, stands⟩ := carried.stands holds
  obtain ⟨elements, shows⟩ := stands.shows (Ground.Tensor.layout carried)
  have read := stands.literals (Ground.Tensor.layout carried) shows
  have counts := (Ground.Tensor.counts carried).of_calculated
  rw [Layout.logicalSizes_packed] at counts
  have lookup := same.lookup port
  rw [found] at lookup
  generalize found' : values'.lookup port = value? at lookup
  cases lookup with
  | @some _ value' alike =>
      obtain ⟨name₂, stands'⟩ := Twins.Alike.stands alike agrees stands
      refine ⟨elements, ?_, counts, value', rfl, ?_, ?_, ⟨name₂, base, ?_, stands'⟩, ?_⟩
      · unfold rowOf Evaluation.floats?
        rw [found]
        change value.toFloats evaluation.heap = _
        rw [Value.toFloats, read]
        rfl
      · exact alike.dtype.trans (Ground.Tensor.dtype carried)
      · exact alike.layout.trans (Ground.Tensor.layout carried)
      · refine beside.new name₂ (mem_namesOf.mpr ⟨value', ?_, ?_⟩)
        · exact List.mem_map_of_mem (mem_of_lookup found')
        · rw [Value.storage?, stands'.place]
      · exact (Twins.Alike.literals alike agrees).trans read

/-- What is read off all outputs, and what is copied for them. -/
theorem Beside.outputs (beside : Beside model evaluation values' final' floor)
    {outputs : List (String × Port)} {specs : List PortSpec}
    (named : List.Forall₂ (fun output spec => outputSpec model output.1 output.2 = .ok spec)
      outputs specs) :
    ∃ rows : List (List Literal),
      (outputs.mapM fun output => rowOf evaluation output.1 output.2) =
        .ok (rows.map (List.map Literal.toFloat)) ∧
      (∀ pair ∈ specs.zip (outputs.map Prod.snd), elementCount pair.1.shape ≤ Nat.pow 2 63) ∧
      List.Forall₂ (fun pair elements => ∃ value, values'.lookup pair.2 = some value ∧
        Shown final' floor pair.1 elements value) (specs.zip (outputs.map Prod.snd)) rows := by
  induction named with
  | nil => exact ⟨[], rfl, fun _ member => absurd member List.not_mem_nil, .nil⟩
  | cons head _ ih =>
      obtain ⟨elements, read, count, source⟩ := beside.output head
      obtain ⟨rows, read', counts, sources⟩ := ih
      refine ⟨elements :: rows, ?_, List.forall_mem_cons.mpr ⟨count, counts⟩,
        .cons source sources⟩
      rw [List.mapM_cons, read, read']
      rfl

end Map

/-! ### Computations -/

namespace Map

/-- A map whose runs are stopped by arithmetic alone, and whose input nodes are all inputs. -/
structure Serves (map : Map) (inputs outputs : List PortSpec) : Prop where
  inputSpecs : map.inputSpecs = .ok inputs
  outputSpecs : map.outputSpecs = .ok outputs
  runnable : map.model.Runnable Calculated
  total : ∀ id dtype sizes, inputNode? map.model id = some (dtype, sizes) →
    id ∈ map.inputs.map Prod.snd

variable {map : Map} {inputs outputs : List PortSpec} {rows : List (List Float)}

theorem Serves.aged (serves : map.Serves inputs outputs) {later : Map} (aged : map.Aged later) :
    later.Serves inputs outputs where
  inputSpecs := (inputSpecs_aged aged).trans serves.inputSpecs
  outputSpecs := by
    rw [← serves.outputSpecs, Map.outputSpecs, Map.outputSpecs, aged.outputs]
    exact congrArg (map.outputs.mapM ·) (funext fun output =>
      outputSpec_aged aged.model output.1 output.2)
  runnable := serves.runnable.aged aged.model
  total := by
    intro id dtype sizes input
    rw [inputNode?_aged aged.model] at input
    rw [aged.inputs]
    exact serves.total id dtype sizes input

/-- Rows that fit feed the model. -/
theorem Serves.fed (serves : map.Serves inputs outputs) (fitting : Fitting inputs rows) :
    map.model.Fed (rowFeeds map.inputs inputs rows) := by
  have counted := length_inputSpecs serves.inputSpecs
  have named := mapM_forall₂.mp serves.inputSpecs
  refine ⟨fun feed member => ?_, fun id dtype sizes input => ?_, ?_⟩
  · obtain ⟨input, spec, row, -, fits, rfl⟩ := mem_rowFeeds fitting member
    change (Layout.packed spec.shape).span ≤ (Storage.ofFloats spec.dtype row.toArray).size
    rw [Layout.span_packed, Storage.size_ofFloats, fits]
    exact Nat.le_refl _
  · rw [rowFeeds_nodes fitting counted]
    exact serves.total id dtype sizes input
  · intro feed member dtype sizes known
    obtain ⟨input, spec, row, inside, -, rfl⟩ := mem_rowFeeds fitting member
    obtain ⟨found, -⟩ := inputSpec_ok.mp ((List.forall₂_iff_zip.mp named).2 inside)
    cases found.symm.trans known
    exact ⟨rfl, Layout.logicalSizes_packed _⟩

/-- A computation, and the step that is written down, on a heap with the memory of the map, the
feeds and buffers for the outputs. -/
inductive StepsAlike (map : Map) (buffer count : Nat) :
    EStateM.Result Fault Map (List (List Float)) → EStateM.Result Fault (HostState Unit) Unit → Prop
  | ok {model : Model} {final : HostState Unit}
      (memory : model.memory.flatten = final.heap.row 0 map.model.memory.flatten.length) :
      StepsAlike map buffer count
        (.ok ((final.heap.row buffer count).map fun storage => storage.toFloats.toList)
          { map with model := model }) (.ok () final)
  | error {cause : Error} {model : Model} {final : HostState Unit}
      (arithmetic : cause.isArithmetic = true)
      (memory : model.memory.flatten = final.heap.row 0 map.model.memory.flatten.length) :
      StepsAlike map buffer count (.error (.error cause) { map with model := model })
        (.error (.error cause) final)

theorem Aged.step_eq {m : Type → Type} [Kernel m] {later : Map} (aged : map.Aged later)
    (state : List (List Value)) (parameters targets : List Value) :
    (later.step outputs state parameters targets : m Unit) =
      map.step outputs state parameters targets := by
  unfold step stepFeeds
  rw [aged.model.run_eq, aged.inputs, aged.outputs]

section Step

variable {state : List (List Value)} {parameters targets : List Value}
  {before middle after : HostState Unit}

theorem step_failed {fault : Fault}
    (failed : (map.model.run state (map.stepFeeds parameters) : Host Unit PortValues) before =
      .error fault after) :
    (map.step outputs state parameters targets : Host Unit Unit) before = .error fault after :=
  Host.bind_error.mpr (.inl failed)

theorem step_done {values : PortValues}
    (ran : (map.model.run state (map.stepFeeds parameters) : Host Unit PortValues) before =
      .ok values middle)
    (delivered : (deliver values (outputs.zip (map.outputs.map Prod.snd)) targets : Host Unit Unit)
      middle = .ok () after) :
    (map.step outputs state parameters targets : Host Unit Unit) before = .ok () after :=
  Host.bind_ok.mpr ⟨values, middle, ran, delivered⟩

end Step

/-- The buffers of the outputs still wait when the model has run. -/
theorem room_of_run {model : Model} {known : FeedValues} {values : PortValues} {heap : Heap}
    {storages : List Storage} {specs : List PortSpec} {after : HostState Unit}
    (here : heap = model.placed.addAll storages) (within : ∀ entry ∈ known, entry.2.Within heap)
    (ran : (model.run model.placedState known : Host Unit PortValues)
      (Model.started (heap.addAll (blankBuffers specs))) = .ok values after)
    {position : Nat} {spec : PortSpec} (found : specs[position]? = some spec) :
    ∃ old, (Value.ofWhole spec.dtype spec.shape (heap.next + position)).Fills after.heap
      (heap.next + position) spec.shape old := by
  have found' : (blankBuffers specs)[position]? = some (Storage.zeros spec.dtype spec.size) := by
    rw [blankBuffers, List.getElem?_map, found]
    rfl
  have below : heap.next + position < (heap.addAll (blankBuffers specs)).next := by
    rw [Heap.next_addAll]
    exact Nat.add_lt_add_left (List.getElem?_eq_some_iff.mp found').1 _
  have within' : ∀ entry ∈ known, entry.2.Within (heap.addAll (blankBuffers specs)) := by
    intro entry member name base place
    rw [Heap.next_addAll]
    exact Nat.lt_add_right _ (within entry member name base place)
  have whole : heap.addAll (blankBuffers specs) =
      model.placed.addAll (storages ++ blankBuffers specs) := by
    rw [here, Heap.addAll_append]
  have shape := model.run_keeps whole within' below
  rw [ran, Heap.storage_addAll_at heap found'] at shape
  obtain ⟨typed, sized⟩ := shape
  refine ⟨after.heap.storage (heap.next + position), congrArg (Value.ofWhole · _ _) typed.symm,
    below.trans_le (Model.run_new ran).1, rfl, sized.trans (Storage.size_zeros _ _)⟩

/-- The computation of rows that fit goes as the step that is written down. -/
theorem Serves.computes (serves : map.Serves inputs outputs) (fitting : Fitting inputs rows)
    {count : Nat} (here : count = map.model.memory.flatten.length) :
    StepsAlike map (count + inputs.length) outputs.length (compute rows map)
      ((map.step outputs map.model.placedState (bufferValues count inputs)
        (bufferValues (count + inputs.length) outputs) : Host Unit Unit)
        ⟨Heap.empty.addAll (map.model.memory.flatten ++
          (rowBuffers inputs rows ++ blankBuffers outputs)), 0, ()⟩) := by
  have counted := length_inputSpecs serves.inputSpecs
  have fed : map.feeds rows = .ok (rowFeeds map.inputs inputs rows) :=
    ((feeds_cases serves.inputSpecs rows).resolve_right fun refused => refused.1 fitting).2
  have next : map.model.placed.next = count := (Heap.next_empty_addAll _).trans here.symm
  have placed : placeFeeds (rowFeeds map.inputs inputs rows) [] map.model.placed =
      .ok (map.stepFeeds (bufferValues count inputs))
        (map.model.placed.addAll (rowBuffers inputs rows)) := by
    rw [placeFeeds_rows fitting counted, List.append_nil, next]
    rfl
  have within := (placeFeeds_ok placed (List.forall_mem_nil _)).2
  have whole : (⟨Heap.empty.addAll (map.model.memory.flatten ++
      (rowBuffers inputs rows ++ blankBuffers outputs)), 0, ()⟩ : HostState Unit) = Model.started
        ((map.model.placed.addAll (rowBuffers inputs rows)).addAll (blankBuffers outputs)) := by
    rw [Heap.addAll_append, Heap.addAll_append]
    rfl
  have beside := map.model.run_beside (blankBuffers outputs) rfl within
  have safe := Model.compute_safe serves.runnable ((serves.fed fitting).suits_runnable serves.runnable)
  have computed := Model.compute_fed placed
  -- What the model remembers stands in the first storages on both sides.
  have remembered {final final' : HostState Unit} (same : ∀ name <
      (map.model.placed.addAll (rowBuffers inputs rows)).next,
        final'.heap.storage name = final.heap.storage name) :
      (map.model.remembering final.heap).memory.flatten =
        final'.heap.row 0 map.model.memory.flatten.length := by
    rw [map.model.memory_remembering]
    refine (Heap.row_congr fun name _ below => same name ?_).symm
    rw [Heap.next_addAll, next, here]
    omega
  rw [whole]
  generalize ran : (map.model.run map.model.placedState _ : Host Unit PortValues)
    (Model.started (map.model.placed.addAll _)) = end₁ at beside computed
  generalize ran' : (map.model.run map.model.placedState _ : Host Unit PortValues)
    (Model.started ((map.model.placed.addAll _).addAll _)) = end₂ at beside
  cases beside with
  | error same =>
      obtain ⟨cause, rfl, arithmetic⟩ := safe.2 _ _ computed
      rw [compute_failed fed computed, step_failed ran']
      exact .error arithmetic (remembered same)
  | @ok values values' final final' world same agrees alike =>
      have first : (map.model.placed.addAll (rowBuffers inputs rows)).next =
          count + inputs.length := by
        rw [Heap.next_addAll, next, fitting.buffered.length_eq]
      have paired : (outputs.zip (map.outputs.map Prod.snd)).map Prod.fst = outputs := by
        refine List.map_fst_zip ?_
        rw [List.length_map, (mapM_forall₂.mp serves.outputSpecs).length_eq]
      have counted' := congrArg List.length paired
      rw [List.length_map] at counted'
      have new : ∀ name ∈ namesOf (values'.map Prod.snd),
          count + inputs.length + (outputs.zip (map.outputs.map Prod.snd)).length ≤ name := by
        intro name member
        refine Nat.le_trans ?_ ((Model.run_new ran').2 name member).1
        change _ ≤ ((map.model.placed.addAll _).addAll _).next
        rw [Heap.next_addAll, first, blankBuffers, List.length_map, counted']
      have beside : Beside map.model ⟨values, final.heap, final.operations⟩ values' final'.heap _ :=
        ⟨safe.1 _ _ computed, ⟨world, agrees, alike⟩, new⟩
      obtain ⟨rows', read, counts, sources⟩ := beside.outputs
        (mapM_forall₂.mp serves.outputSpecs)
      have ready : Deliverable final'.heap values' (count + inputs.length)
          (outputs.zip (map.outputs.map Prod.snd)) rows' := by
        refine ⟨fun position spec found => ?_, counts, sources⟩
        rw [paired] at found
        have room := room_of_run rfl within ran' found
        rwa [first] at room
      obtain ⟨_, after, delivered, kept, shown⟩ := deliver_yields ready
      rw [paired] at delivered
      rw [counted'] at shown
      have answered : map.rows ⟨values, final.heap, final.operations⟩ =
          .ok ((after.heap.row (count + inputs.length) outputs.length).map
            fun storage => storage.toFloats.toList) := by
        refine read.trans (congrArg Except.ok ?_)
        rw [← shown, List.map_map]
        exact List.map_congr_left fun storage _ => (Array.toList_map ..).symm
      rw [compute_done fed computed, step_done ran' delivered, answered]
      refine .ok ((remembered same).trans (Heap.row_congr fun name _ below => ?_).symm)
      exact kept name (by omega)

end Map

end TensorGraph

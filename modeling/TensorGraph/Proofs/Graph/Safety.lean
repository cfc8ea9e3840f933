/-
Safe runs of a model.

Everything is checked while a model is built.  A run goes through the nodes in
order, and by then every port that a node reads has a value of its type and
shape, so a run of a whole model has no faults but those of integer arithmetic
and of its feeds.
-/

import TensorGraph.Proofs.Graph.Calls
import TensorGraph.Proofs.Graph.Ground
import TensorGraph.Proofs.Graph.Ports
import TensorGraph.Proofs.Graph.Rebuilding

namespace TensorGraph

namespace Ground

variable {allowed : Fault → Prop} {ground later : Ground allowed} {ρ : Type} {model : Model}
  {id : NodeId} {node : Node} {values : PortValues} {known : FeedValues}

/-! ### Values of ports -/

/-- Every port of the nodes before a position has a value of its type and shape. -/
def Bound (ground : Ground allowed) (model : Model) (id : NodeId) (values : PortValues) : Prop :=
  ∀ port output, port.node < id → model.outputPort port = .ok output →
    ∃ value, values.lookup port = some value ∧ ground.Carried output.dtype output.sizes value

theorem Bound.mono (bound : ground.Bound model id values) (growing : ground.Later later) :
    later.Bound model id values := by
  intro port output below found
  obtain ⟨value, here, carried⟩ := bound port output below found
  exact ⟨value, here, carried.mono growing⟩

/-- Every input node has a feed that suits it, unless a feed may be refused. -/
def Feeds (ground : Ground allowed) (model : Model) (known : FeedValues) : Prop :=
  ∀ id dtype sizes, Map.inputNode? model id = some (dtype, sizes) →
    (known.lookup id = none → allowed (Runs.unfed id)) ∧
      ∀ feed, known.lookup id = some feed → ground.Fed dtype sizes feed

theorem Feeds.mono (fed : ground.Feeds model known) (growing : ground.Later later) :
    later.Feeds model known := by
  intro id dtype sizes input
  obtain ⟨missing, suits⟩ := fed id dtype sizes input
  exact ⟨missing, fun feed found => (suits feed found).mono growing⟩

theorem Bound.port (bound : ground.Bound model model.size values) {port : Port}
    {output : OutputPort} (known : model.outputPort port = .ok output) :
    ∃ value, values.lookup port = some value ∧
      ground.Carried output.dtype output.sizes value := by
  refine bound port output ?_ known
  obtain ⟨node, found, -⟩ := Model.outputPort_ok.mp known
  exact (List.getElem?_eq_some_iff.mp found).1

/-- The outputs of the next node are bound as well. -/
theorem Bound.extend {outputs : List Value} (bound : ground.Bound model id values)
    (found : model.nodes[id]? = some node)
    (written : List.Forall₂ (fun output => ground.Carried output.dtype output.sizes)
      node.outputs outputs) :
    ground.Bound model (id + 1) (Model.written id node outputs ++ values) := by
  intro port output below known
  rw [List.lookup_append, Model.lookup_written written.length_eq.symm]
  split
  · rename_i mine
    obtain ⟨node', here, output'⟩ := Model.outputPort_ok.mp known
    rw [mine] at here
    obtain rfl : node = node' := Option.some.inj (found.symm.trans here)
    have carried := Correspondence.rel_getElem? written port.output
    rw [output'] at carried
    generalize outputs[port.output]? = value? at *
    cases carried with
    | some carried => exact ⟨_, rfl, carried⟩
  · rename_i other
    exact bound port output (lt_of_le_of_ne (Nat.le_of_lt_succ below) other) known

/-- What a node reads has values. -/
private theorem Bound.readAll (bound : ground.Bound model id values) {inputs : List InputPort}
    (reads : ∀ input ∈ inputs, (model.before id).Reads input) :
    ∃ read, List.Forall₂ (fun input value => values.lookup input.source = some value)
        inputs read ∧
      List.Forall₂ (fun input : InputPort => ground.Carried input.dtype input.sizes)
        inputs read := by
  induction inputs with
  | nil => exact ⟨[], .nil, .nil⟩
  | cons input rest ih =>
      obtain ⟨read, all, carried⟩ := ih fun other member =>
        reads other (List.mem_cons_of_mem _ member)
      obtain ⟨output, found, same⟩ := Model.inputFrom_ok.mp (reads input List.mem_cons_self)
      obtain ⟨earlier, here⟩ := Model.outputPort_before.mp found
      obtain ⟨value, lookup, first⟩ := bound _ _ earlier here
      refine ⟨value :: read, .cons lookup all, .cons ?_ carried⟩
      rw [same]
      exact first

theorem Bound.readFrom (bound : ground.Bound model id values)
    (reads : ∀ input ∈ node.inputs, (model.before id).Reads input) (known : FeedValues) :
    ∃ inputs, node.readFrom id values known = .ok inputs ∧
      (node.inputs = [] → inputs = (known.lookup id).toList) ∧
        (node.inputs ≠ [] → List.Forall₂
          (fun input : InputPort => ground.Carried input.dtype input.sizes) node.inputs inputs) := by
  by_cases alone : node.inputs = []
  · exact ⟨_, Node.readFrom_feed alone, fun _ => rfl, fun other => (other alone).elim⟩
  · obtain ⟨inputs, all, carried⟩ := bound.readAll reads
    exact ⟨inputs, Node.readFrom_ports alone all, fun other => (alone other).elim,
      fun _ => carried⟩

end Ground

namespace Model

open Ground

/-- A model whose runs have no faults but allowed ones. -/
structure Runnable (allowed : Fault → Prop) (model : Model) : Prop where
  connected : model.Connected
  fits : ∀ node ∈ model.nodes, ∀ count ∈ node.extents, Counts allowed count
  combines : ∀ node ∈ model.nodes, ∀ op, node.operation = .binary op →
    ∀ source ∈ node.inputs, Runs.Combines allowed source.dtype op

end Model

namespace Ground.Runs

open Model

variable {allowed : Fault → Prop} {ground later : Ground allowed} {ρ : Type} {model : Model}
  {known : FeedValues}

theorem allocateOutputs {ports : List OutputPort}
    (counts : ∀ port ∈ ports, Counts allowed port.size) :
    ground.Runs (TensorGraph.allocateOutputs ports : Host ρ (List Value)) fun later =>
      List.Forall₂ (fun port => later.Carried port.dtype port.sizes) ports := by
  induction ports generalizing ground with
  | nil => exact pure .nil
  | cons port rest ih =>
      have room : Counts allowed (elementCount (Layout.packed port.sizes).logicalSizes) := by
        rw [Layout.logicalSizes_packed]
        exact counts port List.mem_cons_self
      refine (allocate port.dtype (Layout.packed port.sizes) room).bind ?_
      rintro one value growing₁ ⟨tensor, -⟩
      refine (ih fun other member => counts other (List.mem_cons_of_mem _ member)).bind ?_
      intro two values growing₂ carried
      exact pure (.cons (tensor.mono growing₂) carried)

/-- A node of the model on what was computed before it. -/
private theorem next (runnable : model.Runnable allowed) {id : NodeId} {node : Node}
    (found : model.nodes[id]? = some node) {state inputs outputs : List Value}
    (kept : List.Forall₂ (fun extent => ground.Carried extent.1 [extent.2])
      (node.state.map Storage.extent) state)
    (fed : ground.Feeds model known) (given : node.inputs = [] → inputs = (known.lookup id).toList)
    (read : node.inputs ≠ [] → List.Forall₂
      (fun input : InputPort => ground.Carried input.dtype input.sizes) node.inputs inputs)
    (written : List.Forall₂ (fun output => ground.Carried output.dtype output.sizes)
      node.outputs outputs) :
    ground.Runs (node.run id state inputs outputs : Host ρ Unit) fun _ _ => True := by
  have member := List.mem_of_getElem? found
  refine Runs.node (runnable.connected.shaped found) ?_ (runnable.combines node member)
    ⟨kept, read, ?_, written⟩
  · exact fun count inside =>
      runnable.fits node member count (List.mem_append_right _ inside)
  · intro dtype sizes operation
    have source : Map.inputNode? model id = some (dtype, sizes) := by
      unfold Map.inputNode? Model.node?
      rw [found]
      simp only [Option.bind_eq_bind, Option.bind_some, operation]
    obtain ⟨memory, connected, -⟩ := runnable.connected id node found
    have none : node.inputs = [] := by
      have taken := (made_of_connect connected).taken
      rw [operation] at taken
      exact List.length_eq_zero_iff.mp (List.mem_singleton.mp taken)
    obtain ⟨missing, suits⟩ := fed id dtype sizes source
    rw [given none]
    cases fed : known.lookup id with
    | none => exact ⟨fun _ => missing fed, nofun⟩
    | some value =>
        refine ⟨nofun, fun feed inside => suits feed ?_⟩
        rw [List.mem_singleton.mp inside]
        exact fed

/-- The nodes from a position on. -/
theorem runNodes (runnable : model.Runnable allowed) {nodes : List (Node × List Value)}
    {id : NodeId} {values : PortValues} (left : model.nodes.drop id = nodes.map Prod.fst)
    (kept : ∀ entry ∈ nodes, List.Forall₂ (fun extent => ground.Carried extent.1 [extent.2])
      (entry.1.state.map Storage.extent) entry.2)
    (fed : ground.Feeds model known) (bound : ground.Bound model id values) :
    ground.Runs (TensorGraph.runNodes known id nodes values : Host ρ PortValues)
      fun later values => later.Bound model (id + nodes.length) values := by
  induction nodes generalizing ground id values with
  | nil => exact pure bound
  | cons entry rest ih =>
      obtain ⟨node, state⟩ := entry
      have found : model.nodes[id]? = some node := by
        rw [← List.head?_drop, left]
        rfl
      have member := List.mem_of_getElem? found
      obtain ⟨memory, connected, -⟩ := runnable.connected id node found
      obtain ⟨inputs, done, given, read⟩ := bound.readFrom (made_of_connect connected).reads known
      have room : ∀ port ∈ node.outputs, Counts allowed port.size := fun port inside =>
        runnable.fits node member _ (List.mem_append_left _
          (List.mem_append_left _ (List.mem_map_of_mem inside)))
      unfold TensorGraph.runNodes runEach runStep
      simp only [bind_assoc, pure_bind]
      refine (exactly done).bind ?_
      rintro one _ growing₁ rfl
      refine (allocateOutputs room).bind fun two outputs growing₂ written => ?_
      have grown := growing₁.trans growing₂
      have state' : List.Forall₂ (fun extent => two.Carried extent.1 [extent.2])
          (node.state.map Storage.extent) state :=
        (kept _ List.mem_cons_self).imp fun _ _ carried => carried.mono grown
      have read' (some : node.inputs ≠ []) := (read some).imp fun _ _ carried =>
        carried.mono grown
      refine (next runnable found state' (fed.mono grown) given read' written).bind ?_
      intro three _ growing₃ _
      have reached := grown.trans growing₃
      have others : model.nodes.drop (id + 1) = rest.map Prod.fst := by
        rw [← List.tail_drop, left]
        rfl
      have written' := written.imp fun _ _ carried => carried.mono growing₃
      have all := ih others
        (fun entry inside => (kept entry (List.mem_cons_of_mem _ inside)).imp
          fun _ _ carried => carried.mono reached)
        (fed.mono reached) ((bound.mono reached).extend found written')
      rw [List.length_cons, Nat.add_comm rest.length 1, ← Nat.add_assoc]
      exact all

end Ground.Runs
/-! ### The start of a run -/

namespace Feed

/-- The value of a feed that was put under a name. -/
def valueAt (feed : Feed) (name : Nat) : Value :=
  { dtype? := some feed.data.dtype
    layout? := some feed.layout
    place := .host name 0 }

/-- The fault of a feed whose layout does not fit its data. -/
def overrun (feed : Feed) : Fault :=
  .error (.invalidArgument ("layout spans " ++ toString feed.layout.span ++
    " elements from offset " ++ toString 0 ++ ", storage holds " ++ toString feed.data.size))

private theorem placed_eq (feed : Feed) (heap : Heap) (fits : feed.layout.span ≤ feed.data.size) :
    Value.ofStorage feed.data feed.layout heap =
      .ok (feed.valueAt heap.next) (heap.add feed.data) := by
  have checked : Value.checkFits feed.layout 0 feed.data.size = .ok () := by
    unfold Value.checkFits
    rw [if_neg (by omega)]
  unfold Value.ofStorage
  rw [checked]
  rfl

private theorem overrun_eq (feed : Feed) (heap : Heap)
    (beyond : ¬ feed.layout.span ≤ feed.data.size) :
    Value.ofStorage feed.data feed.layout heap = .error feed.overrun heap := by
  have checked : Value.checkFits feed.layout 0 feed.data.size =
      .error (.invalidArgument ("layout spans " ++ toString feed.layout.span ++
        " elements from offset " ++ toString 0 ++ ", storage holds " ++
          toString feed.data.size)) := by
    unfold Value.checkFits
    rw [if_pos (by omega)]
  unfold Value.ofStorage
  rw [checked]
  rfl

/-- The entry names a storage with the data of one of the feeds. -/
def Placed (heap : Heap) (feeds : List Feed) (entry : NodeId × Value) : Prop :=
  ∃ feed ∈ feeds, ∃ name, entry = (feed.node, feed.valueAt name) ∧ name < heap.next ∧
    heap.storage name = feed.data ∧ feed.layout.span ≤ feed.data.size

private theorem Placed.add {heap : Heap} {feeds : List Feed} {entry : NodeId × Value}
    (placed : Placed heap feeds entry) (storage : Storage) :
    Placed (heap.add storage) feeds entry := by
  obtain ⟨feed, member, name, same, below, here, fits⟩ := placed
  refine ⟨feed, member, name, same, ?_, (Heap.storage_add_of_lt below).trans here, fits⟩
  rw [Heap.next_add]
  omega

/-- Feeds are put in place, or one of them does not fit its data. -/
private theorem place_cases (all : List Feed) {feeds : List Feed} {known : FeedValues}
    {heap : Heap} (members : ∀ feed ∈ feeds, feed ∈ all)
    (before : ∀ entry ∈ known, Placed heap all entry) :
    (∃ values, placeFeeds feeds known heap = .ok values (heap.addAll (feeds.map Feed.data)) ∧
      (∀ entry ∈ values, Placed (heap.addAll (feeds.map Feed.data)) all entry) ∧
      ∀ id, id ∈ known.map Prod.fst ∨ id ∈ feeds.map Feed.node → id ∈ values.map Prod.fst) ∨
    ∃ feed ∈ feeds, ¬ feed.layout.span ≤ feed.data.size ∧
      ∃ later, placeFeeds feeds known heap = .error feed.overrun later := by
  induction feeds generalizing known heap with
  | nil => exact .inl ⟨known, rfl, before, fun id inside => inside.resolve_right (by simp)⟩
  | cons feed rest ih =>
      by_cases fits : feed.layout.span ≤ feed.data.size
      · have made := feed.placed_eq heap fits
        have first : Placed (heap.add feed.data) all (feed.node, feed.valueAt heap.next) := by
          refine ⟨feed, members feed List.mem_cons_self, heap.next, rfl, ?_,
            Heap.storage_add_self heap feed.data, fits⟩
          rw [Heap.next_add]
          omega
        have before' : ∀ entry ∈ (feed.node, feed.valueAt heap.next) :: known,
            Placed (heap.add feed.data) all entry := by
          intro entry inside
          rcases List.mem_cons.mp inside with rfl | inside
          · exact first
          · exact (before entry inside).add _
        have step : placeFeeds (feed :: rest) known heap =
            placeFeeds rest ((feed.node, feed.valueAt heap.next) :: known) (heap.add feed.data) := by
          rw [placeFeeds]
          simp only [bind, EStateM.bind, made]
        rcases ih (fun other inside => members other (List.mem_cons_of_mem _ inside)) before' with
          ⟨values, done, placed, keys⟩ | ⟨other, inside, beyond, later, failed⟩
        · refine .inl ⟨values, step.trans done, placed, fun id inside => keys id ?_⟩
          rw [List.map_cons, List.mem_cons]
          rw [List.map_cons, List.mem_cons] at inside
          tauto
        · exact .inr ⟨other, List.mem_cons_of_mem _ inside, beyond, later, step.trans failed⟩
      · refine .inr ⟨feed, List.mem_cons_self, fits, heap, ?_⟩
        rw [placeFeeds]
        simp only [bind, EStateM.bind, feed.overrun_eq heap fits]

end Feed

namespace Ground

variable {allowed : Fault → Prop}

/-- A heap on which everything may be written. -/
def whole (allowed : Fault → Prop) (heap : Heap) : Ground allowed :=
  { room? := fun name =>
      if name < heap.next then
        some (.row (heap.storage name).dtype (heap.storage name).size)
      else
        none }

theorem room?_whole {heap : Heap} {name : Nat} (below : name < heap.next) :
    (whole allowed heap).room? name =
      some (.row (heap.storage name).dtype (heap.storage name).size) :=
  if_pos below

theorem whole_holds (heap : Heap) : (whole allowed heap).Holds heap := by
  intro name room known
  by_cases below : name < heap.next
  · cases (room?_whole below).symm.trans known
    exact ⟨below, rfl, rfl⟩
  · cases (if_neg below : (whole allowed heap).room? name = none).symm.trans known

/-- Memory of a node that was put in place. -/
theorem whole_carried {heap : Heap} {storage : Storage} {value : Value}
    (holds : TensorGraph.Holds heap storage value) (counts : Counts allowed storage.size) :
    (whole allowed heap).Carried storage.dtype [storage.size] value := by
  obtain ⟨name, rfl, below, here⟩ := holds
  have known : (whole allowed heap).room? name = _ := room?_whole below
  have single := Layout.elementCount_single storage.size
  rw [here] at known
  exact tensor_packedAt known single.le (single.symm ▸ counts)

end Ground

namespace Model

open Ground

/-- Feeds for every input of a model, as long as they may not be refused. -/
structure Suits (allowed : Fault → Prop) (model : Model) (feeds : List Feed) : Prop where
  ready : ∀ feed ∈ feeds, feed.layout.span ≤ feed.data.size ∨ allowed feed.overrun
  total : ∀ id dtype sizes, Map.inputNode? model id = some (dtype, sizes) →
    id ∈ feeds.map Feed.node ∨ allowed (Runs.unfed id)
  shaped : ∀ feed ∈ feeds, ∀ dtype sizes, Map.inputNode? model feed.node = some (dtype, sizes) →
    (feed.layout.logicalSizes = sizes ∨
      allowed (.error (.sizeMismatch sizes feed.layout.logicalSizes))) ∧
    (feed.data.dtype = dtype ∨ allowed (.error (.dtypes dtype feed.data.dtype))) ∧
    Counts allowed (elementCount feed.layout.logicalSizes)

variable {allowed : Fault → Prop} {model : Model} {feeds : List Feed}

private theorem feeds_placed (suits : model.Suits allowed feeds) {known : FeedValues} {heap : Heap}
    (placed : ∀ entry ∈ known, Feed.Placed heap feeds entry)
    (keys : ∀ id, id ∈ feeds.map Feed.node → id ∈ known.map Prod.fst) :
    (whole allowed heap).Feeds model known := by
  intro id dtype sizes input
  refine ⟨fun missing => ?_, fun value found => ?_⟩
  · refine (suits.total id dtype sizes input).resolve_left fun inside => ?_
    obtain ⟨entry, member, same⟩ := List.mem_map.mp (keys id inside)
    have different := List.lookup_eq_none_iff.mp missing entry member
    simp [same] at different
  · obtain ⟨before, after, rfl, -⟩ := List.lookup_eq_some_iff.mp found
    obtain ⟨feed, member, name, same, below, here, fits⟩ := placed (id, value) (by simp)
    cases same
    obtain ⟨shape, typed, counts⟩ := suits.shaped feed member dtype sizes input
    refine ⟨feed.data.dtype, feed.layout, ⟨rfl, rfl, ⟨name, 0, feed.data.size, rfl, ?_, ?_⟩,
      counts⟩, shape, typed⟩
    · rw [room?_whole below, here]
    · omega

private theorem memory_placed (runnable : model.Runnable allowed) (storages : List Storage) :
    ∀ entry ∈ model.nodes.zip model.placedState,
      List.Forall₂ (fun extent => (whole allowed (model.placed.addAll storages)).Carried
        extent.1 [extent.2]) (entry.1.state.map Storage.extent) entry.2 := by
  have held := memoryHandles_hold Heap.empty model.memory
  change List.Forall₂ _ (model.nodes.map Node.state) model.placedState at held
  rw [List.forall₂_map_left_iff] at held
  rintro ⟨node, state⟩ member
  have holds := (List.forall₂_iff_zip.mp held).2 member
  rw [List.forall₂_map_left_iff]
  refine (List.forall₂_iff_zip.mpr ⟨holds.length_eq, fun inside => ?_⟩)
  have here := (List.forall₂_iff_zip.mp holds).2 inside
  have counts := runnable.fits node (List.of_mem_zip member).1 _ (List.mem_append_left _
    (List.mem_append_right _ (List.mem_map_of_mem (List.of_mem_zip inside).1)))
  exact whole_carried (here.addAll storages) counts

private theorem run_placed (runnable : model.Runnable allowed) (suits : model.Suits allowed feeds)
    {known : FeedValues} {heap : Heap} (here : heap = model.placed.addAll (feeds.map Feed.data))
    (placed : ∀ entry ∈ known, Feed.Placed heap feeds entry)
    (keys : ∀ id, id ∈ feeds.map Feed.node → id ∈ known.map Prod.fst) :
    (whole allowed heap).Runs (model.run model.placedState known : Host Unit PortValues)
      fun later values => later.Bound model model.size values := by
  subst here
  have held := memoryHandles_hold Heap.empty model.memory
  have length : model.nodes.length ≤ model.placedState.length := by
    rw [← List.length_map Node.state]
    exact held.length_eq.le
  have nodes : (model.nodes.zip model.placedState).map Prod.fst = model.nodes :=
    List.map_fst_zip length
  refine (Runs.runNodes runnable ?_ (memory_placed runnable _) (feeds_placed suits placed keys)
    (fun _ _ below _ => (Nat.not_lt_zero _ below).elim)).weaken ?_
  · rw [nodes]
    rfl
  · intro later values _ bound
    rw [List.length_zip, Nat.min_eq_left length, Nat.zero_add] at bound
    exact bound

/-- A run of a model stops with allowed faults only; without one it binds every port. -/
theorem compute_safe (runnable : model.Runnable allowed) (suits : model.Suits allowed feeds) :
    (∀ evaluation after, Model.compute feeds model = .ok evaluation after →
      ∃ ground : Ground allowed, ground.Holds evaluation.heap ∧
        ground.Bound model model.size evaluation.values) ∧
    ∀ fault after, Model.compute feeds model = .error fault after → allowed fault := by
  have empty : ∀ entry ∈ ([] : FeedValues), Feed.Placed model.placed feeds entry := nofun
  have start := Feed.place_cases feeds (fun _ inside => inside) empty
  rcases model.compute_cases feeds with
    ⟨fault, heap, placed, same⟩ | ⟨known, heap, placed, ⟨fault, final, ran, same⟩ | ⟨values, final, ran, same⟩⟩
  · rw [same]
    refine ⟨nofun, ?_⟩
    rintro _ _ ⟨⟩
    rcases start with ⟨known, placed', -⟩ | ⟨feed, member, beyond, later, failed⟩
    · cases placed.symm.trans placed'
    · cases placed.symm.trans failed
      exact (suits.ready feed member).resolve_left beyond
  all_goals
    rcases start with ⟨known', placed', all, keys⟩ | ⟨feed, member, beyond, later, failed⟩
    swap
    · cases placed.symm.trans failed
    cases placed.symm.trans placed'
    obtain ⟨done, failed⟩ := run_placed runnable suits rfl all (fun id inside => keys id (.inr inside))
      (started _) (whole_holds _)
    rw [same]
  · refine ⟨nofun, ?_⟩
    rintro _ _ ⟨⟩
    exact failed fault final ran
  · refine ⟨?_, nofun⟩
    rintro _ _ ⟨⟩
    obtain ⟨ground, -, holds, bound⟩ := done values final ran
    exact ⟨ground, holds, bound⟩

end Model
/-! ### Arithmetic -/

/-- The operation has a result for any two elements of the type. -/
def BinaryOp.Defined (op : BinaryOp) : DType → Prop
  | .bool => op = .min ∨ op = .max
  | .u8 | .i32 | .i64 => op ≠ .div
  | .f32 | .f64 => True

private theorem quotient_cases {α : Type} (wrap : α → Literal) (divides : Bool) (quotient : α) :
    (wrap <$> if divides then Except.ok quotient else .error Literal.noQuotient) =
      .ok (wrap quotient) ∨
    (wrap <$> if divides then Except.ok quotient else .error Literal.noQuotient) =
      .error Literal.noQuotient := by
  cases divides
  · exact .inr rfl
  · exact .inl rfl

/-- What two elements of one type can give. -/
theorem Literal.binary_cases (op : BinaryOp) {left right : Literal}
    (typed : right.dtype = left.dtype) :
    (∃ element, left.binary op right = .ok element ∧ element.dtype = left.dtype) ∨
      ¬ op.Defined left.dtype ∧ ∃ cause, left.binary op right = .error cause ∧
        (cause = noQuotient ∨ cause = .invalidArgument
          ("operation '" ++ op.name ++ "' is not defined on " ++ left.dtype.name)) := by
  cases left with
  | bool left =>
      cases right with
      | bool right =>
          cases op with
          | min | max => exact .inl ⟨_, rfl, rfl⟩
          | _ => exact .inr ⟨by simp [BinaryOp.Defined, dtype], _, rfl, .inr rfl⟩
      | _ => cases typed
  | f32 left | f64 left => exact .inl (float_binary op rfl typed)
  | u8 left =>
      cases right with
      | u8 right =>
          cases op with
          | div =>
              rcases quotient_cases u8 (right != 0) (left / right) with done | failed
              · exact .inl ⟨_, done, rfl⟩
              · exact .inr ⟨fun other => other rfl, _, failed, .inl rfl⟩
          | _ => exact .inl ⟨_, rfl, rfl⟩
      | _ => cases typed
  | i32 left =>
      cases right with
      | i32 right =>
          cases op with
          | div =>
              rcases quotient_cases i32 (right != 0 && !(left == Int32.minValue && right == -1)) (left / right) with done | failed
              · exact .inl ⟨_, done, rfl⟩
              · exact .inr ⟨fun other => other rfl, _, failed, .inl rfl⟩
          | _ => exact .inl ⟨_, rfl, rfl⟩
      | _ => cases typed
  | i64 left =>
      cases right with
      | i64 right =>
          cases op with
          | div =>
              rcases quotient_cases i64 (right != 0 && !(left == Int64.minValue && right == -1)) (left / right) with done | failed
              · exact .inl ⟨_, done, rfl⟩
              · exact .inr ⟨fun other => other rfl, _, failed, .inl rfl⟩
          | _ => exact .inl ⟨_, rfl, rfl⟩
      | _ => cases typed

namespace Model

variable {allowed : Fault → Prop} {model later : Model} {feeds : List Feed}

/-! ### Uses -/

/-- A use of a model between others. -/
inductive Use where
  | compute (feeds : List Feed)
  | reset

/-- The model after a use, also after one that failed. -/
def after (model : Model) : Use → Model
  | .compute feeds => Action.last (Model.compute feeds model)
  | .reset => model.reset

/-- The model after some uses. -/
def used (model : Model) (uses : List Use) : Model :=
  uses.foldl after model

theorem after_aged (model : Model) (use : Use) : model.Aged (model.after use) := by
  cases use with
  | compute feeds => exact model.compute_aged feeds
  | reset => exact model.reset_aged

private theorem Aged.node {model later : Model} (aged : model.Aged later) {node : Node}
    (member : node ∈ later.nodes) :
    ∃ old ∈ model.nodes, node.operation = old.operation ∧ node.inputs = old.inputs ∧
      node.extents = old.extents := by
  obtain ⟨id, here⟩ := List.mem_iff_getElem?.mp member
  have known := aged.node? id
  unfold Model.node? at known
  rw [here] at known
  cases before : model.nodes[id]? with
  | none =>
      rw [before] at known
      cases known
  | some old =>
      rw [before] at known
      cases known with
      | some same =>
      obtain ⟨state, rfl, shapes⟩ := same
      refine ⟨old, List.mem_of_getElem? before, rfl, rfl, ?_⟩
      have sizes := congrArg (List.map Prod.snd) (Storage.extents_eq shapes)
      rw [List.map_map, List.map_map] at sizes
      unfold Node.extents
      exact congrArg (_ ++ · ++ _) sizes

/-- What can be run can be run later. -/
theorem Runnable.aged (runnable : model.Runnable allowed) (aged : model.Aged later) :
    later.Runnable allowed := by
  refine ⟨aged.connected runnable.connected, ?_, ?_⟩
  · intro node member count inside
    obtain ⟨old, before, -, -, extents⟩ := aged.node member
    exact runnable.fits old before count (extents ▸ inside)
  · intro node member op operation source inside
    obtain ⟨old, before, same, inputs, -⟩ := aged.node member
    exact runnable.combines old before op (same ▸ operation) source (inputs ▸ inside)

theorem Suits.aged (suits : model.Suits allowed feeds) (aged : model.Aged later) :
    later.Suits allowed feeds := by
  refine ⟨suits.ready, ?_, ?_⟩
  · intro id
    rw [Map.inputNode?_aged aged]
    exact suits.total id
  · intro feed
    rw [Map.inputNode?_aged aged]
    exact suits.shaped feed

/-! ### Runs without faults -/

/-- The feeds give every input node data of its type and shape. -/
structure Fed (model : Model) (feeds : List Feed) : Prop where
  ready : ∀ feed ∈ feeds, feed.layout.span ≤ feed.data.size
  total : ∀ id dtype sizes, Map.inputNode? model id = some (dtype, sizes) →
    id ∈ feeds.map Feed.node
  suits : ∀ feed ∈ feeds, ∀ dtype sizes, Map.inputNode? model feed.node = some (dtype, sizes) →
    feed.data.dtype = dtype ∧ feed.layout.logicalSizes = sizes

/-- The shape of an input node is that of its output. -/
private theorem input_extent (connected : model.Connected) {id : NodeId} {dtype : DType}
    {sizes : List Nat} (input : Map.inputNode? model id = some (dtype, sizes)) :
    ∃ node ∈ model.nodes, elementCount sizes ∈ node.extents := by
  obtain ⟨node, here, outputs, -⟩ := connected.input input
  refine ⟨node, List.mem_of_getElem? here, ?_⟩
  unfold Node.extents
  rw [outputs]
  exact List.mem_cons_self

/-- Feeds for all inputs suit the model. -/
theorem Fed.suits_runnable (fed : model.Fed feeds) (runnable : model.Runnable allowed) :
    model.Suits allowed feeds := by
  refine ⟨fun feed member => .inl (fed.ready feed member),
    fun id dtype sizes input => .inl (fed.total id dtype sizes input), ?_⟩
  intro feed member dtype sizes input
  obtain ⟨typed, sized⟩ := fed.suits feed member dtype sizes input
  obtain ⟨node, inside, extent⟩ := input_extent runnable.connected input
  exact ⟨.inl sized, .inl typed, sized ▸ runnable.fits node inside _ extent⟩

end Model
end TensorGraph

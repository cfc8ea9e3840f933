/-
Putting maps into a heap.

A node is put into a heap with parameters and memory in new storages, and copied
there with new memory and with the parameters of the node that it is copied from.
Nothing that the heap holds already is changed by either.
-/

import TensorGraph.Proofs.Graph.Growth
import TensorGraph.Proofs.Graph.Hosted

namespace TensorGraph

/-! ### New storages -/

theorem Parameter.handles_held (heap : Heap) (parameters : List Parameter) :
    List.Forall₂ (Parameter.Held (heap.addAll (parameters.map Parameter.elements))) parameters
      (Parameter.handles heap.next parameters) := by
  induction parameters generalizing heap with
  | nil => exact .nil
  | cons parameter rest ih =>
      have others := ih (heap.add parameter.elements)
      rw [Heap.next_add] at others
      refine .cons ⟨heap.next, rfl, ?_, ?_⟩ others
      · rw [Heap.next_addAll, List.length_map, List.length_cons]
        omega
      · have below : heap.next < (heap.add parameter.elements).next := by
          rw [Heap.next_add]
          omega
        exact (Heap.storage_addAll_of_lt below).trans (Heap.storage_add_self heap _)

theorem Parameter.namesOf_handles (name : Nat) (parameters : List Parameter) :
    namesOf (Parameter.handles name parameters) = List.range' name parameters.length := by
  induction parameters generalizing name with
  | nil => rfl
  | cons parameter rest ih => exact congrArg (name :: ·) (ih (name + 1))

theorem namesOf_handles (name : Nat) (storages : List Storage) :
    namesOf (handles name storages) = List.range' name storages.length := by
  rw [← Parameter.handles_ofRow, Parameter.namesOf_handles, List.length_map]

theorem Heap.Grows.addAll (heap : Heap) (storages : List Storage) :
    heap.Grows (heap.addAll storages) := by
  refine ⟨?_, fun name below => Heap.storage_addAll_of_lt below⟩
  rw [Heap.next_addAll]
  omega

/-- Copies of storages stand behind everything else. -/
theorem duplicate_all {heap : Heap} {storages : List Storage} {values : List Value}
    (holds : List.Forall₂ (Holds heap) storages values) :
    values.mapM Value.duplicate heap =
      .ok (handles heap.next storages) (heap.addAll storages) := by
  induction storages generalizing values heap with
  | nil =>
      cases holds
      rfl
  | cons storage rest ih =>
      cases holds with
      | cons head tail =>
      obtain ⟨name, rfl, -, here⟩ := head
      have first : (storage.handle name).duplicate heap =
          .ok (storage.handle heap.next) (heap.add storage) := by
        rw [← here]
        rfl
      have others := ih (tail.imp fun _ _ one => one.addAll [storage])
      rw [List.mapM_cons]
      refine Action.bind_ok.mpr ⟨_, _, first, Action.bind_ok.mpr ⟨_, _, others, ?_⟩⟩
      rw [Heap.addAll, List.foldl_cons, List.foldl_nil, Heap.next_add]
      rfl

/-! ### Nodes in a heap -/

namespace Holding

/-- A node stands in the heap as it is, with what it remembers. -/
structure Shows (heap : Heap) (node : Node) (holding : Holding) : Prop where
  full : ∀ parameter ∈ node.parameters, parameter.Full
  held : List.Forall₂ (Parameter.Held heap) node.parameters holding.parameters
  distinct : (namesOf holding.parameters).Nodup
  holds : List.Forall₂ (Holds heap) node.state holding.memory

variable {heap last : Heap} {node : Node} {holding : Holding}

theorem Shows.rests (shows : Shows heap node holding) : Rests heap node holding := by
  refine ⟨shows.full, shows.held, shows.distinct, shows.holds.imp fun storage value held => ?_⟩
  obtain ⟨name, rfl, below, here⟩ := held
  exact ⟨name, rfl, below, here ▸ ⟨rfl, rfl⟩⟩

theorem Shows.recall_eq (shows : Shows heap node holding) : node.recall heap holding = node := by
  have same : holding.memory.map (contents heap) = node.state := by
    have holds := shows.holds
    generalize node.state = state, holding.memory = memory at holds
    induction holds with
    | nil => rfl
    | cons head _ ih =>
        obtain ⟨name, rfl, -, here⟩ := head
        exact congrArg₂ List.cons here ih
  rw [shows.rests.recall_eq, same]

theorem Rests.shows (rests : Rests heap node holding) :
    Shows heap (node.recall heap holding) holding := by
  rw [rests.recall_eq]
  exact ⟨rests.full, rests.held, rests.distinct, Keeps.holds rests.memory⟩

theorem Shows.grows (shows : Shows heap node holding) (grows : heap.Grows last) :
    Shows last node holding := by
  refine ⟨shows.full, Parameter.held_later shows.held grows.next fun name member =>
    grows.kept name (Parameter.held_below shows.held name member), shows.distinct,
      shows.holds.imp fun storage value held => ?_⟩
  obtain ⟨name, rfl, below, here⟩ := held
  exact ⟨name, rfl, below.trans_le grows.next, (grows.kept name below).trans here⟩

end Holding

/-- Nodes that were put behind everything that a heap held.  Their memory is new; their
parameters are new, or they are among some that were shared. -/
structure Settles (heap last : Heap) (shared : List Nat) (nodes : List Node)
    (holdings : List Holding) : Prop where
  grows : heap.Grows last
  shows : List.Forall₂ (Holding.Shows last) nodes holdings
  fresh : ∀ name ∈ namesOf (holdings.map Holding.memory).flatten, heap.next ≤ name
  distinct : (namesOf (holdings.map Holding.memory).flatten).Nodup
  parameters : ∀ name ∈ namesOf (holdings.map Holding.parameters).flatten, name ∈ shared ∨
    heap.next ≤ name ∧ name ∉ namesOf (holdings.map Holding.memory).flatten

namespace Settles

variable {heap middle last : Heap} {shared : List Nat} {nodes others : List Node}
  {holdings more : List Holding}

theorem nil (grows : heap.Grows last) : Settles heap last shared [] [] :=
  ⟨grows, .nil, nofun, .nil, nofun⟩

theorem memory_below (settles : Settles heap last shared nodes holdings) :
    ∀ name ∈ namesOf (holdings.map Holding.memory).flatten, name < last.next := by
  intro name member
  obtain ⟨holding, one, inside⟩ := mem_namesOf_flatten.mp member
  obtain ⟨node, -, shows⟩ := partner_of_mem settles.shows one
  exact Keeps.below shows.rests.memory name inside

theorem parameters_below (settles : Settles heap last shared nodes holdings) :
    ∀ name ∈ namesOf (holdings.map Holding.parameters).flatten, name < last.next := by
  intro name member
  obtain ⟨holding, one, inside⟩ := mem_namesOf_flatten.mp member
  obtain ⟨node, -, shows⟩ := partner_of_mem settles.shows one
  exact Parameter.held_below shows.held name inside

theorem append (first : Settles heap middle shared nodes holdings)
    (second : Settles middle last shared others more) :
    Settles heap last shared (nodes ++ others) (holdings ++ more) := by
  have names (part : Holding → List Value) : namesOf ((holdings ++ more).map part).flatten =
      namesOf (holdings.map part).flatten ++ namesOf (more.map part).flatten := by
    rw [List.map_append, List.flatten_append, namesOf_append]
  refine ⟨first.grows.trans second.grows, ?_, ?_, ?_, ?_⟩
  · exact List.rel_append (first.shows.imp fun _ _ shows => shows.grows second.grows) second.shows
  · rw [names]
    intro name member
    rcases List.mem_append.mp member with member | member
    · exact first.fresh name member
    · exact first.grows.next.trans (second.fresh name member)
  · rw [names]
    refine List.nodup_append'.mpr ⟨first.distinct, second.distinct, fun name one two => ?_⟩
    exact Nat.lt_irrefl _ ((first.memory_below name one).trans_le (second.fresh name two))
  · rw [names, names]
    intro name member
    rcases List.mem_append.mp member with member | member
    · refine (first.parameters name member).imp_right fun ⟨new, apart⟩ => ⟨new, fun inside => ?_⟩
      rcases List.mem_append.mp inside with inside | inside
      · exact apart inside
      · have before := first.parameters_below name member
        exact Nat.lt_irrefl _ (before.trans_le (second.fresh name inside))
    · refine (second.parameters name member).imp_right fun ⟨new, apart⟩ =>
        ⟨first.grows.next.trans new, fun inside => ?_⟩
      rcases List.mem_append.mp inside with inside | inside
      · exact Nat.lt_irrefl _ ((first.memory_below name inside).trans_le new)
      · exact apart inside

/-- Nodes that share parameters with nodes that were put there before. -/
theorem onward (first : Settles heap middle shared nodes holdings)
    (second : Settles middle last (namesOf (holdings.map Holding.parameters).flatten) others more) :
    Settles heap last shared others more := by
  refine ⟨first.grows.trans second.grows, second.shows, fun name member =>
    first.grows.next.trans (second.fresh name member), second.distinct, fun name member => ?_⟩
  rcases second.parameters name member with old | ⟨new, apart⟩
  · refine (first.parameters name old).imp_right fun ⟨new, _⟩ => ⟨new, fun inside => ?_⟩
    exact Nat.lt_irrefl _ ((first.parameters_below name old).trans_le (second.fresh name inside))
  · exact .inr ⟨first.grows.next.trans new, apart⟩

end Settles

/-- A node is put into the heap. -/
theorem Holding.settle_settles {node : Node} (full : ∀ parameter ∈ node.parameters, parameter.Full)
    (heap : Heap) (shared : List Nat) :
    ∃ holding last, Holding.settle node heap = .ok holding last ∧
      Settles heap last shared [node] [holding] := by
  have placed := placeParameters_eq full heap
  have held := Parameter.handles_held heap node.parameters
  have grows := Heap.Grows.addAll heap (node.parameters.map Parameter.elements)
  have next : (heap.addAll (node.parameters.map Parameter.elements)).next =
      heap.next + node.parameters.length := by
    rw [Heap.next_addAll, List.length_map]
  generalize heap.addAll (node.parameters.map Parameter.elements) = middle at *
  have grows' := Heap.Grows.addAll middle node.state
  refine ⟨_, _, Action.bind_ok.mpr ⟨_, _, placed, Action.bind_ok.mpr
    ⟨_, _, placeAll_eq middle node.state, rfl⟩⟩, grows.trans grows', ?_, ?_, ?_, ?_⟩
  · have shows : Holding.Shows middle { node with state := [] }
        ⟨Parameter.handles heap.next node.parameters, []⟩ :=
      ⟨full, held, by rw [Parameter.namesOf_handles]; exact List.nodup_range', .nil⟩
    have shows' := shows.grows grows'
    exact .cons ⟨full, shows'.held, shows'.distinct, handles_hold middle node.state⟩ .nil
  all_goals
    simp only [List.map_cons, List.map_nil, List.flatten_cons, List.flatten_nil, List.append_nil,
      namesOf_handles, Parameter.namesOf_handles, next]
  · intro name member
    have := List.mem_range'_1.mp member
    omega
  · exact List.nodup_range'
  · intro name member
    have := List.mem_range'_1.mp member
    exact .inr ⟨this.1, fun inside => by
      have := List.mem_range'_1.mp inside
      omega⟩

/-- A node is copied: the copy is told what the node is, and what it reads from. -/
theorem Holding.clone_settles {heap : Heap} {node copy : Node} {holding : Holding}
    (shows : Holding.Shows heap node holding) (same : copy.parameters = node.parameters)
    (state : copy.state = node.state) {shared : List Nat}
    (known : namesOf holding.parameters ⊆ shared) :
    ∃ own last, holding.clone heap = .ok own last ∧
      Settles heap last shared [copy] [own] := by
  have copied := duplicate_all shows.holds
  have grows := Heap.Grows.addAll heap node.state
  refine ⟨_, _, Action.bind_ok.mpr ⟨_, _, copied, rfl⟩, grows, ?_, ?_, ?_, ?_⟩
  · have shows' := shows.grows grows
    refine .cons ⟨?_, ?_, shows'.distinct, ?_⟩ .nil
    · rw [same]
      exact shows'.full
    · rw [same]
      exact shows'.held
    · rw [state]
      exact handles_hold heap node.state
  all_goals
    simp only [List.map_cons, List.map_nil, List.flatten_cons, List.flatten_nil, List.append_nil,
      namesOf_handles]
  · intro name member
    exact (List.mem_range'_1.mp member).1
  · exact List.nodup_range'
  · exact fun name member => .inl (known member)

/-- Nodes are put into the heap one after the other. -/
theorem Holding.settleAll_settles {nodes : List Node}
    (full : ∀ node ∈ nodes, ∀ parameter ∈ node.parameters, parameter.Full) (heap : Heap)
    (shared : List Nat) :
    ∃ holdings last, nodes.mapM Holding.settle heap = .ok holdings last ∧
      Settles heap last shared nodes holdings := by
  induction nodes generalizing heap with
  | nil => exact ⟨[], heap, rfl, .nil (.refl heap)⟩
  | cons node rest ih =>
      obtain ⟨first, others⟩ := List.forall_mem_cons.mp full
      obtain ⟨holding, middle, done, settles⟩ := Holding.settle_settles first heap shared
      obtain ⟨holdings, last, done', settles'⟩ := ih others middle
      rw [List.mapM_cons]
      exact ⟨_, last, Action.bind_ok.mpr ⟨_, _, done, Action.bind_ok.mpr ⟨_, _, done', rfl⟩⟩,
        settles.append settles'⟩

theorem Holding.cloneAll_settles {heap : Heap} {nodes : List Node} {holdings : List Holding}
    (shows : List.Forall₂ (Holding.Shows heap) nodes holdings) {shared : List Nat}
    (known : ∀ holding ∈ holdings, namesOf holding.parameters ⊆ shared) :
    ∃ own last, holdings.mapM Holding.clone heap = .ok own last ∧
      Settles heap last shared nodes own := by
  induction nodes generalizing heap holdings with
  | nil =>
      cases shows
      exact ⟨[], heap, rfl, .nil (.refl heap)⟩
  | cons node rest ih =>
      cases shows with
      | cons head tail =>
      obtain ⟨first, others⟩ := List.forall_mem_cons.mp known
      obtain ⟨own, middle, done, settles⟩ := Holding.clone_settles head rfl rfl first
      obtain ⟨more, last, done', settles'⟩ :=
        ih (tail.imp fun _ _ shows => shows.grows settles.grows) others
      rw [List.mapM_cons]
      exact ⟨_, last, Action.bind_ok.mpr ⟨_, _, done, Action.bind_ok.mpr ⟨_, _, done', rfl⟩⟩,
        settles.append settles'⟩

/-! ### Rebuilding -/

namespace Rebuilding

variable {state next : Rebuilding} {id : NodeId} {node : Node}

/-- A copied node has the parameters and the memory of the node. -/
theorem copy_adds (done : state.copy id node = .ok next) :
    ∃ copy : Node, next.target.nodes = state.target.nodes ++ [copy] ∧
      copy.parameters = node.parameters ∧ copy.state = node.state := by
  obtain ⟨copy, reconnected, done⟩ := bind_eq_ok.mp done
  obtain ⟨⟨target, place⟩, inserted, done⟩ := bind_eq_ok.mp done
  obtain ⟨-, same, -⟩ := Model.insert_ok.mp inserted
  cases done
  obtain ⟨inputs, moved, done⟩ := bind_eq_ok.mp reconnected
  cases done
  have ports : Correspondence.SameInputs node.inputs inputs := by
    refine (mapM_forall₂.mp moved).imp fun input input' step => ?_
    obtain ⟨source, -, done⟩ := bind_eq_ok.mp step
    cases done
    exact ⟨rfl, rfl⟩
  have like : Correspondence.SameNode id id node { node with inputs := inputs } [] :=
    ⟨rfl, ports, fun _ _ => rfl⟩
  exact ⟨_, congrArg Model.nodes same, like.parameters, rfl⟩

theorem chain_adds {target last : Model} {operations : List Operation} {source port : Port}
    (done : chain target operations source = .ok (last, port)) :
    ∃ added, last.nodes = target.nodes ++ added ∧
      ∀ node ∈ added, ∀ parameter ∈ node.parameters, parameter.Full := by
  induction operations generalizing target source with
  | nil =>
      cases done
      exact ⟨[], (List.append_nil _).symm, nofun⟩
  | cons operation rest ih =>
      rw [chain_cons] at done
      obtain ⟨⟨middle, id⟩, added, done⟩ := bind_eq_ok.mp done
      obtain ⟨node, connected, inserted⟩ := bind_eq_ok.mp added
      obtain ⟨-, same, -⟩ := Model.insert_ok.mp inserted
      obtain ⟨more, nodes, full⟩ := ih done
      subst same
      refine ⟨node :: more, nodes.trans (by simp), List.forall_mem_cons.mpr ⟨?_, full⟩⟩
      exact (Model.shaped_of_connect connected).full

/-- The nodes in the place of a node. -/
theorem expand_adds {operations : List Operation}
    (full : ∀ parameter ∈ node.parameters, parameter.Full)
    (done : state.expand id node operations = .ok next) :
    ∃ added, next.target.nodes = state.target.nodes ++ added ∧
      ∀ node ∈ added, ∀ parameter ∈ node.parameters, parameter.Full := by
  unfold expand at done
  cases inputs : node.inputs with
  | nil =>
      rw [inputs] at done
      obtain ⟨copy, nodes, parameters, -⟩ := copy_adds done
      refine ⟨[copy], nodes, fun other member => ?_⟩
      rw [List.mem_singleton.mp member, parameters]
      exact full
  | cons input rest =>
      rw [inputs] at done
      obtain ⟨source, -, done⟩ := bind_eq_ok.mp done
      obtain ⟨⟨target, port⟩, chained, done⟩ := bind_eq_ok.mp done
      cases done
      exact chain_adds chained

end Rebuilding

namespace Resettling

/-- What is rebuilt in the heap is what is rebuilt by itself, and stands there. -/
inductive Follows (heap : Heap) (shared : List Nat) :
    Except Error Rebuilding → EStateM.Result Fault Heap Resettling → Prop where
  | ok {state : Resettling} {last : Heap}
      (settles : Settles heap last shared state.rebuilt.target.nodes state.holdings) :
      Follows heap shared (.ok state.rebuilt) (.ok state last)
  | error (cause : Error) {last : Heap} (grows : heap.Grows last) :
      Follows heap shared (.error cause) (.error (.error cause) last)

variable {heap middle : Heap} {shared : List Nat} {state : Resettling} {node : Node}
  {holding : Holding}

theorem copy_follows
    (settles : Settles heap middle shared state.rebuilt.target.nodes state.holdings)
    (shows : Holding.Shows middle node holding) (known : namesOf holding.parameters ⊆ shared)
    (id : NodeId) :
    Follows heap shared (state.rebuilt.copy id node) (state.copy id node holding middle) := by
  unfold copy
  cases rebuilt : state.rebuilt.copy id node with
  | error cause =>
      obtain ⟨own, last, done, settles'⟩ := Holding.clone_settles shows rfl rfl known
      rw [Action.bind_of_ok done]
      exact .error cause (settles.grows.trans settles'.grows)
  | ok next =>
      obtain ⟨copy, nodes, same, state⟩ := Rebuilding.copy_adds rebuilt
      obtain ⟨own, last, done, settles'⟩ := Holding.clone_settles shows same state known
      rw [Action.bind_of_ok done]
      refine @Follows.ok _ _ { rebuilt := next, holdings := _ } _ ?_
      rw [nodes]
      exact settles.append settles'

theorem expand_follows
    (settles : Settles heap middle shared state.rebuilt.target.nodes state.holdings)
    (full : ∀ parameter ∈ node.parameters, parameter.Full) (id : NodeId)
    (operations : List Operation) :
    Follows heap shared (state.rebuilt.expand id node operations)
      (state.expand id node operations middle) := by
  unfold expand
  cases rebuilt : state.rebuilt.expand id node operations with
  | error cause => exact .error cause settles.grows
  | ok next =>
      obtain ⟨added, nodes, full⟩ := Rebuilding.expand_adds full rebuilt
      obtain ⟨holdings, last, done, settles'⟩ := Holding.settleAll_settles full middle shared
      have dropped : next.target.nodes.drop state.rebuilt.target.size = added := by
        rw [nodes]
        exact List.drop_left
      rw [← dropped] at done
      have given : (Action.ofExcept (.ok next) : Action Heap Rebuilding) middle = .ok next middle :=
        rfl
      rw [Action.bind_of_ok given, Action.bind_of_ok done]
      refine @Follows.ok _ _ { rebuilt := next, holdings := _ } _ ?_
      rw [nodes]
      exact settles.append settles'

/-- After one step the others follow, unless it has stopped. -/
theorem Follows.bind {step : Except Error Rebuilding} {action : Action Heap Resettling}
    (follows : Follows heap shared step (action middle))
    {rest : Rebuilding → Except Error Rebuilding} {rest' : Resettling → Action Heap Resettling}
    (next : ∀ state last, Settles heap last shared state.rebuilt.target.nodes state.holdings →
      Follows heap shared (rest state.rebuilt) (rest' state last)) :
    Follows heap shared (step >>= rest) ((action >>= rest') middle) := by
  generalize ran : action middle = result at follows
  cases follows with
  | error cause grows =>
      rw [Action.bind_of_error ran]
      exact .error cause grows
  | ok settles =>
      rw [Action.bind_of_ok ran]
      exact next _ _ settles

/-- The nodes of a model with what they hold, as they stand in the heap. -/
def Shown (heap : Heap) (shared : List Nat) (items : List ((Node × NodeId) × Holding)) : Prop :=
  ∀ item ∈ items, Holding.Shows heap item.1.1 item.2 ∧ namesOf item.2.parameters ⊆ shared

theorem Shown.ofNodes {nodes : List Node} {holdings : List Holding}
    (shows : List.Forall₂ (Holding.Shows heap) nodes holdings) :
    (nodes.zipIdx.zip holdings).map Prod.fst = nodes.zipIdx ∧
      Shown heap (namesOf (holdings.map Holding.parameters).flatten)
        (nodes.zipIdx.zip holdings) := by
  refine ⟨List.map_fst_zip ?_, fun item member => ?_⟩
  · rw [List.length_zipIdx, shows.length_eq]
  · obtain ⟨id, here⟩ := List.mem_iff_getElem?.mp member
    obtain ⟨first, second⟩ := List.getElem?_zip_eq_some.mp here
    have inside := List.mem_of_getElem? second
    refine ⟨?_, namesOf_mono fun value there =>
      List.mem_flatten.mpr ⟨_, List.mem_map_of_mem inside, there⟩⟩
    have known := Correspondence.rel_getElem? shows id
    have node : nodes[id]? = some item.1.1 := by
      rw [List.getElem?_zipIdx] at first
      obtain ⟨node, found, same⟩ := Option.map_eq_some_iff.mp first
      rw [found, ← same]
    rw [node, second] at known
    cases known with
    | some shows => exact shows

/-- Nothing is rebuilt yet. -/
theorem start_settles (heap : Heap) (shared : List Nat) :
    Settles heap heap shared start.rebuilt.target.nodes start.holdings :=
  .nil (.refl heap)

theorem copyNodes_follows {items : List ((Node × NodeId) × Holding)}
    (shown : Shown heap shared items)
    (settles : Settles heap middle shared state.rebuilt.target.nodes state.holdings) :
    Follows heap shared (Model.copyNodes (items.map Prod.fst) state.rebuilt)
      (copyNodes items state middle) := by
  induction items generalizing state middle with
  | nil => exact .ok settles
  | cons item rest ih =>
      obtain ⟨⟨node, id⟩, holding⟩ := item
      obtain ⟨⟨shows, known⟩, others⟩ := List.forall_mem_cons.mp shown
      exact (copy_follows settles (shows.grows settles.grows) known id).bind
        fun state last settles => ih others settles

theorem refineNodes_follows {items : List ((Node × NodeId) × Holding)}
    (shown : Shown heap shared items)
    (settles : Settles heap middle shared state.rebuilt.target.nodes state.holdings) :
    Follows heap shared (Model.refineNodes (items.map Prod.fst) state.rebuilt)
      (refineNodes items state middle) := by
  induction items generalizing state middle with
  | nil => exact .ok settles
  | cons item rest ih =>
      obtain ⟨⟨node, id⟩, holding⟩ := item
      obtain ⟨⟨shows, known⟩, others⟩ := List.forall_mem_cons.mp shown
      rw [List.map_cons, Model.refineNodes, refineNodes]
      cases node.operation.expansion? with
      | some operations =>
          exact (expand_follows settles shows.full id operations).bind
            fun state last settles => ih others settles
      | none =>
          exact (copy_follows settles (shows.grows settles.grows) known id).bind
            fun state last settles => ih others settles

/-- A model and the counterparts of its ports, as it is rebuilt. -/
def rebuiltOf (pair : Model × PortMap) : Rebuilding :=
  { target := pair.1
    ports := pair.2 }

/-- One pass over what was rebuilt before. -/
private theorem pass_follows
    (settles : Settles heap middle shared state.rebuilt.target.nodes state.holdings) :
    Follows middle (namesOf (state.holdings.map Holding.parameters).flatten)
      (Model.refineNodes state.rebuilt.target.nodes.zipIdx Rebuilding.start)
      (refineNodes (state.rebuilt.target.nodes.zipIdx.zip state.holdings) start middle) := by
  obtain ⟨all, shown⟩ := Shown.ofNodes settles.shows
  have follows := refineNodes_follows shown (start_settles middle _)
  rwa [all] at follows

theorem refineUpTo_follows (passes : Nat)
    (settles : Settles heap middle shared state.rebuilt.target.nodes state.holdings) :
    Follows heap shared
      ((Model.refineUpTo passes state.rebuilt.target state.rebuilt.ports).map rebuiltOf)
      (refineUpTo passes state middle) := by
  induction passes generalizing state middle with
  | zero => exact .ok settles
  | succ passes ih =>
      have pass := pass_follows settles
      rw [Model.refineUpTo, Model.refineOnce, refineUpTo]
      generalize ran : refineNodes (state.rebuilt.target.nodes.zipIdx.zip state.holdings) start middle =
        result at pass
      generalize Model.refineNodes state.rebuilt.target.nodes.zipIdx Rebuilding.start = step at pass
      cases pass with
      | error cause grows =>
          rw [Action.bind_of_error ran]
          exact .error cause (settles.grows.trans grows)
      | @ok next last settles' =>
          rw [Action.bind_of_ok ran]
          have onward := settles.onward settles'
          simp only [bind, Except.bind, pure, Except.pure]
          cases state.rebuilt.ports.compose next.rebuilt.ports with
          | error cause => exact .error cause onward.grows
          | ok ports =>
              let renamed : Resettling :=
                { rebuilt :=
                    { target := next.rebuilt.target
                      ports := ports }
                  holdings := next.holdings }
              change Follows heap shared
                ((if state.rebuilt.target.canExpand then
                    Model.refineUpTo passes renamed.rebuilt.target renamed.rebuilt.ports
                  else
                    .ok (renamed.rebuilt.target, renamed.rebuilt.ports)).map rebuiltOf)
                ((if state.rebuilt.target.canExpand then refineUpTo passes renamed
                  else pure renamed : Action Heap Resettling) last)
              split
              · exact ih onward
              · exact @Follows.ok _ _ renamed _ onward

/-- A model that is refined in the heap is the refined model. -/
theorem refine_follows {model : Model} {holdings : List Holding}
    (shows : List.Forall₂ (Holding.Shows heap) model.nodes holdings) (passes : Nat) :
    Follows heap (namesOf (holdings.map Holding.parameters).flatten)
      ((model.refine passes).map rebuiltOf) (refine model holdings passes heap) := by
  obtain ⟨all, shown⟩ := Shown.ofNodes shows
  have copied := copyNodes_follows shown (start_settles heap _)
  rw [all] at copied
  unfold Model.refine Model.copy refine
  generalize ran : copyNodes (model.nodes.zipIdx.zip holdings) start heap = result at copied
  change Follows heap _ (Model.copyNodes model.nodes.zipIdx Rebuilding.start) result at copied
  generalize Model.copyNodes model.nodes.zipIdx Rebuilding.start = step at copied
  cases copied with
  | error cause grows =>
      rw [Action.bind_of_error ran]
      exact .error cause grows
  | ok settles =>
      rw [Action.bind_of_ok ran]
      exact refineUpTo_follows passes settles

/-- How a refinement in the heap can go. -/
theorem refine_cases {model : Model} {holdings : List Holding}
    (shows : List.Forall₂ (Holding.Shows heap) model.nodes holdings) (passes : Nat) :
    (∃ state last, model.refine passes = .ok (state.rebuilt.target, state.rebuilt.ports) ∧
      refine model holdings passes heap = .ok state last ∧
        Settles heap last (namesOf (holdings.map Holding.parameters).flatten)
          state.rebuilt.target.nodes state.holdings) ∨
    ∃ cause last, model.refine passes = .error cause ∧
      refine model holdings passes heap = .error (.error cause) last ∧ heap.Grows last := by
  have follows := refine_follows shows passes
  cases refined : model.refine passes with
  | error cause =>
      rw [refined] at follows
      change Follows heap _ (.error cause) _ at follows
      generalize refine model holdings passes heap = result at follows
      cases follows with
      | error _ grows => exact .inr ⟨cause, _, rfl, rfl, grows⟩
  | ok pair =>
      rw [refined] at follows
      change Follows heap _ (.ok (rebuiltOf pair)) _ at follows
      generalize same : rebuiltOf pair = rebuilt at follows
      generalize refine model holdings passes heap = result at follows
      cases follows with
      | @ok state last settles =>
          refine .inl ⟨state, last, ?_, rfl, settles⟩
          rw [← same]
          rfl

end Resettling
end TensorGraph

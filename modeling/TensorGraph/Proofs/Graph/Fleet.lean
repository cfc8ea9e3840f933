/-
Isolated copies.

What is made from a map in the heap is what is made from the map by itself, put
behind everything that the heap held before.  Only parameters are taken over.

Maps that stand in one heap share parameters and nothing else: no two nodes have
a storage of memory in common, and no storage of memory holds parameters.  This
stays so whatever is made from the maps and however they are used.  So they
behave as if every one of them were kept by itself.
-/

import TensorGraph.Graph.Fleet
import TensorGraph.Proofs.Graph.Settling

namespace TensorGraph

namespace HostedMap

variable {hosted made : HostedMap} {heap last : Heap} {shared : List Nat}

/-! ### Derived maps -/

/-- A map that was put behind everything else stands there. -/
theorem rests_of_settles (below : ∀ name ∈ shared, name < heap.next)
    (settles : Settles heap last shared made.map.model.nodes made.holdings) : made.Rests last := by
  refine ⟨settles.shows.imp fun _ _ shows => shows.rests, settles.distinct, ?_⟩
  intro name inside member
  rcases settles.parameters name member with old | ⟨-, apart⟩
  · exact Nat.lt_irrefl _ ((below name old).trans_le (settles.fresh name inside))
  · exact apart inside

/-- It is what it was made as. -/
theorem current_of_settles
    (settles : Settles heap last shared made.map.model.nodes made.holdings) :
    made.current last = made.map := by
  have model : made.map.model.recall last made.holdings = made.map.model := by
    have shows := settles.shows
    generalize made.map.model = model, made.holdings = holdings at shows
    obtain ⟨nodes⟩ := model
    unfold Model.recall
    dsimp only at shows ⊢
    congr 1
    induction shows with
    | nil => rfl
    | cons head _ ih => exact congrArg₂ List.cons head.recall_eq ih
  exact congrArg (fun model => { made.map with model := model }) model

theorem settle_settles {map : Map}
    (full : ∀ node ∈ map.model.nodes, ∀ parameter ∈ node.parameters, parameter.Full) (heap : Heap)
    (shared : List Nat) :
    ∃ made last, settle map heap = .ok made last ∧ made.map = map ∧
      Settles heap last shared map.model.nodes made.holdings := by
  obtain ⟨holdings, last, done, settles⟩ := Holding.settleAll_settles full heap shared
  exact ⟨_, last, Action.bind_ok.mpr ⟨_, _, done, rfl⟩, rfl, settles⟩

theorem Rests.shows (rests : hosted.Rests heap) :
    List.Forall₂ (Holding.Shows heap) (hosted.current heap).model.nodes hosted.holdings := by
  have nodes := rests.nodes
  unfold current Model.recall
  dsimp only
  generalize hosted.map.model.nodes = nodes', hosted.holdings = holdings at nodes
  induction nodes with
  | nil => exact .nil
  | cons head _ ih => exact .cons head.shows ih

/-- What is made from a map in the heap is what is made from the map by itself. -/
inductive Derived (hosted : HostedMap) (heap : Heap) :
    Except Fault Portrait → EStateM.Result Fault Heap Instance → Prop where
  | hosted {made : HostedMap} {last : Heap} (reachable : made.map.model.Reachable)
      (settles : Settles heap last (namesOf hosted.parameters) made.map.model.nodes made.holdings) :
      Derived hosted heap (.ok (.host made.map)) (.ok (.hosted made) last)
  | compiled (code : CompiledMap) :
      Derived hosted heap (.ok (.code code)) (.ok (.compiled code) heap)
  | error (fault : Fault) {last : Heap} (grows : heap.Grows last) :
      Derived hosted heap (.error fault) (.error fault last)

theorem Rests.clone (rests : hosted.Rests heap)
    (reachable : (hosted.current heap).model.Reachable) :
    hosted.Derived heap ((hosted.current heap).derive .clone) (hosted.derive .clone heap) := by
  obtain ⟨own, last, done, settles⟩ := Holding.cloneAll_settles rests.shows
    fun holding member => namesOf_mono (parameters_mem member)
  have cloned : hosted.clone heap = .ok { map := hosted.current heap, holdings := own } last :=
    Action.bind_ok.mpr ⟨heap, heap, rfl, Action.bind_ok.mpr ⟨own, last, done, rfl⟩⟩
  have derived : hosted.derive .clone heap = .ok (.hosted _) last :=
    Action.map_ok.mpr ⟨_, cloned, rfl⟩
  rw [derived]
  exact @Derived.hosted hosted heap { map := hosted.current heap, holdings := own } last reachable
    settles

theorem rebase_ok {map next : Map} {model : Model} {ports : PortMap}
    (done : map.rebase model ports = .ok next) : next.model = model := by
  obtain ⟨inputs, -, done⟩ := bind_eq_ok.mp done
  obtain ⟨outputs, -, done⟩ := bind_eq_ok.mp done
  obtain ⟨-, rfl⟩ := Map.ofModel_ok.mp done
  rfl

theorem Rests.refine (rests : hosted.Rests heap)
    (reachable : (hosted.current heap).model.Reachable) (passes : Nat) :
    hosted.Derived heap ((hosted.current heap).derive (.refine passes))
      (hosted.derive (.refine passes) heap) := by
  have map : (hosted.current heap).derive (.refine passes) =
      (((hosted.current heap).model.refine passes >>= fun pair =>
        (hosted.current heap).rebase pair.1 pair.2).mapError .error).map .host := rfl
  rw [map]
  rcases Resettling.refine_cases rests.shows passes with
    ⟨state, last, refined, ran, settles⟩ | ⟨cause, last, refined, ran, grows⟩
  · rw [refined]
    have looked : hosted.refine passes heap = (do
        let map ← Action.ofExcept
          ((hosted.current heap).rebase state.rebuilt.target state.rebuilt.ports)
        return { map := map, holdings := state.holdings } : Action Heap HostedMap) last :=
      Action.bind_of_ok ran
    change Derived hosted heap ((((hosted.current heap).rebase state.rebuilt.target
      state.rebuilt.ports).mapError .error).map .host) _
    cases rebased : (hosted.current heap).rebase state.rebuilt.target state.rebuilt.ports with
    | error cause =>
        rw [rebased] at looked
        have derived : hosted.derive (.refine passes) heap = .error (.error cause) last :=
          Action.map_error.mpr looked
        rw [derived]
        exact .error _ settles.grows
    | ok next =>
        rw [rebased] at looked
        have derived : hosted.derive (.refine passes) heap =
            .ok (.hosted { map := next, holdings := state.holdings }) last :=
          Action.map_ok.mpr ⟨_, looked, rfl⟩
        rw [derived]
        have same := rebase_ok rebased
        refine @Derived.hosted hosted heap { map := next, holdings := state.holdings } last ?_ ?_
        · rw [same]
          exact reachable.refine refined
        · rw [same]
          exact settles
  · rw [refined]
    have looked : hosted.refine passes heap = .error (.error cause) last :=
      Action.bind_error.mpr (.inr ⟨heap, heap, rfl, Action.bind_error.mpr (.inl ran)⟩)
    have derived : hosted.derive (.refine passes) heap = .error (.error cause) last :=
      Action.map_error.mpr looked
    rw [derived]
    exact .error _ grows

theorem full_of_reachable {model : Model} (reachable : model.Reachable) :
    ∀ node ∈ model.nodes, ∀ parameter ∈ node.parameters, parameter.Full := by
  intro node member
  obtain ⟨id, found⟩ := List.mem_iff_getElem?.mp member
  exact (reachable.connected.shaped found).full

theorem ofArchive_model {registry : Registry} {archive : MapArchive} {map : Map}
    (done : Map.ofArchive registry archive = .ok map) : map.model.Reachable := by
  obtain ⟨⟨model, ids⟩, read, done⟩ := bind_eq_ok.mp done
  obtain ⟨inputs, -, done⟩ := bind_eq_ok.mp done
  obtain ⟨outputs, -, done⟩ := bind_eq_ok.mp done
  obtain ⟨-, rfl⟩ := Map.ofModel_ok.mp done
  exact Model.ofArchive_reachable read

theorem reload_derived (hosted : HostedMap) (heap : Heap) (registry : Registry) :
    hosted.Derived heap ((hosted.current heap).derive (.reload registry))
      (hosted.derive (.reload registry) heap) := by
  unfold Map.derive
  dsimp only
  cases read : Map.ofArchive registry (hosted.current heap).archive with
  | error cause =>
      have looked : hosted.reload registry heap = .error (.error cause) heap := by
        refine Action.bind_error.mpr (.inr ⟨heap, heap, rfl, Action.bind_error.mpr (.inl ?_)⟩)
        exact Action.ofExcept_error.mpr ⟨cause, read, rfl, rfl⟩
      have derived : hosted.derive (.reload registry) heap = .error (.error cause) heap :=
        Action.map_error.mpr looked
      rw [derived]
      exact .error _ (.refl heap)
  | ok map =>
      have reachable := ofArchive_model read
      obtain ⟨made, last, done, rfl, settles⟩ :=
        settle_settles (full_of_reachable reachable) heap (namesOf hosted.parameters)
      have looked : hosted.reload registry heap = .ok made last := by
        refine Action.bind_ok.mpr ⟨heap, heap, rfl, ?_⟩
        exact Action.bind_ok.mpr ⟨_, heap, Action.ofExcept_ok.mpr ⟨read, rfl⟩, done⟩
      have derived : hosted.derive (.reload registry) heap = .ok (.hosted made) last :=
        Action.map_ok.mpr ⟨_, looked, rfl⟩
      rw [derived]
      exact .hosted reachable settles

theorem Rests.derive (rests : hosted.Rests heap)
    (reachable : (hosted.current heap).model.Reachable) (how : Derivation) :
    hosted.Derived heap ((hosted.current heap).derive how) (hosted.derive how heap) := by
  cases how with
  | clone => exact rests.clone reachable
  | refine passes => exact rests.refine reachable passes
  | reload registry => exact reload_derived hosted heap registry
  | compile options =>
      unfold Map.derive HostedMap.derive
      dsimp only
      cases (hosted.current heap).compile options with
      | error fault => exact .error fault (.refl heap)
      | ok code => exact .compiled code

end HostedMap

/-! ### Sound fleets -/

namespace Instance

/-- The parameters of an instance that stands in the heap. -/
def parameters : Instance → List Value
  | hosted map => map.parameters
  | compiled _ => []

/-- The memory of an instance that stands in the heap. -/
def memory : Instance → List Value
  | hosted map => map.memory
  | compiled _ => []

end Instance

namespace Fleet

variable {fleet : Fleet} {hosted : HostedMap} {last : Heap}

def parameters (fleet : Fleet) : List Value :=
  (fleet.instances.map Instance.parameters).flatten

def memory (fleet : Fleet) : List Value :=
  (fleet.instances.map Instance.memory).flatten

/-- The instances by themselves, as they are at the moment. -/
def portraits (fleet : Fleet) : List Portrait :=
  fleet.instances.map (Instance.portrait fleet.heap)

/-- No storage of memory is shared, neither with other memory nor with parameters. -/
structure Sound (fleet : Fleet) : Prop where
  rests : ∀ hosted, .hosted hosted ∈ fleet.instances → hosted.Rests fleet.heap
  reachable : ∀ hosted, .hosted hosted ∈ fleet.instances → hosted.map.model.Reachable
  distinct : (namesOf fleet.memory).Nodup
  apart : ∀ name ∈ namesOf fleet.memory, name ∉ namesOf fleet.parameters

theorem parameters_mem (member : .hosted hosted ∈ fleet.instances) :
    hosted.parameters ⊆ fleet.parameters := fun _ inside =>
  List.mem_flatten.mpr ⟨_, List.mem_map_of_mem member, inside⟩

theorem memory_mem (member : .hosted hosted ∈ fleet.instances) :
    hosted.memory ⊆ fleet.memory := fun _ inside =>
  List.mem_flatten.mpr ⟨_, List.mem_map_of_mem member, inside⟩

/-- Whatever has a name in the heap is there. -/
theorem Sound.parameters_below (sound : fleet.Sound) :
    ∀ name ∈ namesOf fleet.parameters, name < fleet.heap.next := by
  intro name member
  obtain ⟨one, here, inside⟩ := mem_namesOf_flatten.mp member
  cases one with
  | hosted map => exact (sound.rests map here).parameters_below name inside
  | compiled map => cases inside

theorem Sound.memory_below (sound : fleet.Sound) :
    ∀ name ∈ namesOf fleet.memory, name < fleet.heap.next := by
  intro name member
  obtain ⟨one, here, inside⟩ := mem_namesOf_flatten.mp member
  cases one with
  | hosted map => exact (sound.rests map here).memory_below name inside
  | compiled map => cases inside

/-- Two instances have no memory in common. -/
theorem Sound.disjoint (sound : fleet.Sound) {first second : Nat} (different : first ≠ second)
    {one two : Instance} (here : fleet.instances[first]? = some one)
    (there : fleet.instances[second]? = some two) :
    (namesOf one.memory).Disjoint (namesOf two.memory) :=
  namesOf_disjoint sound.distinct different here there

/-- A later heap in which nobody wrote to parameters, and memory kept its types and sizes. -/
theorem Sound.later (sound : fleet.Sound) (grown : fleet.heap.next ≤ last.next)
    (same : ∀ name ∈ namesOf fleet.parameters, last.storage name = fleet.heap.storage name)
    (shapes : ∀ name ∈ namesOf fleet.memory,
      (fleet.heap.storage name).SameShape (last.storage name)) :
    Sound { fleet with heap := last } :=
  ⟨fun hosted member => (sound.rests hosted member).later grown
      (fun name inside => same name (namesOf_mono (parameters_mem member) inside))
      fun name inside => shapes name (namesOf_mono (memory_mem member) inside),
    sound.reachable, sound.distinct, sound.apart⟩

theorem Sound.grows (sound : fleet.Sound) (grows : fleet.heap.Grows last) :
    Sound { fleet with heap := last } :=
  sound.later grows.next (fun name member => grows.kept name (sound.parameters_below name member))
    fun name member => by
      rw [grows.kept name (sound.memory_below name member)]
      exact ⟨rfl, rfl⟩

theorem Sound.leaves (sound : fleet.Sound) (member : .hosted hosted ∈ fleet.instances)
    (leaves : hosted.Leaves fleet.heap last) : Sound { fleet with heap := last } := by
  refine sound.later leaves.kept.next (fun name inside => ?_) fun name inside => ?_
  · exact leaves.kept.same name (sound.parameters_below name inside) fun own =>
      sound.apart name (namesOf_mono (memory_mem member) own) inside
  · by_cases own : name ∈ namesOf hosted.memory
    · exact leaves.shapes name own
    · rw [leaves.kept.same name (sound.memory_below name inside) own]
      exact ⟨rfl, rfl⟩

/-! ### Portraits -/

theorem portraits_getElem? (fleet : Fleet) (member : Nat) :
    fleet.portraits[member]? = (fleet.instances[member]?).map (Instance.portrait fleet.heap) :=
  List.getElem?_map

/-- An instance looks the same when nobody has written to its memory. -/
theorem Sound.portrait_grows (sound : fleet.Sound) (grows : fleet.heap.Grows last) :
    fleet.instances.map (Instance.portrait last) = fleet.portraits := by
  refine List.map_congr_left fun one member => ?_
  cases one with
  | hosted map => exact congrArg Portrait.host ((sound.rests map member).current_grows grows)
  | compiled map => rfl

/-- A run of one instance does not show in the others. -/
theorem Sound.portrait_leaves (sound : fleet.Sound) {member other : Nat}
    (different : other ≠ member)
    (here : fleet.instances[member]? = some (.hosted hosted))
    (leaves : hosted.Leaves fleet.heap last) {one : Instance}
    (there : fleet.instances[other]? = some one) :
    one.portrait last = one.portrait fleet.heap := by
  cases one with
  | compiled map => rfl
  | hosted map =>
      have inside := List.mem_of_getElem? there
      have rests := sound.rests map inside
      have rests' := (sound.leaves (List.mem_of_getElem? here) leaves).rests map inside
      refine congrArg Portrait.host (rests.current_later rests' fun name own => ?_)
      exact leaves.kept.same name (rests.memory_below name own)
        fun mine => sound.disjoint different there here own mine

end Fleet

/-! ### Calls -/

/-- A call in the heap answers as that on the map by itself, and leaves the map as that does. -/
theorem HostedMap.Rests.call {hosted : HostedMap} {heap : Heap} (rests : hosted.Rests heap)
    (request : Map.Call) :
    Action.outcome (hosted.call request heap) = (hosted.current heap).answer request ∧
      hosted.current (Action.last (hosted.call request heap)) =
        (hosted.current heap).next request ∧
        hosted.Leaves heap (Action.last (hosted.call request heap)) := by
  cases request with
  | compute rows => exact rests.compute rows
  | reset =>
      obtain ⟨last, done, same, leaves⟩ := rests.reset
      have called : hosted.call .reset heap = .ok [] last :=
        Action.bind_ok.mpr ⟨(), last, done, rfl⟩
      rw [called]
      exact ⟨rfl, same, leaves⟩

/-- Instances of which every one is kept by itself, after a command. -/
def Portrait.isolated (portraits : List Portrait) : Command → List Portrait
  | .derive source how =>
      match portraits[source]? with
      | some (.host map) =>
          match map.derive how with
          | .ok made => portraits ++ [made]
          | .error _ => portraits
      | _ => portraits
  | .call member request =>
      match portraits[member]? with
      | some used => portraits.set member (used.call request).2
      | none => portraits

namespace Fleet

variable {fleet later : Fleet} {portraits : List Portrait}

/-! ### Steps -/

/-- What a command can do to a fleet, and to its instances by themselves. -/
inductive Step (fleet : Fleet) : Fleet → List Portrait → Prop where
  | refused {last : Heap} (grows : fleet.heap.Grows last) :
      Step fleet { fleet with heap := last } fleet.portraits
  | used {member : Nat} {hosted : HostedMap} {last : Heap}
      (here : fleet.instances[member]? = some (.hosted hosted))
      (leaves : hosted.Leaves fleet.heap last) :
      Step fleet { fleet with heap := last }
        (fleet.portraits.set member (.host (hosted.current last)))
  | ran {member : Nat} {code : CompiledMap} (next : CompiledMap)
      (here : fleet.instances[member]? = some (.compiled code)) :
      Step fleet { fleet with instances := fleet.instances.set member (.compiled next) }
        (fleet.portraits.set member (.code next))
  | settled {hosted made : HostedMap} {last : Heap} (member : .hosted hosted ∈ fleet.instances)
      (reachable : made.map.model.Reachable)
      (settles : Settles fleet.heap last (namesOf hosted.parameters) made.map.model.nodes
        made.holdings) :
      Step fleet { heap := last, instances := fleet.instances ++ [.hosted made] }
        (fleet.portraits ++ [.host made.map])
  | compiled (code : CompiledMap) :
      Step fleet { fleet with instances := fleet.instances ++ [.compiled code] }
        (fleet.portraits ++ [.code code])

private theorem Sound.call_steps (sound : fleet.Sound) (member : Nat) (request : Map.Call) :
    Step fleet (fleet.call member request)
      (Portrait.isolated fleet.portraits (.call member request)) := by
  unfold Fleet.call Portrait.isolated
  dsimp only
  rw [portraits_getElem?]
  cases here : fleet.instances[member]? with
  | none => exact .refused (.refl fleet.heap)
  | some used =>
      cases used with
      | compiled code => exact .ran _ here
      | hosted hosted =>
          obtain ⟨-, current, leaves⟩ :=
            (sound.rests hosted (List.mem_of_getElem? here)).call request
          have stays : fleet.instances.set member (.hosted hosted) = fleet.instances := by
            obtain ⟨within, same⟩ := List.getElem?_eq_some_iff.mp here
            rw [← same, List.set_getElem_self]
          change Step fleet ⟨_, fleet.instances.set member (.hosted hosted)⟩
            (fleet.portraits.set member (.host ((hosted.current fleet.heap).next request)))
          rw [stays, ← current]
          exact .used here leaves

private theorem Sound.derive_steps (sound : fleet.Sound) (source : Nat) (how : Derivation) :
    Step fleet (fleet.derive source how)
      (Portrait.isolated fleet.portraits (.derive source how)) := by
  unfold Fleet.derive Portrait.isolated
  dsimp only
  rw [portraits_getElem?]
  cases here : fleet.instances[source]? with
  | none => exact .refused (.refl fleet.heap)
  | some used =>
      cases used with
      | compiled code => exact .refused (.refl fleet.heap)
      | hosted hosted =>
          have member := List.mem_of_getElem? here
          have rests := sound.rests hosted member
          have derived := rests.derive
            ((sound.reachable hosted member).aged rests.aged.model) how
          simp only [Option.map_some, Instance.portrait]
          generalize (hosted.current fleet.heap).derive how = pure, hosted.derive how fleet.heap =
            result at derived
          cases derived with
          | error fault grows => exact .refused grows
          | compiled code => exact .compiled code
          | hosted reachable settles => exact .settled member reachable settles

theorem Sound.steps (sound : fleet.Sound) (command : Command) :
    Step fleet (fleet.next command) (Portrait.isolated fleet.portraits command) := by
  cases command with
  | derive source how => exact sound.derive_steps source how
  | call member request => exact sound.call_steps member request

/-! ### What steps preserve -/

private theorem parts_set {member : Nat} {code : CompiledMap}
    (here : fleet.instances[member]? = some (.compiled code)) (next : CompiledMap)
    {part : Instance → List Value} (nothing : ∀ code, part (.compiled code) = []) :
    (fleet.instances.set member (.compiled next)).map part = fleet.instances.map part := by
  rw [List.map_set, nothing]
  refine List.ext_getElem? fun other => ?_
  rw [List.getElem?_set, List.getElem?_map]
  split
  · rename_i same
    subst same
    rw [here, List.length_map, if_pos (List.getElem?_eq_some_iff.mp here).1, Option.map_some,
      nothing]
  · rfl

theorem memory_set {member : Nat} {code : CompiledMap}
    (here : fleet.instances[member]? = some (.compiled code)) (next : CompiledMap) :
    Fleet.memory { fleet with instances := fleet.instances.set member (.compiled next) } =
      fleet.memory :=
  congrArg List.flatten (parts_set here next fun _ => rfl)

theorem parameters_set {member : Nat} {code : CompiledMap}
    (here : fleet.instances[member]? = some (.compiled code)) (next : CompiledMap) :
    Fleet.parameters { fleet with instances := fleet.instances.set member (.compiled next) } =
      fleet.parameters :=
  congrArg List.flatten (parts_set here next fun _ => rfl)

/-- Code has nothing in the heap. -/
private theorem Sound.set_compiled (sound : fleet.Sound) {member : Nat} {code : CompiledMap}
    (here : fleet.instances[member]? = some (.compiled code)) (next : CompiledMap) :
    Sound { fleet with instances := fleet.instances.set member (.compiled next) } := by
  have old {hosted : HostedMap}
      (inside : .hosted hosted ∈ fleet.instances.set member (.compiled next)) :
      .hosted hosted ∈ fleet.instances :=
    (List.mem_or_eq_of_mem_set inside).resolve_right nofun
  refine ⟨fun hosted inside => sound.rests hosted (old inside), fun hosted inside =>
    sound.reachable hosted (old inside), ?_, ?_⟩
  · rw [memory_set here]
    exact sound.distinct
  · rw [memory_set here, parameters_set here]
    exact sound.apart

theorem memory_append (fleet : Fleet) (heap : Heap) (made : Instance) :
    Fleet.memory { heap := heap, instances := fleet.instances ++ [made] } =
      fleet.memory ++ made.memory := by
  unfold memory
  rw [List.map_append, List.flatten_append, List.map_singleton, List.flatten_singleton]

theorem parameters_append (fleet : Fleet) (heap : Heap) (made : Instance) :
    Fleet.parameters { heap := heap, instances := fleet.instances ++ [made] } =
      fleet.parameters ++ made.parameters := by
  unfold parameters
  rw [List.map_append, List.flatten_append, List.map_singleton, List.flatten_singleton]

/-- A new map beside the others. -/
private theorem Sound.add_hosted (sound : fleet.Sound) {hosted made : HostedMap} {last : Heap}
    (member : .hosted hosted ∈ fleet.instances) (reachable : made.map.model.Reachable)
    (settles : Settles fleet.heap last (namesOf hosted.parameters) made.map.model.nodes
      made.holdings) :
    Sound { heap := last, instances := fleet.instances ++ [.hosted made] } := by
  have older := sound.grows settles.grows
  have shared : ∀ name ∈ namesOf hosted.parameters, name ∈ namesOf fleet.parameters :=
    fun name inside => namesOf_mono (parameters_mem member) inside
  have rests : made.Rests last := HostedMap.rests_of_settles
    (fun name inside => sound.parameters_below name (shared name inside)) settles
  refine ⟨fun other inside => ?_, fun other inside => ?_, ?_, ?_⟩
  · rcases List.mem_append.mp inside with inside | inside
    · exact older.rests other inside
    · cases List.mem_singleton.mp inside
      exact rests
  · rcases List.mem_append.mp inside with inside | inside
    · exact sound.reachable other inside
    · cases List.mem_singleton.mp inside
      exact reachable
  · rw [memory_append, namesOf_append]
    refine List.nodup_append'.mpr ⟨sound.distinct, rests.distinct, fun name old new => ?_⟩
    exact Nat.lt_irrefl _ ((sound.memory_below name old).trans_le (settles.fresh name new))
  · rw [memory_append, parameters_append, namesOf_append, namesOf_append]
    intro name inside other
    rcases List.mem_append.mp inside with old | new
    · rcases List.mem_append.mp other with other | other
      · exact sound.apart name old other
      · rcases settles.parameters name other with known | ⟨above, -⟩
        · exact sound.apart name old (shared name known)
        · exact Nat.lt_irrefl _ ((sound.memory_below name old).trans_le above)
    · rcases List.mem_append.mp other with other | other
      · have below := sound.parameters_below name other
        exact Nat.lt_irrefl _ (below.trans_le (settles.fresh name new))
      · exact rests.apart name new other

/-- Code beside the others. -/
private theorem Sound.add_compiled (sound : fleet.Sound) (code : CompiledMap) :
    Sound { fleet with instances := fleet.instances ++ [.compiled code] } := by
  have old {hosted : HostedMap} (inside : .hosted hosted ∈ fleet.instances ++ [.compiled code]) :
      .hosted hosted ∈ fleet.instances :=
    (List.mem_append.mp inside).resolve_right fun other => by cases List.mem_singleton.mp other
  refine ⟨fun hosted inside => sound.rests hosted (old inside), fun hosted inside =>
    sound.reachable hosted (old inside), ?_, ?_⟩
  · rw [memory_append, namesOf_append]
    exact (List.append_nil _).symm ▸ sound.distinct
  · rw [memory_append, parameters_append, namesOf_append, namesOf_append]
    exact (List.append_nil (namesOf fleet.memory)).symm ▸
      (List.append_nil (namesOf fleet.parameters)).symm ▸ sound.apart

/-- A run of one instance shows in this instance only. -/
private theorem Sound.portraits_used (sound : fleet.Sound) {member : Nat} {hosted : HostedMap}
    {last : Heap} (here : fleet.instances[member]? = some (.hosted hosted))
    (leaves : hosted.Leaves fleet.heap last) :
    fleet.instances.map (Instance.portrait last) =
      fleet.portraits.set member (.host (hosted.current last)) := by
  refine List.ext_getElem? fun other => ?_
  rw [List.getElem?_map, List.getElem?_set, Fleet.portraits, List.length_map, List.getElem?_map]
  split
  · rename_i same
    subst same
    rw [if_pos (List.getElem?_eq_some_iff.mp here).1, here]
    rfl
  · rename_i different
    cases there : fleet.instances[other]? with
    | none => rfl
    | some one =>
        exact congrArg some (sound.portrait_leaves (Ne.symm different) here leaves there)

theorem Sound.step (sound : fleet.Sound) (step : Step fleet later portraits) :
    later.Sound ∧ later.portraits = portraits := by
  cases step with
  | refused grows => exact ⟨sound.grows grows, sound.portrait_grows grows⟩
  | used here leaves =>
      exact ⟨sound.leaves (List.mem_of_getElem? here) leaves, sound.portraits_used here leaves⟩
  | ran next here => exact ⟨sound.set_compiled here next, List.map_set⟩
  | settled member reachable settles =>
      refine ⟨sound.add_hosted member reachable settles, List.map_append.trans ?_⟩
      rw [sound.portrait_grows settles.grows, List.map_singleton, Instance.portrait,
        HostedMap.current_of_settles settles]
  | compiled code => exact ⟨sound.add_compiled code, List.map_append⟩

theorem Sound.next (sound : fleet.Sound) (command : Command) :
    (fleet.next command).Sound ∧
      (fleet.next command).portraits = Portrait.isolated fleet.portraits command :=
  sound.step (sound.steps command)

theorem Sound.after (sound : fleet.Sound) (commands : List Command) :
    (fleet.after commands).Sound ∧
      (fleet.after commands).portraits = commands.foldl Portrait.isolated fleet.portraits := by
  induction commands generalizing fleet with
  | nil => exact ⟨sound, rfl⟩
  | cons command rest ih =>
      obtain ⟨sound', same⟩ := sound.next command
      obtain ⟨sound'', same'⟩ := ih sound'
      exact ⟨sound'', same'.trans (congrArg (rest.foldl Portrait.isolated) same)⟩

private theorem Step.mem (step : Step fleet later portraits) {hosted : HostedMap}
    (inside : .hosted hosted ∈ fleet.instances) : .hosted hosted ∈ later.instances := by
  cases step with
  | refused | used => exact inside
  | @ran member code next here =>
      obtain ⟨other, there⟩ := List.mem_iff_getElem?.mp inside
      have different : member ≠ other := by
        rintro rfl
        cases here.symm.trans there
      exact List.mem_of_getElem? ((List.getElem?_set_ne different).trans there)
  | settled | compiled => exact List.mem_append_left _ inside

/-- Later, nothing has been written but memory, and what was not memory is none now. -/
structure Quiet (fleet later : Fleet) : Prop where
  next : fleet.heap.next ≤ later.heap.next
  same : ∀ name < fleet.heap.next, name ∉ namesOf fleet.memory →
    later.heap.storage name = fleet.heap.storage name
  apart : ∀ name < fleet.heap.next, name ∉ namesOf fleet.memory → name ∉ namesOf later.memory

theorem Quiet.trans {last : Fleet} (one : fleet.Quiet later) (two : later.Quiet last) :
    fleet.Quiet last := by
  refine ⟨one.next.trans two.next, fun name below outside => ?_, fun name below outside => ?_⟩
  · exact (two.same name (below.trans_le one.next) (one.apart name below outside)).trans
      (one.same name below outside)
  · exact two.apart name (below.trans_le one.next) (one.apart name below outside)

theorem Quiet.of_step (step : Step fleet later portraits) : fleet.Quiet later := by
  cases step with
  | refused grows => exact ⟨grows.next, fun name below _ => grows.kept name below, fun _ _ => id⟩
  | used here leaves =>
      refine ⟨leaves.kept.next, fun name below outside => ?_, fun _ _ => id⟩
      refine leaves.kept.same name below fun own => outside ?_
      exact namesOf_mono (memory_mem (List.mem_of_getElem? here)) own
  | ran next here =>
      refine ⟨Nat.le_refl _, fun _ _ _ => rfl, fun _ _ outside => ?_⟩
      rwa [memory_set here]
  | settled member reachable settles =>
      refine ⟨settles.grows.next, fun name below _ => settles.grows.kept name below, ?_⟩
      intro name below outside inside
      rw [memory_append, namesOf_append] at inside
      rcases List.mem_append.mp inside with old | new
      · exact outside old
      · exact Nat.lt_irrefl _ (below.trans_le (settles.fresh name new))
  | compiled code =>
      refine ⟨Nat.le_refl _, fun _ _ _ => rfl, fun name _ outside inside => outside ?_⟩
      rw [memory_append, namesOf_append] at inside
      exact (List.mem_append.mp inside).resolve_right (List.not_mem_nil)

/-- Whatever is done, only memory is written. -/
theorem Sound.quiet (sound : fleet.Sound) (commands : List Command) :
    fleet.Quiet (fleet.after commands) := by
  induction commands generalizing fleet with
  | nil => exact ⟨Nat.le_refl _, fun _ _ _ => rfl, fun _ _ => id⟩
  | cons command rest ih =>
      exact (Quiet.of_step (sound.steps command)).trans (ih (sound.next command).1)

/-- A map over a model that can be grown is the start of a sound fleet. -/
theorem start_sound {map : Map} (reachable : map.model.Reachable) :
    ∃ fleet, Fleet.start map = .ok fleet ∧ fleet.Sound ∧ fleet.portraits = [.host map] := by
  obtain ⟨made, last, done, rfl, settles⟩ :=
    HostedMap.settle_settles (HostedMap.full_of_reachable reachable) Heap.empty []
  have rests : made.Rests last :=
    HostedMap.rests_of_settles (fun _ none => (List.not_mem_nil none).elim) settles
  have only {hosted : HostedMap} (inside : Instance.hosted hosted ∈ [Instance.hosted made]) :
      hosted = made := Instance.hosted.inj (List.mem_singleton.mp inside)
  refine ⟨{ heap := last, instances := [.hosted made] }, ?_, ?_, ?_⟩
  · unfold Fleet.start
    rw [done]
  · refine ⟨fun hosted inside => only inside ▸ rests, fun hosted inside => only inside ▸ reachable,
      ?_, ?_⟩
    · rw [memory, List.map_singleton, List.flatten_singleton]
      exact rests.distinct
    · rw [memory, parameters, List.map_singleton, List.map_singleton, List.flatten_singleton,
        List.flatten_singleton]
      exact rests.apart
  · exact congrArg (fun map => [Portrait.host map]) (HostedMap.current_of_settles settles)

/-- The fleets that there are: that of a map over a model that can be grown, and what commands
make of it. -/
inductive Reachable : Fleet → Prop where
  | start {map : Map} {fleet : Fleet} (reachable : map.model.Reachable)
      (started : Fleet.start map = .ok fleet) : Reachable fleet
  | next {fleet : Fleet} (reachable : Reachable fleet) (command : Command) :
      Reachable (fleet.next command)

theorem Reachable.sound (reachable : fleet.Reachable) : fleet.Sound := by
  induction reachable with
  | start reachable started =>
      obtain ⟨fleet, started', sound, -⟩ := start_sound reachable
      cases started.symm.trans started'
      exact sound
  | next _ command ih => exact (ih.next command).1

end Fleet

/-! ### Replies -/

theorem Command.eq_call {command : Command} {member : Nat} {request : Map.Call}
    (called : command.callOn? member = some request) : command = .call member request := by
  cases command with
  | derive source how => cases called
  | call other request' =>
      obtain ⟨rfl, same⟩ := Option.ite_none_right_eq_some.mp called
      exact congrArg (Command.call other) (Option.some.inj same)

namespace Portrait

theorem answers_cons (portrait : Portrait) (request : Map.Call) (rest : List Map.Call) :
    portrait.answers (request :: rest) =
      (portrait.call request).1 :: (portrait.call request).2.answers rest := by
  cases portrait <;> rfl

variable {portraits : List Portrait} {member : Nat} {portrait : Portrait}

theorem isolated_called (here : portraits[member]? = some portrait) (request : Map.Call) :
    (isolated portraits (.call member request))[member]? = some (portrait.call request).2 := by
  unfold isolated
  dsimp only
  rw [here]
  exact List.getElem?_set_self (List.getElem?_eq_some_iff.mp here).1

/-- An instance by itself does not see the commands for others. -/
theorem isolated_other (here : portraits[member]? = some portrait) {command : Command}
    (other : command.callOn? member = none) :
    (isolated portraits command)[member]? = some portrait := by
  cases command with
  | derive source how =>
      unfold isolated
      dsimp only
      split
      · split
        · rwa [List.getElem?_append_left (List.getElem?_eq_some_iff.mp here).1]
        · exact here
      · exact here
  | call called request =>
      have different : called ≠ member := by
        rintro rfl
        simp [Command.callOn?] at other
      unfold isolated
      dsimp only
      split
      · rwa [List.getElem?_set_ne different]
      · exact here

end Portrait

namespace Fleet

variable {fleet : Fleet}

/-- The answer to a call in the heap is that to the call on the instance by itself. -/
theorem Sound.reply (sound : fleet.Sound) {member : Nat} {used : Instance}
    (here : fleet.instances[member]? = some used) (request : Map.Call) :
    (used.call request fleet.heap).1 = ((used.portrait fleet.heap).call request).1 := by
  cases used with
  | hosted hosted => exact ((sound.rests hosted (List.mem_of_getElem? here)).call request).1
  | compiled code => rfl

theorem Sound.replies (sound : fleet.Sound) {member : Nat} {portrait : Portrait}
    (here : fleet.portraits[member]? = some portrait) (commands : List Command) :
    fleet.replies member commands =
      portrait.answers (Command.callsOn member commands) := by
  induction commands generalizing fleet portrait with
  | nil => cases portrait <;> rfl
  | cons command rest ih =>
      obtain ⟨sound', portraits⟩ := sound.next command
      obtain ⟨used, found, rfl⟩ :=
        Option.map_eq_some_iff.mp ((portraits_getElem? _ _).symm.trans here)
      unfold Fleet.replies
      rw [found]
      cases called : command.callOn? member with
      | none =>
          rw [Command.callsOn, List.filterMap_cons_none called]
          exact ih sound' (portraits ▸ Portrait.isolated_other here called)
      | some request =>
          obtain rfl := Command.eq_call called
          rw [Command.callsOn, List.filterMap_cons_some called, Portrait.answers_cons]
          refine congrArg₂ List.cons (sound.reply found request) ?_
          exact ih sound' (portraits ▸ Portrait.isolated_called here request)

/-- Only the calls on a member are seen by it. -/
theorem callsOn_own (member : Nat) (calls : List Map.Call) :
    Command.callsOn member (calls.map (Command.call member)) = calls := by
  unfold Command.callsOn
  rw [List.filterMap_map]
  refine (List.filterMap_congr fun call _ => ?_).trans List.filterMap_some
  exact if_pos rfl

/-- From a map others are made, at any moment and in any way, and all of them are used in any
order.  They are at every moment what they would be if each of them were kept by itself, and an
instance answers the calls on it as if there were no others: what it answers is told by what it
is now, and nothing else needs to be done for it. -/
theorem copies_isolated {map : Map} (reachable : map.model.Reachable) :
    ∃ fleet, Fleet.start map = .ok fleet ∧
      (∀ commands,
        (fleet.after commands).portraits = commands.foldl Portrait.isolated [.host map]) ∧
      ∀ earlier member portrait, (fleet.after earlier).portraits[member]? = some portrait →
        ∀ later,
          (fleet.after earlier).replies member later =
              portrait.answers (Command.callsOn member later) ∧
            (fleet.after earlier).replies member later =
              (fleet.after earlier).replies member
                ((Command.callsOn member later).map (Command.call member)) := by
  obtain ⟨fleet, started, sound, portraits⟩ := start_sound reachable
  refine ⟨fleet, started, fun commands => ?_, ?_⟩
  · rw [(sound.after commands).2, portraits]
  · intro earlier member portrait here later
    have sound' := (sound.after earlier).1
    have whole := sound'.replies here later
    refine ⟨whole, whole.trans ?_⟩
    rw [sound'.replies here, callsOn_own]

/-- The case of a map that delays its input and of a copy of it, which is made before the map
computes.  The copy answers as the map did at that moment. -/
theorem copies_isolated_delay : ∃ map fleet, map.hasState = true ∧ Fleet.start map = .ok fleet ∧
    ∀ rows, (fleet.after [.derive 0 .clone]).replies 1 [.call 0 (.compute rows),
      .call 1 (.compute rows)] = [map.sample rows] := by
  have input := Model.Reachable.empty.add
    (rfl : Model.empty.add (.input .f32 [1]) [] = .ok (_, 0))
  obtain ⟨map, delay, state⟩ : ∃ map : Map, map.model.Reachable ∧ map.hasState = true := by
    refine ⟨{ model := _, inputs := [("x", 0)], outputs := [("y", { node := 1, output := 0 })] },
      input.add (rfl : Model.add _ (.delay 2) [{ node := 0, output := 0 }] = .ok (_, 1)), rfl⟩
  obtain ⟨fleet, started, portraits, isolated⟩ := copies_isolated delay
  refine ⟨map, fleet, state, started, fun rows => ?_⟩
  have copied : (fleet.after [.derive 0 .clone]).portraits = [.host map, .host map] :=
    portraits [.derive 0 .clone]
  exact (isolated [.derive 0 .clone] 1 (.host map) (by rw [copied]; rfl)
    [.call 0 (.compute rows), .call 1 (.compute rows)]).1

end Fleet
end TensorGraph

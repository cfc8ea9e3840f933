/-
Storages put in place.

A parameter takes one storage, and so does every part of the memory of a node.
What another heap holds already in storages of its own can become the twin of
what is put in place here.
-/

import TensorGraph.Proofs.Graph.Memory
import TensorGraph.Proofs.Graph.Shapes
import TensorGraph.Proofs.Kernel.Frame
import TensorGraph.Proofs.Layout.Bounds

namespace TensorGraph

/-- The storage that a value lives in, if it lives in one. -/
def Value.storage? (value : Value) : Option Nat :=
  match value.place with
  | .host name _ => some name
  | _ => none

/-- The storages that some values live in. -/
def namesOf (values : List Value) : List Nat :=
  values.filterMap Value.storage?

theorem namesOf_append (first second : List Value) :
    namesOf (first ++ second) = namesOf first ++ namesOf second :=
  List.filterMap_append

theorem mem_namesOf {values : List Value} {name : Nat} :
    name ∈ namesOf values ↔ ∃ value ∈ values, value.storage? = some name :=
  List.mem_filterMap

theorem namesOf_mono {first second : List Value} (inside : first ⊆ second) :
    namesOf first ⊆ namesOf second := by
  intro name member
  obtain ⟨value, here, same⟩ := mem_namesOf.mp member
  exact mem_namesOf.mpr ⟨value, inside here, same⟩

theorem mem_namesOf_flatten {α : Type} {items : List α} {part : α → List Value} {name : Nat} :
    name ∈ namesOf (items.map part).flatten ↔ ∃ item ∈ items, name ∈ namesOf (part item) := by
  constructor
  · intro member
    obtain ⟨value, inside, here⟩ := mem_namesOf.mp member
    obtain ⟨_, those, inside⟩ := List.mem_flatten.mp inside
    obtain ⟨item, one, rfl⟩ := List.mem_map.mp those
    exact ⟨item, one, mem_namesOf.mpr ⟨value, inside, here⟩⟩
  · rintro ⟨item, one, member⟩
    have within : part item ⊆ (items.map part).flatten := fun _ inside =>
      List.mem_flatten.mpr ⟨_, List.mem_map_of_mem one, inside⟩
    exact namesOf_mono within member

theorem namesOf_flatten (values : List (List Value)) :
    namesOf values.flatten = (values.map namesOf).flatten :=
  List.filterMap_flatten

/-- Parts that have no name twice among them have no name in common. -/
theorem namesOf_disjoint {α : Type} {items : List α} {part : α → List Value}
    (distinct : (namesOf (items.map part).flatten).Nodup) {first second : Nat}
    (different : first ≠ second) {one two : α} (here : items[first]? = some one)
    (there : items[second]? = some two) : (namesOf (part one)).Disjoint (namesOf (part two)) := by
  rw [namesOf_flatten, List.map_map] at distinct
  have apart := (List.nodup_flatten.mp distinct).2
  obtain ⟨within, rfl⟩ := List.getElem?_eq_some_iff.mp here
  obtain ⟨within', rfl⟩ := List.getElem?_eq_some_iff.mp there
  rw [List.pairwise_map, List.pairwise_iff_getElem] at apart
  rcases Nat.lt_or_gt_of_ne different with before | behind
  · exact apart first second within within' before
  · exact (apart second first within' within behind).symm

/-- A value holds what it held when nobody has written to its storage. -/
theorem contents_same {value : Value} {heap later : Heap}
    (same : ∀ name, value.storage? = some name → later.storage name = heap.storage name) :
    contents later value = contents heap value := by
  unfold contents
  split
  · rename_i name base placed
    refine same name ?_
    unfold Value.storage?
    rw [placed]
  · rfl

namespace Parameter

/-- There are as many numbers as the shape has places. -/
def Full (parameter : Parameter) : Prop :=
  elementCount parameter.sizes = parameter.elements.size

/-- The value of a parameter that stands in a storage. -/
def handle (parameter : Parameter) (name : Nat) : Value :=
  { dtype? := some parameter.elements.dtype
    layout? := some (Layout.packed parameter.sizes)
    place := .host name 0 }

/-- The values of parameters that stand one after the other. -/
def handles : Nat → List Parameter → List Value
  | _, [] => []
  | name, parameter :: rest => parameter.handle name :: handles (name + 1) rest

/-- The value is a parameter that stands in a storage of the heap. -/
def Held (heap : Heap) (parameter : Parameter) (value : Value) : Prop :=
  ∃ name, value = parameter.handle name ∧ name < heap.next ∧
    heap.storage name = parameter.elements

variable {parameters : List Parameter} {values : List Value} {heap later : Heap}

theorem held_below (held : List.Forall₂ (Held heap) parameters values) :
    ∀ name ∈ namesOf values, name < heap.next := by
  induction held with
  | nil => nofun
  | cons head _ ih =>
      obtain ⟨name, rfl, below, -⟩ := head
      exact List.forall_mem_cons.mpr ⟨below, ih⟩

/-- Parameters are held for as long as nobody writes to their storages. -/
theorem held_later (held : List.Forall₂ (Held heap) parameters values)
    (grown : heap.next ≤ later.next)
    (same : ∀ name ∈ namesOf values, later.storage name = heap.storage name) :
    List.Forall₂ (Held later) parameters values := by
  induction held with
  | nil => exact .nil
  | cons head _ ih =>
      obtain ⟨name, rfl, below, here⟩ := head
      obtain ⟨first, others⟩ := List.forall_mem_cons.mp same
      exact .cons ⟨name, rfl, below.trans_le grown, first.trans here⟩ (ih others)

/-- A part of the memory of a node as a parameter. -/
def ofRow (storage : Storage) : Parameter :=
  { elements := storage
    sizes := [storage.size] }

theorem handles_ofRow (name : Nat) (storages : List Storage) :
    handles name (storages.map ofRow) = TensorGraph.handles name storages := by
  induction storages generalizing name with
  | nil => rfl
  | cons storage rest ih => exact congrArg (_ :: ·) (ih (name + 1))

theorem elements_ofRow (storages : List Storage) :
    (storages.map ofRow).map elements = storages := by
  rw [List.map_map]
  exact List.map_id _

theorem place_eq {parameter : Parameter} (full : parameter.Full) (heap : Heap) :
    parameter.place heap = .ok (parameter.handle heap.next) (heap.add parameter.elements) := by
  have fits : Value.checkFits (Layout.packed parameter.sizes) 0 parameter.elements.size = .ok () := by
    unfold Value.checkFits
    rw [Layout.span_packed, Nat.zero_add, full, if_neg (Nat.lt_irrefl _)]
  unfold place Value.ofStorage
  rw [fits]
  rfl

end Parameter

theorem placeParameters_eq {parameters : List Parameter}
    (full : ∀ parameter ∈ parameters, parameter.Full)
    (heap : Heap) :
    placeParameters parameters heap = .ok (Parameter.handles heap.next parameters)
      (heap.addAll (parameters.map Parameter.elements)) := by
  induction parameters generalizing heap with
  | nil => rfl
  | cons parameter rest ih =>
      have first := Parameter.place_eq (full parameter List.mem_cons_self) heap
      have others := ih (fun other member => full other (List.mem_cons_of_mem _ member))
        (heap.add parameter.elements)
      refine Action.bind_ok.mpr ⟨_, _, first, Action.bind_ok.mpr ⟨_, _, others, ?_⟩⟩
      rw [Heap.next_add]
      rfl

/-- The parameters of a node that was connected fill their shapes. -/
theorem Node.Shaped.full {node : Node} (shaped : node.Shaped) :
    ∀ parameter ∈ node.parameters, parameter.Full := by
  obtain ⟨operation, inputs, outputs, state⟩ := node
  unfold Node.Shaped at shaped
  dsimp only at shaped
  generalize state.map Storage.extent = extents at shaped
  have counted (dtype : DType) (values : List Float) (sizes : List Nat)
      (same : elementCount sizes = values.length) :
      (Parameter.ofFloats dtype values sizes).Full :=
    same.trans (by simp [Parameter.ofFloats, Storage.ofFloats, Storage.size])
  cases shaped with
  | input | binary | activation | softmax | pooling | regionDetection | delay =>
      exact fun _ none => (List.not_mem_nil none).elim
  | constant full =>
      intro parameter member
      obtain rfl := List.mem_singleton.mp member
      exact full.symm
  | bias _ full | scaling _ full =>
      intro parameter member
      obtain rfl := List.mem_singleton.mp member
      exact counted _ _ _ ((Layout.elementCount_single _).trans full.symm)
  | batchNormalization _ mean variance =>
      intro parameter member
      obtain rfl | rfl := List.mem_pair.mp member
      · exact counted _ _ _ ((Layout.elementCount_single _).trans mean.symm)
      · refine counted _ _ _ ((Layout.elementCount_single _).trans ?_)
        rw [Normalization.scale, List.length_map, variance]
  | fullyConnected _ full =>
      intro parameter member
      obtain rfl := List.mem_singleton.mp member
      exact counted _ _ _ ((Layout.elementCount_pair _ _).trans full.symm)
  | convolution _ planes _ _ full =>
      intro parameter member
      obtain rfl := List.mem_singleton.mp member
      refine counted _ _ _ ?_
      rw [Layout.elementCount_cons, Layout.elementCount_cons, Layout.elementCount_cons,
        Layout.elementCount_single, full]
      unfold InputPort.channels
      simp [planes, Nat.mul_assoc]
  | denseLayer _ full full' =>
      intro parameter member
      obtain rfl | rfl := List.mem_pair.mp member
      · exact counted _ _ _ ((Layout.elementCount_pair _ _).trans full.symm)
      · exact counted _ _ _ (Layout.elementCount_single _)
  | lstm _ inputWeights hiddenWeights inputBias hiddenBias _ _ =>
      intro parameter member
      simp only [Node.parameters, Operation.parametersOn, List.mem_cons, List.not_mem_nil,
        or_false] at member
      rcases member with rfl | rfl | rfl | rfl
      · exact counted _ _ _ ((Layout.elementCount_pair _ _).trans inputWeights.symm)
      · exact counted _ _ _ ((Layout.elementCount_pair _ _).trans hiddenWeights.symm)
      · exact counted _ _ _ (Layout.elementCount_single _)
      · exact counted _ _ _ (Layout.elementCount_single _)

/-! ### Adopted storages -/

namespace Twins

variable {renamed : NodeId → NodeId → Prop} {world : Twins renamed} {heap heap' : Heap}

/-- The world has these twins besides, and no others. -/
structure Adopts (world later : Twins renamed) (names : List Nat) : Prop where
  growing : world.Later later
  only : ∀ name name' dtype size, later.paired name name' dtype size →
    world.paired name name' dtype size ∨ name' ∈ names

/-- The storages have no twins yet. -/
def Apart (world : Twins renamed) (names : List Nat) : Prop :=
  ∀ name' ∈ names, ∀ name dtype size, ¬ world.paired name name' dtype size

theorem Adopts.trans {later last : Twins renamed} {names others : List Nat}
    (one : world.Adopts later names) (two : later.Adopts last others) :
    world.Adopts last (names ++ others) := by
  refine ⟨one.growing.trans two.growing, fun name name' dtype size paired => ?_⟩
  rcases two.only _ _ _ _ paired with middle | inside
  · exact (one.only _ _ _ _ middle).imp_right (List.mem_append_left _)
  · exact .inr (List.mem_append_right _ inside)

theorem Adopts.apart {later : Twins renamed} {names others : List Nat}
    (adopts : world.Adopts later names) (distinct : names.Disjoint others)
    (apart : world.Apart others) : later.Apart others := by
  intro name' member name dtype size paired
  rcases adopts.only _ _ _ _ paired with old | inside
  · exact apart name' member _ _ _ old
  · exact distinct inside member

/-- Parameters that the second heap holds become the twins of those put in place. -/
theorem Agrees.adoptAll {parameters : List Parameter} {values : List Value}
    (agrees : world.Agrees heap heap')
    (held : List.Forall₂ (Parameter.Held heap') parameters values)
    (distinct : (namesOf values).Nodup) (apart : world.Apart (namesOf values)) :
    ∃ later, world.Adopts later (namesOf values) ∧
      later.Agrees (heap.addAll (parameters.map Parameter.elements)) heap' ∧
        List.Forall₂ later.Alike (Parameter.handles heap.next parameters) values := by
  induction held generalizing world heap with
  | nil => exact ⟨world, ⟨.refl world, fun _ _ _ _ paired => .inl paired⟩, agrees, .nil⟩
  | @cons parameter _ rest values head _ ih =>
      obtain ⟨name, rfl, below, here⟩ := head
      obtain ⟨new, distinct⟩ := List.nodup_cons.mp distinct
      have one := agrees.adopt below (apart name List.mem_cons_self)
      rw [here] at one
      have first : world.Adopts (world.pair heap.next name parameter.elements.dtype
          parameter.elements.size) [name] := by
        refine ⟨later_pair _ _ _ _, ?_⟩
        rintro _ _ _ _ (⟨-, rfl, -, -⟩ | paired)
        · exact .inr (List.mem_singleton_self _)
        · exact .inl paired
      obtain ⟨later, adopts, agrees', alike⟩ := ih one distinct
        (first.apart (List.singleton_disjoint.mpr new) fun name' member =>
          apart name' (List.mem_cons_of_mem _ member))
      have paired := adopts.growing _ _ _ _ (paired_self _ _ _ _)
      rw [Heap.next_add] at alike
      exact ⟨later, first.trans adopts, agrees', .cons ⟨rfl, rfl, .host 0 paired⟩ alike⟩

/-- Memory that the second heap holds becomes the twin of that put in place. -/
theorem Agrees.adoptMemory {memory : List (List Storage)} {values : List (List Value)}
    (agrees : world.Agrees heap heap')
    (held : List.Forall₂ (List.Forall₂ (Holds heap')) memory values)
    (distinct : (namesOf values.flatten).Nodup) (apart : world.Apart (namesOf values.flatten)) :
    ∃ later, world.Adopts later (namesOf values.flatten) ∧
      later.Agrees (heap.addAll memory.flatten) heap' ∧
        List.Forall₂ (List.Forall₂ later.Alike) (memoryHandles heap.next memory) values := by
  induction held generalizing world heap with
  | nil => exact ⟨world, ⟨.refl world, fun _ _ _ _ paired => .inl paired⟩, agrees, .nil⟩
  | @cons state own memory values head _ ih =>
      rw [List.flatten_cons, namesOf_append] at distinct apart ⊢
      obtain ⟨distinct, distinct', disjoint⟩ := List.nodup_append'.mp distinct
      have rows : List.Forall₂ (Parameter.Held heap') (state.map Parameter.ofRow) own :=
        List.forall₂_map_left_iff.mpr head
      obtain ⟨middle, first, agrees, alike⟩ := agrees.adoptAll rows distinct fun name' member =>
        apart name' (List.mem_append_left _ member)
      rw [Parameter.elements_ofRow] at agrees
      rw [Parameter.handles_ofRow] at alike
      obtain ⟨later, adopts, agrees', others⟩ := ih agrees distinct' (first.apart disjoint
        fun name' member => apart name' (List.mem_append_right _ member))
      rw [Heap.next_addAll] at others
      have joined : (heap.addAll state).addAll memory.flatten =
          heap.addAll (state :: memory).flatten := by
        unfold Heap.addAll
        rw [List.flatten_cons, List.foldl_append]
      exact ⟨later, first.trans adopts, joined ▸ agrees',
        .cons (alike.imp fun _ _ same => same.mono adopts.growing) others⟩

end Twins
/-! ### New storages -/

/-- The work of a node may make storages, and it loses none. -/
def Work.Growing {ρ κ : Type} (work : Work (Host ρ) κ) : Prop :=
  ∀ id node held inputs outputs (state after : HostState ρ),
    work id node held inputs outputs state = .ok () after → state.heap.next ≤ after.heap.next

/-- A run that keeps every frame makes storages and loses none. -/
theorem Frame.Holds.grown {ρ α : Type} {run : Host ρ α} {post : α → Prop}
    (holds : ∀ frame : Frame, (∀ value, frame.Free value) → frame.Holds run post)
    {state after : HostState ρ} {answer : α} (done : run state = .ok answer after) :
    state.heap.next ≤ after.heap.next := by
  have kept : Frame.Kept ⟨state.heap, fun _ => True⟩ state.heap := ⟨Nat.le_refl _, fun _ _ _ => rfl⟩
  exact ((holds ⟨state.heap, fun _ => True⟩ fun _ _ _ _ => .inr trivial).done _ _ _ kept done).1.next

section New

variable {ρ κ : Type} {state after : HostState ρ} {known : FeedValues} {id : NodeId}
  {values values' : PortValues} {work : Work (Host ρ) κ}

theorem allocateOutputs_new {rows : List OutputPort} {outputs : List Value}
    (done : (allocateOutputs rows : Host ρ (List Value)) state = .ok outputs after) :
    state.heap.next ≤ after.heap.next ∧
      ∀ name ∈ namesOf outputs, state.heap.next ≤ name ∧ name < after.heap.next := by
  induction rows generalizing state outputs with
  | nil =>
      obtain ⟨rfl, rfl⟩ := Host.pure_ok.mp done
      exact ⟨Nat.le_refl _, nofun⟩
  | cons row rest ih =>
      obtain ⟨output, middle, made, done⟩ := Host.bind_ok.mp done
      obtain ⟨others, last, more, done⟩ := Host.bind_ok.mp done
      obtain ⟨rfl, rfl⟩ := Host.pure_ok.mp done
      have placed : (Host.onHeap (Value.allocate row.dtype (Layout.packed row.sizes)) :
          Host ρ Value) state = .ok output middle := made
      obtain ⟨heap, allocated, rfl⟩ := Host.onHeap_ok.mp placed
      cases allocated
      obtain ⟨grown, new⟩ := ih more
      rw [Host.onto, Heap.next_add] at grown new
      refine ⟨Nat.le_of_succ_le grown, List.forall_mem_cons.mpr ⟨⟨Nat.le_refl _, grown⟩, ?_⟩⟩
      exact fun name member => ⟨Nat.le_of_succ_le (new name member).1, (new name member).2⟩

/-- Behind a node stand the values that stood before it, and new ones. -/
theorem runStep_new (growing : Work.Growing work) {node : Node} {held : κ}
    (done : (runStep work known id node held values : Host ρ PortValues) state =
      .ok values' after) :
    state.heap.next ≤ after.heap.next ∧
      ∀ name ∈ namesOf (values'.map Prod.snd), name ∈ namesOf (values.map Prod.snd) ∨
        state.heap.next ≤ name ∧ name < after.heap.next := by
  obtain ⟨inputs, _, read, done⟩ := Host.bind_ok.mp done
  obtain ⟨-, rfl⟩ := Host.ofExcept_ok.mp read
  obtain ⟨outputs, middle, allocated, done⟩ := Host.bind_ok.mp done
  obtain ⟨_, last, worked, done⟩ := Host.bind_ok.mp done
  obtain ⟨rfl, rfl⟩ := Host.pure_ok.mp done
  obtain ⟨grown, new⟩ := allocateOutputs_new allocated
  have grown' := growing id node held inputs outputs middle last worked
  refine ⟨grown.trans grown', fun name member => ?_⟩
  rw [List.map_append, namesOf_append] at member
  rcases List.mem_append.mp member with made | old
  · right
    obtain ⟨value, inside, here⟩ := mem_namesOf.mp made
    obtain ⟨entry, paired, rfl⟩ := List.mem_map.mp inside
    have output := (List.of_mem_zip (List.mem_reverse.mp paired)).2
    obtain ⟨above, below⟩ := new name (mem_namesOf.mpr ⟨entry.2, output, here⟩)
    exact ⟨above, below.trans_le grown'⟩
  · exact .inl old

theorem runEach_new (growing : Work.Growing work) {nodes : List (Node × κ)}
    (done : (runEach work known id nodes values : Host ρ PortValues) state = .ok values' after) :
    state.heap.next ≤ after.heap.next ∧
      ∀ name ∈ namesOf (values'.map Prod.snd), name ∈ namesOf (values.map Prod.snd) ∨
        state.heap.next ≤ name ∧ name < after.heap.next := by
  induction nodes generalizing id values state with
  | nil =>
      obtain ⟨rfl, rfl⟩ := Host.pure_ok.mp done
      exact ⟨Nat.le_refl _, fun _ => .inl⟩
  | cons entry rest ih =>
      obtain ⟨between, middle, first, done⟩ := Host.bind_ok.mp done
      obtain ⟨grown, new⟩ := runStep_new growing first
      obtain ⟨grown', new'⟩ := ih done
      refine ⟨grown.trans grown', fun name member => ?_⟩
      rcases new' name member with old | ⟨above, below⟩
      · exact (new name old).imp_right fun made => ⟨made.1, made.2.trans_le grown'⟩
      · exact .inr ⟨grown.trans above, below⟩

end New

end TensorGraph

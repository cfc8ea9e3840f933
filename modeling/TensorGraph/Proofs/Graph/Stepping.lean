/-
Nodes by themselves.

A node that stands in memory is run step after step, each time on the elements
of its inputs, and answers with the elements of its outputs.  Between two steps
it may be made to forget.  Where what a node holds stands for the state of a
machine, and each step of the node is one of the machine, all the steps are,
whatever is done in between.
-/

import TensorGraph.Graph.Hosted
import TensorGraph.Proofs.Graph.Placing
import TensorGraph.Proofs.Kernel.Tabulated

namespace TensorGraph

/-- Puts the elements of some inputs into memory, in the shapes of the ports that they come
from. -/
def placeInputs : List InputPort → List Storage → Action Heap (List Value)
  | port :: ports, data :: rest => do
      let value ← Value.ofStorage data (Layout.packed port.sizes)
      return value :: (← placeInputs ports rest)
  | _, _ => return []

/-- What is done with a node. -/
inductive Visit where
  | step (inputs : List Storage)
  | reset

namespace Node

variable {ρ : Type}

/-- One step on the elements of the inputs. -/
def step (id : NodeId) (node : Node) (holding : Holding) (inputs : List Storage) :
    Host ρ (List Storage) := do
  let values ← Kernel.onHost (placeInputs node.inputs inputs)
  let outputs ← allocateOutputs node.outputs
  HostedMap.work id node holding values outputs
  outputs.mapM fun output => Kernel.read output.toStorage

/-- What a node that stands in memory answers in the steps of some visits. -/
def visitOn (id : NodeId) (node : Node) (holding : Holding) :
    List Visit → Host ρ (List (List Storage))
  | [] => return []
  | .step inputs :: rest => do
      let outputs ← node.step id holding inputs
      return outputs :: (← node.visitOn id holding rest)
  | .reset :: rest => do
      Kernel.onHost holding.reset
      node.visitOn id holding rest

/-- What a fresh node answers in the steps of some visits. -/
def visit (id : NodeId) (node : Node) (visits : List Visit) : Host ρ (List (List Storage)) := do
  let holding ← Kernel.onHost (Holding.settle node)
  node.visitOn id holding visits

end Node
/-! ### Machines -/

/-- A machine that makes some elements of others in each step. -/
structure Machine (σ : Type) where
  start : σ
  step : σ → List Storage → Except Error (σ × List Storage)

/-- What a machine answers in the steps of some visits; to forget is to begin anew. -/
def Machine.answers {σ : Type} (machine : Machine σ) :
    σ → List Visit → Except Error (List (List Storage))
  | _, [] => .ok []
  | _, .reset :: rest => machine.answers machine.start rest
  | state, .step inputs :: rest => do
      let (next, outputs) ← machine.step state inputs
      return outputs :: (← machine.answers next rest)

namespace Node

variable {ρ σ : Type} {id : NodeId} {node : Node} {holding : Holding} {machine : Machine σ}
  {stands : σ → Heap → Prop} {fits : List Storage → Prop} {visits : List Visit}

/-- Elements for all inputs of a node, in their types and as many as their shapes have. -/
def Takes (node : Node) (inputs : List Storage) : Prop :=
  List.Forall₂ (fun (port : InputPort) data => data.dtype = port.dtype ∧ data.size = port.size)
    node.inputs inputs

/-- A node in memory is a machine on inputs that fit, where `stands` says what the memory holds. -/
structure Behaves (ρ : Type) {σ : Type} (id : NodeId) (node : Node) (holding : Holding)
    (machine : Machine σ) (fits : List Storage → Prop) (stands : σ → Heap → Prop) : Prop where
  reset : ∀ current (state : HostState ρ), stands current state.heap →
    Host.Yields (Kernel.onHost holding.reset : Host ρ Unit) state fun _ after =>
      stands machine.start after.heap
  step : ∀ current inputs (state : HostState ρ), fits inputs → stands current state.heap →
    ∃ next outputs, machine.step current inputs = .ok (next, outputs) ∧
      Host.Yields (node.step id holding inputs : Host ρ (List Storage)) state fun answer after =>
        answer = outputs ∧ stands next after.heap

theorem Behaves.visitOn (behaves : Behaves ρ id node holding machine fits stands)
    (fitting : ∀ inputs, .step inputs ∈ visits → fits inputs) :
    ∀ current (state : HostState ρ), stands current state.heap →
      ∃ answers, machine.answers current visits = .ok answers ∧
        Host.Yields (node.visitOn id holding visits : Host ρ (List (List Storage))) state
          fun answer _ => answer = answers := by
  induction visits with
  | nil => exact fun current state _ => ⟨[], rfl, .of_done rfl rfl⟩
  | cons visit rest inductionHypothesis =>
      intro current state here
      have others := inductionHypothesis fun inputs member =>
        fitting inputs (List.mem_cons_of_mem _ member)
      cases visit with
      | reset =>
          obtain ⟨_, middle, done, anew⟩ := behaves.reset current state here
          obtain ⟨answers, same, yields⟩ := others machine.start middle anew
          exact ⟨answers, same, .behind done yields⟩
      | step inputs =>
          obtain ⟨next, outputs, stepped, _, middle, done, rfl, there⟩ :=
            behaves.step current inputs state (fitting inputs List.mem_cons_self) here
          obtain ⟨answers, same, _, after, done', rfl⟩ := others next middle there
          refine ⟨_ :: _, ?_, .behind done (.behind done' (.of_done rfl rfl))⟩
          simp only [Machine.answers, stepped, same, bind, Except.bind]
          rfl

end Node

/-! ### Parameters -/

namespace Parameter

/-- A parameter in a storage that is not among some. -/
def Apart (names : List Nat) (heap : Heap) (parameter : Parameter) (value : Value) : Prop :=
  ∃ name ∉ names, value.Fills heap name parameter.sizes parameter.elements

variable {names : List Nat} {heap after : Heap} {parameter : Parameter} {value : Value}
  {parameters : List Parameter} {values : List Value}

theorem Apart.onlyIn (apart : parameter.Apart names heap value) (only : heap.OnlyIn names after) :
    parameter.Apart names after value :=
  apart.imp fun _ held => ⟨held.1, held.2.onlyIn only held.1⟩

theorem Apart.grows (apart : parameter.Apart names heap value) (growing : heap.Grows after) :
    parameter.Apart names after value :=
  apart.onlyIn (.of_grows names growing)

/-- Parameters are apart from storages that are still to come. -/
theorem apart_of_held (full : ∀ parameter ∈ parameters, parameter.Full)
    (held : List.Forall₂ (Held heap) parameters values) (new : ∀ name ∈ names, heap.next ≤ name) :
    List.Forall₂ (Apart names heap) parameters values := by
  induction held with
  | nil => exact .nil
  | cons first _ inductionHypothesis =>
      obtain ⟨name, same, known, here⟩ := first
      obtain ⟨full, others⟩ := List.forall_mem_cons.mp full
      refine .cons ⟨name, fun member => ?_, same, known, here, full.symm⟩
        (inductionHypothesis others)
      exact Nat.not_lt.mpr (new name member) known

end Parameter

/-! ### Memory, inputs and outputs -/

namespace Value.Fills

variable {value : Value} {heap : Heap} {name : Nat} {sizes : List Nat} {data : Storage}

/-- Zeros in a whole storage, and nothing else is written. -/
theorem fillZero (fills : value.Fills heap name sizes data) :
    ∃ after, value.fillZero heap = .ok () after ∧ heap.Spares name after ∧
      value.Fills after name sizes data.cleared := by
  have whole : (heap.storage name).cleared = data.cleared := congrArg Storage.cleared fills.held
  refine ⟨heap.replace name data.cleared, ?_, ⟨?_, ?_⟩, ?_⟩
  · rw [fills.value, ← whole]
    rfl
  · refine .replace ?_ ?_
    · rw [fills.held]
      rfl
    · rw [fills.held]
      exact Storage.size_zeros _ _
  · exact fun other _ different => Heap.storage_replace_of_ne different _
  · exact fills.changed (Heap.next_replace _ _ _).ge (Heap.storage_replace_self fills.known _) rfl
      (Storage.size_zeros _ _)

end Value.Fills

namespace Host

variable {ρ : Type} {state : HostState ρ}

theorem placed_input {port : InputPort} {ports : List InputPort} {data : Storage}
    {others : List Storage} {holds : List Value → HostState ρ → Prop}
    (sized : data.size = port.size)
    (rest : Yields (Kernel.onHost (placeInputs ports others) : Host ρ (List Value))
      (onto state (state.heap.add data)) fun values after =>
        holds (.ofWhole data.dtype port.sizes state.heap.next :: values) after) :
    Yields (Kernel.onHost (placeInputs (port :: ports) (data :: others)) : Host ρ (List Value))
      state holds := by
  obtain ⟨values, after, done, held⟩ := rest
  obtain ⟨heap, placed, rfl⟩ := onHeap_ok.mp done
  refine .of_done (onHeap_ok.mpr ⟨heap, ?_, rfl⟩) held
  exact Action.bind_ok.mpr ⟨_, _, stored_fills sized state.heap,
    Action.bind_ok.mpr ⟨_, _, placed, rfl⟩⟩

theorem allocated_output {port : OutputPort} {ports : List OutputPort}
    {holds : List Value → HostState ρ → Prop}
    (rest : Yields (allocateOutputs ports : Host ρ (List Value))
      (onto state (state.heap.add (Storage.zeros port.dtype (elementCount port.sizes))))
      fun values after =>
        holds (.ofWhole port.dtype port.sizes state.heap.next :: values) after) :
    Yields (allocateOutputs (port :: ports) : Host ρ (List Value)) state holds := by
  obtain ⟨values, after, done, held⟩ := rest
  have made : (Kernel.allocate port.dtype (Layout.packed port.sizes) : Host ρ Value) state =
      .ok (.ofWhole port.dtype port.sizes state.heap.next)
        (onto state (state.heap.add (Storage.zeros port.dtype (elementCount port.sizes)))) := by
    rw [← Layout.memorySize_packed]
    rfl
  exact .behind made (.behind done (.of_done rfl held))

theorem outputs_read {values : List Value} {datas : List Storage}
    (reads : List.Forall₂ (fun value data => value.toStorage state.heap = .ok data) values datas) :
    values.mapM (fun value => (Kernel.read value.toStorage : Host ρ Storage)) state =
      .ok datas state := by
  induction reads with
  | nil => rfl
  | cons first _ inductionHypothesis =>
      rw [List.mapM_cons]
      exact bind_ok.mpr ⟨_, _, look_ok.mpr ⟨first, rfl⟩,
        bind_ok.mpr ⟨_, _, inductionHypothesis, rfl⟩⟩

end Host

/-- A step of a node of one input and one output is its work on both, in new storages. -/
theorem Node.step_of_work {ρ : Type} {state : HostState ρ} {id : NodeId} {node : Node}
    {holding : Holding} {port : InputPort} {output : OutputPort} {data : Storage}
    {holds : List Storage → HostState ρ → Prop} (inputs : node.inputs = [port])
    (outputs : node.outputs = [output]) (sized : data.size = port.size)
    (worked : Host.Yields (HostedMap.work id node holding
        [.ofWhole data.dtype port.sizes state.heap.next]
        [.ofWhole output.dtype output.sizes (state.heap.next + 1)] : Host ρ Unit)
      (Host.onto state ((state.heap.add data).add
        (.zeros output.dtype (elementCount output.sizes)))) fun _ after =>
          ∃ result, (Value.ofWhole output.dtype output.sizes (state.heap.next + 1)).Fills after.heap
            (state.heap.next + 1) output.sizes result ∧ holds [result] after) :
    Host.Yields (node.step id holding [data] : Host ρ (List Storage)) state holds := by
  have placed : Host.Yields (Kernel.onHost (placeInputs node.inputs [data]) : Host ρ (List Value))
      state fun values after => Host.onto state (state.heap.add data) = after ∧
        values = [.ofWhole data.dtype port.sizes state.heap.next] := by
    rw [inputs]
    exact Host.placed_input sized (.of_done rfl ⟨rfl, rfl⟩)
  refine placed.bind ?_
  rintro _ _ ⟨rfl, rfl⟩
  have allocated : Host.Yields (allocateOutputs node.outputs : Host ρ (List Value))
      (Host.onto state (state.heap.add data)) fun values after =>
        Host.onto state ((state.heap.add data).add
          (.zeros output.dtype (elementCount output.sizes))) = after ∧
            values = [.ofWhole output.dtype output.sizes (state.heap.next + 1)] := by
    rw [outputs, ← Heap.next_add state.heap data]
    exact Host.allocated_output (.of_done rfl ⟨rfl, rfl⟩)
  refine allocated.bind ?_
  rintro _ _ ⟨rfl, rfl⟩
  refine worked.bind ?_
  rintro _ after ⟨result, fills, held⟩
  exact .of_done (Host.outputs_read (.cons fills.toStorage .nil)) held

end TensorGraph

/-
One step of a map as code.

Host runs and code that stands for them go together as two strategies of one
kernel: every primitive carries values that stand for each other to values that
do.  So whatever kernel is written down, the code realizes the host run.

The code of a map is one run of its model between the parameters, with the
values of the outputs copied into the memory that the caller gave for them.  The
same step runs on the host, when the memory for the outputs stands there beside
the feeds; the code realizes it.
-/

import TensorGraph.Graph.Compile
import TensorGraph.Proofs.Emission.Access
import TensorGraph.Proofs.Emission.Turns
import TensorGraph.Proofs.Graph.Memory
import TensorGraph.Proofs.Kernel.Storages

namespace TensorGraph

instance {σ : Type} : LawfulKernel (Emission σ) where
  onHost_pure := fun _ => rfl
  onHost_bind := by
    intro α β first rest
    funext state
    change Emission.onHeap (first >>= rest) state =
      EStateM.bind (Emission.onHeap first) (fun answer => Emission.onHeap (rest answer)) state
    simp only [EStateM.bind, bind, Emission.onHeap, Action.within]
    cases first state.heap <;> rfl

theorem Alike.isDefined {world : World} {host code : Value} (alike : Alike world host code) :
    code.isDefined = host.isDefined := by
  have bound : code.place = .unbound ↔ host.place = .unbound := by
    have placed := alike.place
    generalize host.dtype? = dtype?, host.place = here, code.place = there at placed
    cases placed <;> simp
  simp [Value.isDefined, alike.dtype, bne, beq_eq_decide, bound]

/-- Code that does not come to be stands for anything. -/
theorem Realizes.thrown {ρ σ α β : Type} {seeds : Nat → Option Nat} {world : World}
    {host : Host ρ α} (fault : Fault) {post : World → α → β → Prop} :
    Realizes seeds world host (Kernel.onHost (throw fault) : Emission σ β) post := by
  intro before answer after emitted
  obtain ⟨heap, thrown, -⟩ := Emission.onHeap_ok.mp emitted
  exact absurd thrown Action.throw_ok

/-- A kernel that is run on the host, and the code that is written for it.  `seeds` are the
storages that the code may take over as state. -/
def written (seeds : Nat → Option Nat) (ρ σ : Type) : Correspondence (Host ρ) (Emission σ) where
  World := World
  Later := World.Later
  Alike := Alike
  Writable := Writable
  Kept := Kept seeds
  Relates := Realizes seeds
  Forgets := True
  later_refl := .refl
  later_trans := .trans
  alike_mono := .mono
  writable_mono := .mono
  kept_mono := .mono
  dtype := Alike.dtype
  layout := Alike.layout
  defined := Alike.isDefined
  weaken := .weaken
  pure := .pure _ _
  bind := .bind
  fail cause := .thrown (.error cause)
  abort message := .thrown (.abort message)
  refuse _ := .refuse
  withLayout placed alike := .withLayout placed alike
  flatten alike := .flatten alike
  constant literal := .constant literal
  storage data placed := .storage data placed
  allocate dtype placed := .allocate dtype placed
  state name := fun kept => .state name kept
  offset alike same := .offset alike same
  known alike := .known alike
  store _ writable alike := .store writable alike
  move targetOffset sourceOffset count := fun alike writable alike' =>
    .move targetOffset sourceOffset count alike writable alike'
  binary op := fun alike alike' => .binary op alike alike'
  unary op := fun alike => .unary op alike
  compare op := fun alike alike' => .compare op alike alike'
  cast dtype alike := .cast dtype alike
  forRange counts alike := .forRange counts alike
  ifElse alike onTrue onFalse := .ifElse alike onTrue onFalse

end TensorGraph

namespace TensorGraph

open Code FunctionBuilder Machine

/-! ### The step -/

namespace Map

section Kernel

variable {m : Type → Type} [Kernel m]

/-- The value of a port, copied into the memory that waits for it. -/
def deliverTo (values : PortValues) (spec : PortSpec) (port : Port) (target : Value) : m Unit :=
  match values.lookup port with
  | some value => Kernel.assign target value
  | none => Kernel.fail (.invalidArgument ("output '" ++ spec.name ++ "' was not emitted"))

/-- The values of some ports, one after the other. -/
def deliver (values : PortValues) : List (PortSpec × Port) → List Value → m Unit
  | (spec, port) :: rest, target :: targets => do
      deliverTo values spec port target
      deliver values rest targets
  | _, _ => pure ()

/-- The feeds of a step: of two inputs on one node the last one counts. -/
def stepFeeds (map : Map) (parameters : List Value) : FeedValues :=
  ((map.inputs.map Prod.snd).zip parameters).reverse

/-- A run of the model whose outputs are delivered. -/
def step (map : Map) (outputs : List PortSpec) (state : List (List Value))
    (parameters targets : List Value) : m Unit := do
  let values ← map.model.run state (map.stepFeeds parameters)
  deliver values (outputs.zip (map.outputs.map Prod.snd)) targets

end Kernel
end Map

/-! ### Parameters -/

/-- The values that stand for ports, one register after the other. -/
def portValues : Nat → List PortSpec → List Value
  | _, [] => []
  | register, spec :: rest =>
      Value.emitted spec.dtype register (some (Layout.packed spec.shape)) ::
        portValues (register + 1) rest

theorem getElem?_portValues (register : Nat) (specs : List PortSpec) (position : Nat) :
    (portValues register specs)[position]? = specs[position]?.map fun spec =>
      Value.emitted spec.dtype (register + position) (some (Layout.packed spec.shape)) := by
  induction specs generalizing register position with
  | nil => rfl
  | cons spec rest ih =>
      cases position with
      | zero => rfl
      | succ position =>
          rw [portValues, List.getElem?_cons_succ, List.getElem?_cons_succ, ih]
          simp only [Nat.add_assoc, Nat.add_comm 1]

/-- The values of ports whose buffers stand on the host one after the other. -/
def bufferValues : Nat → List PortSpec → List Value
  | _, [] => []
  | name, spec :: rest => Value.ofWhole spec.dtype spec.shape name :: bufferValues (name + 1) rest

/-- The buffers have the types and sizes of the ports. -/
def Buffered : List PortSpec → List Storage → Prop :=
  List.Forall₂ fun spec buffer => buffer.dtype = spec.dtype ∧ buffer.size = spec.size

/-- Buffers of some ports that hold nothing but zeros. -/
def blankBuffers (specs : List PortSpec) : List Storage :=
  specs.map fun spec => Storage.zeros spec.dtype spec.size

theorem buffered_blank (specs : List PortSpec) : Buffered specs (blankBuffers specs) :=
  List.forall₂_map_right_iff.mpr
    (List.forall₂_same.mpr fun _ _ => ⟨rfl, Storage.size_zeros _ _⟩)

namespace Emission

variable {σ : Type} {state after : EmissionState σ}

theorem parameter_ok {index : Nat} {dtype : DType} {layout : Layout} {value : Value} :
    (parameter index dtype layout : Emission σ Value) state = .ok value after ↔
      ∃ register, state.builder.parameter? index = some register ∧
        value = Value.emitted dtype register (some layout) ∧ state = after := by
  unfold parameter
  constructor
  · intro done
    obtain ⟨current, _, looked, done⟩ := bind_ok.mp done
    obtain ⟨rfl, rfl⟩ := state_ok.mp looked
    cases found : state.builder.parameter? index with
    | some register =>
        rw [found] at done
        obtain ⟨rfl, rfl⟩ := pure_ok.mp done
        exact ⟨register, rfl, rfl, rfl⟩
    | none =>
        rw [found] at done
        exact absurd done fail_ok
  · rintro ⟨register, found, rfl, rfl⟩
    refine bind_ok.mpr ⟨state, state, rfl, ?_⟩
    rw [found]
    rfl

/-- The parameters of a function are its first registers. -/
def Parametrized (count : Nat) (state : EmissionState σ) : Prop :=
  state.builder.function.parameters = List.range count

theorem Parametrized.parameter? {count index : Nat} {register : Register}
    (parametrized : Parametrized count state)
    (found : state.builder.parameter? index = some register) : register = index := by
  unfold FunctionBuilder.parameter? at found
  rw [parametrized, List.getElem?_eq_some_iff] at found
  obtain ⟨within, same⟩ := found
  rw [List.getElem_range] at same
  exact same.symm

theorem Parametrized.grows {count : Nat} (parametrized : Parametrized count state)
    (sound : state.Sound) (grows : state.Grows after) : Parametrized count after :=
  ((grows.builder sound).parameters).trans parametrized

end Emission

namespace Map

open Emission

variable {state after : EmissionState Unit}

theorem bindSpecs_ok {count position : Nat} {specs : List PortSpec} {values : List Value}
    (parametrized : Parametrized count state)
    (done : bindSpecs position specs state = .ok values after) :
    values = portValues position specs ∧ after = state := by
  induction specs generalizing position values state after with
  | nil =>
      obtain ⟨rfl, rfl⟩ := pure_ok.mp done
      exact ⟨rfl, rfl⟩
  | cons spec rest ih =>
      obtain ⟨value, middle, bound, done⟩ := bind_ok.mp done
      obtain ⟨register, found, rfl, rfl⟩ := parameter_ok.mp bound
      obtain ⟨values', middle, bound', made⟩ := bind_ok.mp done
      obtain ⟨rfl, rfl⟩ := ih parametrized bound'
      obtain ⟨rfl, rfl⟩ := pure_ok.mp made
      rw [parametrized.parameter? found]
      exact ⟨rfl, rfl⟩

end Map

/-! ### Delivering -/

section Deliver

variable {seeds : Nat → Option Nat} {world : World} {ρ : Type}

/-- The targets of the code stand for those of the host, and may be written. -/
def Receives (world : World) : List Value → List Value → Prop :=
  List.Forall₂ fun target target' => Alike world target target' ∧ Writable world target target'

theorem Receives.mono {world later : World} {targets targets' : List Value}
    (receives : Receives world targets targets') (growing : world.Later later) :
    Receives later targets targets' :=
  receives.imp fun _ _ both => ⟨both.1.mono growing, both.2.mono growing⟩

open Emission in
/-- What is delivered on the host is written by the code into the parameters that follow. -/
theorem Map.deliver_realized {count position : Nat} {values values' : PortValues}
    {pairs : List (PortSpec × Port)} {targets : List Value} {before after : EmissionState Unit}
    (parametrized : Parametrized count before) (ready : world.Ready seeds before)
    (same : (written seeds ρ Unit).SameValues world values values')
    (receives : Receives world targets (portValues position (pairs.map Prod.fst)))
    (emitted : writeOutputs values' position pairs before = .ok () after) :
    Realized seeds world (deliver values pairs targets : Host ρ Unit) before () after
      fun _ _ _ => True := by
  induction pairs generalizing position targets before world with
  | nil =>
      cases receives
      exact Realizes.pure () () trivial before () after emitted ready
  | cons pair rest ih =>
      obtain ⟨spec, port⟩ := pair
      cases receives with
      | cons head tail =>
      obtain ⟨target, middle, bound, delivered⟩ := bind_ok.mp emitted
      obtain ⟨register, found, rfl, rfl⟩ := parameter_ok.mp bound
      have named := parametrized.parameter? found
      subst named
      have lookup := same.lookup port
      unfold deliver deliverTo
      generalize values.lookup port = value? at lookup ⊢
      generalize values'.lookup port = value?' at lookup delivered
      cases lookup with
      | none =>
          obtain ⟨_, _, failed, _⟩ := bind_ok.mp delivered
          exact absurd failed fail_ok
      | some alike =>
          obtain ⟨_, middle, written', delivered'⟩ := bind_ok.mp delivered
          have one := (written seeds ρ Unit).assign head.1 head.2 alike before () middle written'
            ready
          refine one.bind ready.sound fun later _ growing ready' _ => ?_
          have receives' : Receives later _ _ := Receives.mono tail growing
          exact ih (parametrized.grows ready.sound one.grows) ready' (same.mono growing) receives'
            delivered'

end Deliver

/-! ### The step as code -/

namespace Map

open Emission

variable {map : Map} {inputs outputs : List PortSpec} {start after : EmissionState Unit}

/-- What is emitted for a step: the run of the model on a heap with the memory of the nodes,
and the writing of the outputs. -/
theorem emitStep_ok {count : Nat} (parametrized : Parametrized count start)
    (empty : start.heap = Heap.empty)
    (done : map.emitStep inputs outputs start = .ok () after) :
    ∃ values middle,
      (map.model.run map.model.placedState (map.stepFeeds (portValues 0 inputs)) :
        Emission Unit PortValues) { start with heap := map.model.placed } = .ok values middle ∧
      writeOutputs values inputs.length (outputs.zip (map.outputs.map Prod.snd)) middle =
        .ok () after := by
  obtain ⟨state, placed, done', done⟩ := bind_ok.mp done
  obtain ⟨heap, placing, rfl⟩ := onHeap_ok.mp done'
  rw [empty, placeMemory_eq] at placing
  cases placing
  obtain ⟨parameters, _, bound, done⟩ := bind_ok.mp done
  have parametrized' : Parametrized count
      { start with heap := Heap.empty.addAll map.model.memory.flatten } := parametrized
  obtain ⟨rfl, rfl⟩ := bindSpecs_ok parametrized' bound
  obtain ⟨values, middle, ran, written⟩ := bind_ok.mp done
  exact ⟨values, middle, ran, written⟩

/-- The code of a step stands for the step on the host. -/
theorem step_realized {seeds : Nat → Option Nat} {world : World} {count : Nat}
    {before : EmissionState Unit} (parametrized : Parametrized count before)
    (ready : world.Ready seeds before) {values : PortValues} {middle : EmissionState Unit}
    (ran : (map.model.run map.model.placedState (map.stepFeeds (portValues 0 inputs)) :
      Emission Unit PortValues) before = .ok values middle)
    (written' : writeOutputs values inputs.length (outputs.zip (map.outputs.map Prod.snd)) middle =
      .ok () after)
    (full : outputs.length = map.outputs.length) {state : List (List Value)}
    (kept : List.Forall₂ (List.Forall₂ (Kept seeds world)) state map.model.placedState)
    {parameters targets : List Value}
    (alike : List.Forall₂ (Alike world) parameters (portValues 0 inputs))
    (receives : Receives world targets (portValues inputs.length outputs)) :
    Realized seeds world (map.step outputs state parameters targets : Host Unit Unit) before ()
      after fun _ _ _ => True := by
  have fed : (written seeds Unit Unit).SameValues world (map.stepFeeds parameters)
      (map.stepFeeds (portValues 0 inputs)) :=
    List.forall₂_reverse_iff.mpr ((written seeds Unit Unit).sameValues_zip _ alike)
  have one := (written seeds Unit Unit).model_run map.model kept fed before values middle ran ready
  refine one.bind ready.sound fun later _ growing ready' same => ?_
  refine deliver_realized (parametrized.grows ready.sound one.grows) ready' same ?_ written'
  rw [List.map_fst_zip (by rw [List.length_map, full])]
  exact receives.mono growing

end Map


end TensorGraph

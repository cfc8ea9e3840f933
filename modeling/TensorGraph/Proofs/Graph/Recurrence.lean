/-
Recurrences.

A cell with gates goes from state to state as its recurrence says, from zeros on.
It begins anew whenever it is made to forget, and in just those steps whose trigger
is zero when that of the step before was one.  A node that is such a cell keeps the
states in memory, with the trigger behind them, and its weights in storages that
no step writes to.
-/

import TensorGraph.Proofs.Graph.Settling
import TensorGraph.Proofs.Graph.Stepping
import TensorGraph.Proofs.Kernel.Cell

namespace TensorGraph

/-! ### The recurrence -/

/-- What a cell remembers: its states, and the trigger of the step before, if there was a step
since the last reset. -/
structure Recurrent where
  hidden : Storage
  cell : Storage
  last : Option Literal

/-- The trigger among the inputs of a step. -/
def triggerOf (inputs : List Storage) : Option Literal :=
  inputs[1]?.map fun data => data.item 0

/-- There was a trigger before and there is one now, and it fell. -/
def falls : Option Literal → Option Literal → Bool
  | some before, some now => before.falls now
  | _, _ => false

theorem isSome_of_falls {before now : Option Literal} (edge : falls before now = true) :
    now.isSome = true := by
  cases now with
  | none => cases before <;> cases edge
  | some now => rfl

/-- The trigger of the last step since the last reset. -/
def lastTrigger (last : Option Literal) : List Visit → Option Literal
  | [] => last
  | .step inputs :: rest => lastTrigger (triggerOf inputs) rest
  | .reset :: rest => lastTrigger none rest

namespace LstmWeights

def blank (weights : LstmWeights) (dtype : DType) : Recurrent where
  hidden := .zeros dtype weights.hiddenUnits
  cell := .zeros dtype weights.hiddenUnits
  last := none

/-- The states that a step starts from: zeros when the trigger falls. -/
def before (weights : LstmWeights) (dtype : DType) (state : Recurrent) (now : Option Literal) :
    Recurrent :=
  if falls state.last now then weights.blank dtype else state

def recur (weights : LstmWeights) (dtype : DType) (state : Recurrent) :
    List Storage → Except Error (Recurrent × List Storage)
  | [] => .error (.invalidArgument "lstm node is missing value 0")
  | x :: triggers => do
      let now := triggerOf (x :: triggers)
      let before := weights.before dtype state now
      let (hidden, cell) ← weights.advance dtype x before.hidden before.cell
      return ({ hidden := hidden, cell := cell, last := now }, [hidden, cell])

/-- The recurrence as a machine. -/
def recurrence (weights : LstmWeights) (dtype : DType) : Machine Recurrent where
  start := weights.blank dtype
  step := weights.recur dtype

variable {weights : LstmWeights} {dtype : DType} {state next : Recurrent}
  {inputs outputs : List Storage}

theorem last_recur (done : weights.recur dtype state inputs = .ok (next, outputs)) :
    next.last = triggerOf inputs := by
  cases inputs with
  | nil => cases done
  | cons x triggers =>
      obtain ⟨⟨hidden, cell⟩, -, same⟩ := bind_eq_ok.mp done
      cases same
      rfl

/-- A step in which the trigger falls is the first one of a fresh cell. -/
theorem recur_of_falls (edge : falls state.last (triggerOf inputs) = true) :
    weights.recur dtype state inputs = weights.recur dtype (weights.blank dtype) inputs := by
  cases inputs with
  | nil => rfl
  | cons x triggers =>
      have anew : weights.before dtype state (triggerOf (x :: triggers)) = weights.blank dtype :=
        if_pos edge
      have again : weights.before dtype (weights.blank dtype) (triggerOf (x :: triggers)) =
          weights.blank dtype := ite_self _
      unfold recur
      dsimp only
      rw [anew, again]

theorem before_fits (now : Option Literal)
    (hidden_fits : state.hidden.dtype = dtype ∧ state.hidden.size = weights.hiddenUnits)
    (cell_fits : state.cell.dtype = dtype ∧ state.cell.size = weights.hiddenUnits) :
    ((weights.before dtype state now).hidden.dtype = dtype ∧
      (weights.before dtype state now).hidden.size = weights.hiddenUnits) ∧
    ((weights.before dtype state now).cell.dtype = dtype ∧
      (weights.before dtype state now).cell.size = weights.hiddenUnits) := by
  unfold before
  split
  · exact ⟨⟨rfl, Storage.size_zeros _ _⟩, rfl, Storage.size_zeros _ _⟩
  · exact ⟨hidden_fits, cell_fits⟩

/-- States that are cleared at an edge are those that a step starts from, if the edge is one of the
recurrence or the states are zeros anyway. -/
theorem before_eq {edge : Bool} {now : Option Literal}
    (typed : state.hidden.dtype = dtype ∧ state.cell.dtype = dtype)
    (sized : state.hidden.size = weights.hiddenUnits ∧ state.cell.size = weights.hiddenUnits)
    (same : ∀ before ∈ state.last, falls (some before) now = edge)
    (first : state.last = none → edge = true →
      state.hidden = .zeros dtype weights.hiddenUnits ∧
        state.cell = .zeros dtype weights.hiddenUnits) :
    (if edge then state.hidden.cleared else state.hidden) =
        (weights.before dtype state now).hidden ∧
      (if edge then state.cell.cleared else state.cell) =
        (weights.before dtype state now).cell := by
  have cleared {data : Storage} (typed : data.dtype = dtype)
      (sized : data.size = weights.hiddenUnits) :
      data.cleared = .zeros dtype weights.hiddenUnits := by
    rw [Storage.cleared, typed, sized]
  have hidden_cleared := cleared typed.1 sized.1
  have cell_cleared := cleared typed.2 sized.2
  unfold before
  cases known : state.last with
  | none =>
      have anew : falls none now = false := rfl
      rw [anew]
      cases edge with
      | false => exact ⟨rfl, rfl⟩
      | true =>
          obtain ⟨hidden, cell⟩ := first known rfl
          exact ⟨hidden_cleared.trans hidden.symm, cell_cleared.trans cell.symm⟩
  | some before =>
      rw [same before known]
      cases edge with
      | false => exact ⟨rfl, rfl⟩
      | true => exact ⟨hidden_cleared, cell_cleared⟩

/-- From a step on in which the trigger falls, the answers are those of a fresh cell. -/
theorem answers_of_falls {before rest : List Visit} {answers : List (List Storage)}
    (edge : falls (lastTrigger state.last before) (triggerOf inputs) = true)
    (done : (weights.recurrence dtype).answers state (before ++ .step inputs :: rest) =
      .ok answers) :
    ∃ earlier later, (weights.recurrence dtype).answers state before = .ok earlier ∧
      (weights.recurrence dtype).answers (weights.blank dtype) (.step inputs :: rest) =
        .ok later ∧ answers = earlier ++ later := by
  induction before generalizing state answers with
  | nil =>
      refine ⟨[], answers, rfl, ?_, rfl⟩
      simp only [List.nil_append, Machine.answers, recurrence] at done ⊢
      rw [← recur_of_falls edge]
      exact done
  | cons visit others inductionHypothesis =>
      cases visit with
      | reset => exact inductionHypothesis edge done
      | step inputs' =>
          obtain ⟨⟨next, outputs⟩, stepped, answered⟩ := bind_eq_ok.mp done
          obtain ⟨more, onward, all⟩ := bind_eq_ok.mp answered
          cases all
          have same : lastTrigger (triggerOf inputs') others = lastTrigger next.last others := by
            rw [last_recur stepped]
          obtain ⟨earlier, later, done₁, done₂, rfl⟩ := inductionHypothesis (same ▸ edge) onward
          exact ⟨outputs :: earlier, later,
            bind_eq_ok.mpr ⟨_, stepped, bind_eq_ok.mpr ⟨_, done₁, rfl⟩⟩, done₂, rfl⟩

end LstmWeights

/-! ### Weights in memory -/

namespace Host

variable {ρ : Type} {state : HostState ρ} {weights : LstmWeights} {source : InputPort}
  {parameters : List Value} {names : List Nat}

/-- A cell runs on its weights in memory. -/
theorem runLstm_yields {hidden cell trigger input output output' : Value} {trigger? : Option Value}
    {holds : Unit → HostState ρ → Prop} (sized : weights.Sized source.size)
    (supplied : List.Forall₂ (Parameter.Apart names state.heap)
      ((Operation.lstm weights).parametersOn source) parameters)
    (runs : ∀ cell_of : Kernel.LstmParameters,
      CellOf names state.heap cell_of weights source.dtype source.size →
        Yields (Kernel.lstmStep cell_of ⟨hidden, cell, trigger⟩ trigger? input output output')
          state holds) :
    Yields (runLstm weights parameters [hidden, cell, trigger] trigger? input output output' :
      Host ρ Unit) state holds := by
  obtain - | ⟨⟨wx, wx_apart, wx_fills⟩, supplied⟩ := supplied
  obtain - | ⟨⟨wh, wh_apart, wh_fills⟩, supplied⟩ := supplied
  obtain - | ⟨⟨bx, bx_apart, bx_fills⟩, supplied⟩ := supplied
  obtain - | ⟨⟨bh, bh_apart, bh_fills⟩, supplied⟩ := supplied
  obtain - | _ := supplied
  refine .behind rfl ((matrix_of_fills wx_fills).bind ?_)
  rintro inputWeights _ ⟨rfl, same₁⟩
  refine .behind rfl ((matrix_of_fills wh_fills).bind ?_)
  rintro hiddenWeights _ ⟨rfl, same₂⟩
  refine .behind rfl ((vector_of_fills bx_fills).bind ?_)
  rintro inputBias _ ⟨rfl, -, bx_row⟩
  refine .behind rfl ((vector_of_fills bh_fills).bind ?_)
  rintro hiddenBias _ ⟨rfl, -, bh_row⟩
  refine .behind rfl (.behind rfl (.behind rfl ?_))
  refine runs _ ⟨rfl, rfl, rfl, sized, ?_, ?_, ?_, ?_⟩
  · exact ⟨wx, wx_apart, same₁ ▸ wx_fills⟩
  · exact ⟨wh, wh_apart, same₂ ▸ wh_fills⟩
  · exact ⟨bx, bx_apart, bx_row⟩
  · exact ⟨bh, bh_apart, bh_row⟩

end Host

/-! ### The node -/

namespace Node

/-- The type of what a cell keeps of its trigger. -/
def triggerType (source : InputPort) (trigger? : Option InputPort) : DType :=
  (trigger?.map InputPort.dtype).getD source.dtype

/-- A cell as it is connected to a port, and to a trigger if there is one. -/
def recurrentOf (weights : LstmWeights) (source : InputPort) (trigger? : Option InputPort) :
    Node where
  operation := .lstm weights
  inputs := source :: trigger?.toList
  outputs :=
    [outputOf source.dtype [weights.hiddenUnits],
      { outputOf source.dtype [weights.hiddenUnits] with name := "cell_state" }]
  state :=
    [.zeros source.dtype weights.hiddenUnits, .zeros source.dtype weights.hiddenUnits,
      .zeros (triggerType source trigger?) 1]

/-- The memory of such a node, with the first of its storages. -/
def recurrentMemory (weights : LstmWeights) (source : InputPort) (trigger? : Option InputPort)
    (name : Nat) : Kernel.LstmState where
  hidden := .ofWhole source.dtype [weights.hiddenUnits] name
  cell := .ofWhole source.dtype [weights.hiddenUnits] (name + 1)
  trigger := .ofWhole (triggerType source trigger?) [1] (name + 2)

/-- What such a node holds. -/
def recurrentHolding (weights : LstmWeights) (source : InputPort) (trigger? : Option InputPort)
    (parameters : List Value) (name : Nat) : Holding where
  parameters := parameters
  memory :=
    [(recurrentMemory weights source trigger? name).hidden,
      (recurrentMemory weights source trigger? name).cell,
      (recurrentMemory weights source trigger? name).trigger]

/-- The weights are those of a cell on an input of floating point numbers, which has no more units
and elements than a loop can count. -/
structure Fits (weights : LstmWeights) (source : InputPort) : Prop where
  sized : weights.Sized source.size
  float : source.dtype.isFloat = true
  units : 4 * weights.hiddenUnits ≤ Nat.pow 2 63
  columns : source.size ≤ Nat.pow 2 63

/-- The memory of a cell holds its states and the trigger before.  Where there was no trigger yet,
the states are zeros, so that nothing changes when they are cleared. -/
structure RecurrentKept (weights : LstmWeights) (source : InputPort)
    (trigger? : Option InputPort) (parameters : List Value) (name : Nat) (current : Recurrent)
    (heap : Heap) : Prop where
  supplied : List.Forall₂ (Parameter.Apart [name, name + 1, name + 2] heap)
    ((Operation.lstm weights).parametersOn source) parameters
  memory : ∃ last, Host.MemoryOf heap (recurrentMemory weights source trigger? name) name
    weights.hiddenUnits current.hidden current.cell last ∧
      ∀ trigger ∈ current.last, last.item 0 = trigger
  fresh : trigger?.isSome → current.last = none →
    current.hidden = .zeros source.dtype weights.hiddenUnits ∧
      current.cell = .zeros source.dtype weights.hiddenUnits

theorem fits_of_lengths {weights : LstmWeights} {source : InputPort}
    (sized : weights.Sized source.size) (float : source.dtype.isFloat = true)
    (counts : weights.inputWeights.length ≤ Nat.pow 2 63)
    (counts' : weights.hiddenWeights.length ≤ Nat.pow 2 63) : Fits weights source := by
  have some := sized.some
  have units : 4 * weights.hiddenUnits ≤ 4 * weights.hiddenUnits * weights.hiddenUnits :=
    Nat.le_mul_of_pos_right _ some
  have columns : source.size ≤ 4 * weights.hiddenUnits * source.size :=
    Nat.le_mul_of_pos_left _ (by omega)
  exact ⟨sized, float, units.trans (sized.hiddenWeights.ge.trans counts'),
    columns.trans (sized.inputWeights.ge.trans counts)⟩

section Step

variable {ρ : Type} {id : NodeId} {weights : LstmWeights} {source : InputPort}
  {trigger? : Option InputPort} {parameters : List Value} {name : Nat} {current : Recurrent}
  {state : HostState ρ} {x hidden cell last new new' now : Storage}

theorem dtype_of_whole {dtype : DType} {heap : Heap} {sizes : List Nat}
    {data : Storage} (fills : (Value.ofWhole dtype sizes name).Fills heap name sizes data) :
    data.dtype = dtype :=
  (Option.some.inj (congrArg Value.dtype? fills.value)).symm

/-- What is left of a step once its inputs stand in memory. -/
theorem recurrent_runs {input : Value} {given? : Option Value} {inputName : Nat}
    {sizes : List Nat} {edge : Bool} (suited : Fits weights source)
    (supplied : List.Forall₂ (Parameter.Apart [name, name + 1, name + 2] state.heap)
      ((Operation.lstm weights).parametersOn source) parameters)
    (memory : Host.MemoryOf state.heap (recurrentMemory weights source trigger? name) name
      weights.hiddenUnits hidden cell last)
    (triggers : Host.Triggers [name, name + 1, name + 2] state.heap last given? now edge)
    (fills : input.Fills state.heap inputName sizes x)
    (apart : inputName ∉ [name, name + 1, name + 2]) (typed : x.dtype = source.dtype)
    (fits : x.size = source.size)
    (made : weights.advance source.dtype x (if edge then hidden.cleared else hidden)
      (if edge then cell.cleared else cell) = .ok (new, new')) :
    Host.Yields (do
      let outputs ← allocateOutputs (recurrentOf weights source trigger?).outputs
      HostedMap.work id (recurrentOf weights source trigger?)
        (recurrentHolding weights source trigger? parameters name) (input :: given?.toList) outputs
      outputs.mapM fun output => Kernel.read output.toStorage : Host ρ (List Storage)) state
      fun answer after => answer = [new, new'] ∧
        state.heap.OnlyIn [name, name + 1, name + 2] after.heap ∧
          Host.MemoryOf after.heap (recurrentMemory weights source trigger? name) name
            weights.hiddenUnits new new' now := by
  let blank : Storage := .zeros source.dtype (elementCount [weights.hiddenUnits])
  have blank_sized : blank.size = elementCount [weights.hiddenUnits] := Storage.size_zeros _ _
  have growing : state.heap.Grows ((state.heap.add blank).add blank) :=
    (Heap.Grows.add _ _).trans (.add _ _)
  have behind : (state.heap.add blank).next = state.heap.next + 1 := Heap.next_add _ _
  have known := memory.hidden.known
  have known' := memory.cell.known
  have known'' := memory.trigger.known
  have allocated : Host.Yields (allocateOutputs (recurrentOf weights source trigger?).outputs :
      Host ρ (List Value)) state fun values after =>
        Host.onto state ((state.heap.add blank).add blank) = after ∧
          values = [.ofWhole source.dtype [weights.hiddenUnits] state.heap.next,
            .ofWhole source.dtype [weights.hiddenUnits] (state.heap.add blank).next] :=
    Host.allocated_output (Host.allocated_output (.of_done rfl ⟨rfl, rfl⟩))
  refine allocated.bind ?_
  rintro _ _ ⟨rfl, rfl⟩
  have ran : Host.Yields (HostedMap.work id (recurrentOf weights source trigger?)
      (recurrentHolding weights source trigger? parameters name) (input :: given?.toList)
      [.ofWhole source.dtype [weights.hiddenUnits] state.heap.next,
        .ofWhole source.dtype [weights.hiddenUnits] (state.heap.add blank).next] : Host ρ Unit)
      (Host.onto state ((state.heap.add blank).add blank)) fun _ after =>
        ((state.heap.add blank).add blank).OnlyIn ([name, name + 1, name + 2] ++
          [state.heap.next, (state.heap.add blank).next]) after.heap ∧
        Host.MemoryOf after.heap (recurrentMemory weights source trigger? name) name
          weights.hiddenUnits new new' now ∧
        (Value.ofWhole source.dtype [weights.hiddenUnits] state.heap.next).Fills after.heap
          state.heap.next [weights.hiddenUnits] new ∧
        (Value.ofWhole source.dtype [weights.hiddenUnits] (state.heap.add blank).next).Fills
          after.heap (state.heap.add blank).next [weights.hiddenUnits] new' := by
    refine .behind rfl (.behind rfl (.behind rfl ?_))
    have second : (input :: given?.toList)[1]? = given? := by
      cases given? <;> rfl
    rw [second]
    refine Host.runLstm_yields suited.sized
      (supplied.imp fun _ _ apart => apart.grows growing) fun cell_of weights_of => ?_
    refine Host.lstmStep_yields (fits ▸ weights_of) (memory.grows growing)
      (triggers.grows growing) (fills.grows growing) apart
      ((Value.Fills.added state.heap blank_sized).grows (.add _ _))
      (Value.Fills.added (state.heap.add blank) blank_sized) (by simp; omega)
      ⟨typed, dtype_of_whole memory.hidden, dtype_of_whole memory.cell, rfl, rfl⟩ suited.float
      suited.units (fits.trans_le suited.columns) made
  refine ran.bind ?_
  rintro _ after ⟨only, kept, out, out'⟩
  refine .of_done (Host.outputs_read (.cons out.toStorage (.cons out'.toStorage .nil)))
    ⟨rfl, .of_grown growing only ?_, kept⟩
  intro other member
  simp only [List.mem_cons, List.not_mem_nil, or_false] at member
  omega

/-- The inputs of a step in memory, with what the step makes of its trigger. -/
structure Placed (names : List Nat) (heap : Heap) (source : InputPort)
    (trigger? : Option InputPort) (last x : Storage) (triggers : List Storage)
    (values : List Value) (after : Heap) (given? : Option Value) (now : Storage) : Prop where
  values : values = .ofWhole x.dtype source.sizes heap.next :: given?.toList
  growing : heap.Grows after
  input : (Value.ofWhole x.dtype source.sizes heap.next).Fills after heap.next source.sizes x
  triggered : Host.Triggers names after last given? now
    (falls (some (last.item 0)) (triggerOf (x :: triggers)))
  kept : ∀ trigger ∈ triggerOf (x :: triggers), now.item 0 = trigger
  given : (triggerOf (x :: triggers)).isSome = trigger?.isSome

theorem recurrent_placed (names : List Nat) {triggers : List Storage}
    (takes : (recurrentOf weights source trigger?).Takes (x :: triggers))
    (single : ∀ trigger ∈ trigger?, trigger.size = 1)
    (typed : last.dtype = triggerType source trigger?)
    (known : ∀ name ∈ names, name < state.heap.next) :
    Host.Yields (Kernel.onHost (placeInputs (recurrentOf weights source trigger?).inputs
      (x :: triggers)) : Host ρ (List Value)) state fun values after => ∃ given? now,
        Placed names state.heap source trigger? last x triggers values after.heap given? now := by
  obtain - | ⟨⟨-, fits⟩, takes⟩ := takes
  have growing := Heap.Grows.add state.heap x
  have input := Value.Fills.added state.heap fits
  cases trigger? with
  | none =>
      obtain - | _ := takes
      exact Host.placed_input fits (.of_done rfl
        ⟨none, last, rfl, growing, input, .none, by rintro _ ⟨⟩, rfl⟩)
  | some trigger =>
      obtain - | @⟨_, now, _, _, ⟨typed', fits'⟩, takes⟩ := takes
      obtain - | _ := takes
      have growing' := Heap.Grows.add (state.heap.add x) now
      have given := Value.Fills.added (state.heap.add x) fits'
      have apart : (state.heap.add x).next ∉ names := fun member =>
        Nat.not_lt.mpr growing.next (known _ member)
      refine Host.placed_input fits (Host.placed_input fits' (.of_done rfl
        ⟨_, now, rfl, growing.trans growing', input.grows growing',
          .some given apart (typed'.trans typed.symm) (fits'.trans (single trigger rfl)), ?_, rfl⟩))
      rintro _ ⟨⟩
      rfl

theorem recurrent_step (suited : Fits weights source)
    (single : ∀ trigger ∈ trigger?, trigger.size = 1)
    (kept : RecurrentKept weights source trigger? parameters name current state.heap)
    {inputs : List Storage} (takes : (recurrentOf weights source trigger?).Takes inputs) :
    ∃ next outputs, weights.recur source.dtype current inputs = .ok (next, outputs) ∧
      Host.Yields ((recurrentOf weights source trigger?).step id
        (recurrentHolding weights source trigger? parameters name) inputs : Host ρ (List Storage))
        state fun answer after => answer = outputs ∧
          RecurrentKept weights source trigger? parameters name next after.heap := by
  obtain ⟨supplied, ⟨last, memory, before⟩, fresh⟩ := kept
  have hidden_typed := dtype_of_whole memory.hidden
  have cell_typed := dtype_of_whole memory.cell
  have hidden_sized := memory.hidden.sized.trans (Layout.elementCount_single _)
  have cell_sized := memory.cell.sized.trans (Layout.elementCount_single _)
  have known := memory.trigger.known
  have taken := takes
  obtain - | @⟨_, x, _, triggers, ⟨typed, fits⟩, -⟩ := taken
  obtain ⟨hidden_fits, cell_fits⟩ := LstmWeights.before_fits (triggerOf (x :: triggers))
    ⟨hidden_typed, hidden_sized⟩ ⟨cell_typed, cell_sized⟩
  obtain ⟨⟨new, new'⟩, made⟩ := LstmWeights.exists_advance suited.float (fits ▸ suited.sized) typed
    hidden_fits.1 hidden_fits.2 cell_fits.1 cell_fits.2
  refine ⟨{ hidden := new, cell := new', last := triggerOf (x :: triggers) }, [new, new'],
    bind_eq_ok.mpr ⟨_, made, rfl⟩, ?_⟩
  refine (recurrent_placed [name, name + 1, name + 2] takes single (dtype_of_whole memory.trigger)
    fun name member => ?_).bind ?_
  · simp only [List.mem_cons, List.not_mem_nil, or_false] at member
    omega
  rintro _ middle ⟨given?, now, ⟨rfl, growing, input, triggered, kept, given⟩⟩
  -- the kernel clears the states just where the recurrence starts anew
  have edge_same : ∀ previous ∈ current.last, falls (some previous) (triggerOf (x :: triggers)) =
      falls (some (last.item 0)) (triggerOf (x :: triggers)) := by
    intro previous member
    rw [before previous member]
  obtain ⟨hidden_same, cell_same⟩ := LstmWeights.before_eq ⟨hidden_typed, cell_typed⟩
    ⟨hidden_sized, cell_sized⟩ edge_same fun unknown edge =>
      fresh (given.symm.trans (isSome_of_falls edge)) unknown
  rw [← hidden_same, ← cell_same] at made
  refine (recurrent_runs suited (supplied.imp fun _ _ apart => apart.grows growing)
    (memory.grows growing) triggered input ?_ typed fits made).mono ?_
  · simp only [List.mem_cons, List.not_mem_nil, or_false]
    omega
  rintro _ after ⟨rfl, only, remembered⟩
  refine ⟨rfl, supplied.imp fun _ _ apart => (apart.grows growing).onlyIn only,
    ⟨now, remembered, kept⟩, fun triggering unknown => ?_⟩
  have none : triggerOf (x :: triggers) = none := unknown
  rw [none] at given
  cases given.trans triggering

/-- All that a cell remembers is cleared. -/
theorem recurrent_reset
    (kept : RecurrentKept weights source trigger? parameters name current state.heap) :
    Host.Yields (Kernel.onHost (recurrentHolding weights source trigger? parameters name).reset :
      Host ρ Unit) state fun _ after =>
        RecurrentKept weights source trigger? parameters name (weights.blank source.dtype)
          after.heap := by
  obtain ⟨supplied, ⟨last, memory, -⟩, -⟩ := kept
  have cleared {data : Storage} (typed : data.dtype = source.dtype)
      (sized : data.size = elementCount [weights.hiddenUnits]) :
      data.cleared = .zeros source.dtype weights.hiddenUnits := by
    rw [Storage.cleared, typed, sized, Layout.elementCount_single]
  obtain ⟨one, done₁, spares₁, hidden⟩ := memory.hidden.fillZero
  obtain ⟨two, done₂, spares₂, cell⟩ := (memory.cell.spared spares₁ (by omega)).fillZero
  have rest := (memory.trigger.spared spares₁ (by omega)).spared spares₂ (by omega)
  obtain ⟨three, done₃, spares₃, trigger⟩ := rest.fillZero
  have only : state.heap.OnlyIn [name, name + 1, name + 2] three :=
    ((Heap.OnlyIn.of_spares spares₁ (by simp)).trans (.of_spares spares₂ (by simp))).trans
      (.of_spares spares₃ (by simp))
  rw [cleared (dtype_of_whole memory.hidden) memory.hidden.sized] at hidden
  rw [cleared (dtype_of_whole memory.cell) memory.cell.sized] at cell
  refine ⟨(), Host.onto state three, Host.onHeap_ok.mpr ⟨three, ?_, rfl⟩,
    supplied.imp fun _ _ apart => apart.onlyIn only,
    ⟨_, ⟨(hidden.spared spares₂ (by omega)).spared spares₃ (by omega),
      cell.spared spares₃ (by omega), trigger⟩, by rintro _ ⟨⟩⟩, fun _ _ => ⟨rfl, rfl⟩⟩
  exact Action.bind_ok.mpr ⟨_, _, done₁, Action.bind_ok.mpr ⟨_, _, done₂,
    Action.bind_ok.mpr ⟨_, _, done₃, rfl⟩⟩⟩

/-- A cell in memory goes as its recurrence says. -/
theorem recurrent_behaves (ρ : Type) (id : NodeId) (parameters : List Value) (name : Nat)
    (suited : Fits weights source) (single : ∀ trigger ∈ trigger?, trigger.size = 1) :
    Behaves ρ id (recurrentOf weights source trigger?)
      (recurrentHolding weights source trigger? parameters name)
      (weights.recurrence source.dtype) (recurrentOf weights source trigger?).Takes
      (RecurrentKept weights source trigger? parameters name) where
  reset _ _ kept := recurrent_reset kept
  step _ _ _ takes kept := recurrent_step suited single kept takes

theorem settle_recurrent
    (full : ∀ parameter ∈ (recurrentOf weights source trigger?).parameters, parameter.Full)
    (heap : Heap) :
    ∃ parameters name after,
      Holding.settle (recurrentOf weights source trigger?) heap =
        .ok (recurrentHolding weights source trigger? parameters name) after ∧
      RecurrentKept weights source trigger? parameters name (weights.blank source.dtype) after := by
  have placed := placeParameters_eq full heap
  have held := Parameter.handles_held heap (recurrentOf weights source trigger?).parameters
  generalize heap.addAll ((recurrentOf weights source trigger?).parameters.map
    Parameter.elements) = middle at placed held
  generalize Parameter.handles heap.next (recurrentOf weights source trigger?).parameters =
    parameters at placed held
  let states : Storage := .zeros source.dtype weights.hiddenUnits
  let trigger : Storage := .zeros (triggerType source trigger?) 1
  have one := Heap.Grows.add middle states
  have two := Heap.Grows.add (middle.add states) states
  have three := Heap.Grows.add ((middle.add states).add states) trigger
  have growing := (one.trans two).trans three
  have next : (middle.add states).next = middle.next + 1 := Heap.next_add _ _
  have next' : ((middle.add states).add states).next = middle.next + 1 + 1 :=
    (Heap.next_add _ _).trans (congrArg (· + 1) next)
  have handled : handles middle.next (recurrentOf weights source trigger?).state =
      (recurrentHolding weights source trigger? parameters middle.next).memory := by
    simp only [recurrentOf, handles, Storage.handle, Storage.size_zeros]
    rfl
  have settled : Holding.settle (recurrentOf weights source trigger?) heap =
      .ok (recurrentHolding weights source trigger? parameters middle.next)
        (((middle.add states).add states).add trigger) := by
    refine Action.bind_ok.mpr ⟨_, _, placed, Action.bind_ok.mpr
      ⟨_, _, placeAll_eq middle (recurrentOf weights source trigger?).state, ?_⟩⟩
    rw [handled]
    rfl
  have counted (size : Nat) : size = elementCount [size] := (Layout.elementCount_single size).symm
  have hidden := Value.Fills.added middle ((Storage.size_zeros source.dtype _).trans
    (counted weights.hiddenUnits))
  have cell := Value.Fills.added (middle.add states) ((Storage.size_zeros source.dtype _).trans
    (counted weights.hiddenUnits))
  have kept := Value.Fills.added ((middle.add states).add states)
    ((Storage.size_zeros (triggerType source trigger?) _).trans (counted 1))
  rw [next] at cell
  rw [next'] at kept
  refine ⟨parameters, middle.next, _, settled, ⟨?_, ⟨trigger, ⟨?_, ?_, kept⟩, by rintro _ ⟨⟩⟩,
    fun _ _ => ⟨rfl, rfl⟩⟩⟩
  · refine (Parameter.apart_of_held full held fun name member => ?_).imp
      fun _ _ apart => apart.grows growing
    simp only [List.mem_cons, List.not_mem_nil, or_false] at member
    omega
  · exact hidden.grows (two.trans three)
  · exact cell.grows three

end Step

end Node

/-! ### Connected cells -/

theorem sized_of_checkLstm {weights : LstmWeights} {source : InputPort}
    (checked : checkLstm weights source = .ok ()) : weights.Sized source.size := by
  unfold checkLstm at checked
  dsimp only at checked
  split at checked
  · cases checked
  rename_i some
  obtain ⟨_, one, checked⟩ := bind_eq_ok.mp checked
  obtain ⟨_, two, checked⟩ := bind_eq_ok.mp checked
  obtain ⟨_, three, four⟩ := bind_eq_ok.mp checked
  exact ⟨Nat.pos_of_ne_zero some, (checkParameters_iff.mp one).1, (checkParameters_iff.mp two).1,
    (checkParameters_iff.mp three).1, (checkParameters_iff.mp four).1⟩

theorem recurring_ok {weights : LstmWeights} {source : InputPort} {trigger? : Option InputPort}
    {node : Node} (done : recurring weights source trigger? = .ok node) :
    node = Node.recurrentOf weights source trigger? ∧ ∀ trigger ∈ trigger?, trigger.size = 1 := by
  unfold recurring at done
  cases trigger? with
  | none =>
      cases done
      exact ⟨rfl, nofun⟩
  | some trigger =>
      dsimp only at done
      split at done
      · cases done
      rename_i single
      cases done
      refine ⟨rfl, ?_⟩
      rintro _ ⟨⟩
      exact not_not.mp single

namespace Model

variable {model : Model} {weights : LstmWeights} {source : Port} {triggers : List Port}
  {output : OutputPort} {node : Node}

/-- What a cell looks like that was connected to a port. -/
theorem recurrent_of_connect (found : model.outputPort source = .ok output)
    (connected : model.connect (.lstm weights) (source :: triggers) = .ok node) :
    ∃ (port : InputPort) (trigger? : Option InputPort),
      node = Node.recurrentOf weights port trigger? ∧ port.dtype = output.dtype ∧
        port.dtype.isFloat = true ∧ weights.Sized port.size ∧
          ∀ trigger ∈ trigger?, trigger.size = 1 := by
  rw [connect_lstm] at connected
  obtain ⟨port, first, connected⟩ := bind_eq_ok.mp connected
  obtain ⟨_, checked, connected⟩ := bind_eq_ok.mp connected
  obtain ⟨trigger?, -, connected⟩ := bind_eq_ok.mp connected
  obtain ⟨float, typed, -⟩ := firstFloat_port found first
  obtain ⟨same, single⟩ := recurring_ok connected
  exact ⟨port, trigger?, same, typed, float, sized_of_checkLstm checked, single⟩

/-- A cell that was connected goes as its recurrence says, whatever it is fed, and whenever it is
reset.  From a step on in which the trigger falls, its answers are those of a fresh node that is fed
the rest. -/
theorem connect_recurs {ρ : Type} (found : model.outputPort source = .ok output)
    (connected : model.connect (.lstm weights) (source :: triggers) = .ok node)
    (counts : weights.inputWeights.length < Nat.pow 2 63)
    (counts' : weights.hiddenWeights.length < Nat.pow 2 63) (id : NodeId) (visits : List Visit)
    (takes : ∀ inputs, .step inputs ∈ visits → node.Takes inputs) (state : HostState ρ) :
    ∃ answers after,
      (weights.recurrence output.dtype).answers (weights.blank output.dtype) visits = .ok answers ∧
        node.visit id visits state = .ok answers after ∧
          ∀ before inputs rest, visits = before ++ .step inputs :: rest →
            falls (lastTrigger none before) (triggerOf inputs) = true →
              ∃ earlier later, answers = earlier ++ later ∧
                (∃ after, node.visit id before state = .ok earlier after) ∧
                  ∀ fresh : HostState ρ, ∃ after,
                    node.visit id (.step inputs :: rest) fresh = .ok later after := by
  obtain ⟨port, trigger?, rfl, typed, float, sized, single⟩ := recurrent_of_connect found connected
  have full := (shaped_of_connect connected).full
  have suited := Node.fits_of_lengths sized float counts.le counts'.le
  -- any visits of a fresh node go as the recurrence says
  have goes (visits : List Visit) (state : HostState ρ)
      (takes : ∀ inputs, .step inputs ∈ visits →
        (Node.recurrentOf weights port trigger?).Takes inputs) :
      ∃ answers after,
        (weights.recurrence output.dtype).answers (weights.blank output.dtype) visits =
          .ok answers ∧
        (Node.recurrentOf weights port trigger?).visit id visits state = .ok answers after := by
    obtain ⟨parameters, name, heap, settled, start⟩ := Node.settle_recurrent full state.heap
    obtain ⟨answers, same, _, after, done, rfl⟩ :=
      (Node.recurrent_behaves ρ id parameters name suited single).visitOn takes _
        (Host.onto state heap) start
    rw [typed] at same
    exact ⟨_, after, same, Host.bind_ok.mpr ⟨_, _, Host.onHeap_ok.mpr ⟨_, settled, rfl⟩, done⟩⟩
  obtain ⟨answers, after, same, visited⟩ := goes visits state takes
  refine ⟨answers, after, same, visited, ?_⟩
  rintro before inputs rest rfl edge
  obtain ⟨earlier, later, same₁, same₂, rfl⟩ := LstmWeights.answers_of_falls edge same
  refine ⟨earlier, later, rfl, ?_, fun fresh => ?_⟩
  · obtain ⟨_, after, same, visited⟩ := goes before state fun inputs member =>
      takes inputs (List.mem_append_left _ member)
    cases same₁.symm.trans same
    exact ⟨after, visited⟩
  · obtain ⟨_, after, same, visited⟩ := goes (.step inputs :: rest) fresh fun inputs member =>
      takes inputs (List.mem_append_right _ member)
    cases same₂.symm.trans same
    exact ⟨after, visited⟩

/-- A cell of one unit whose trigger is one in the first step and zero in the second: the second
step answers as a fresh cell does. -/
theorem connect_recurs_falling :
    ∃ (model : Model) (weights : LstmWeights) (node : Node) (x on off : Storage)
      (earlier later : List (List Storage)) (start after : HostState Unit),
      weights.hiddenUnits = 1 ∧ x.cells = #[.f64 1.0] ∧ on.cells = #[.i32 1] ∧
        off.cells = #[.i32 0] ∧
      model.outputPort { node := 0, output := 0 } = .ok (outputOf .f64 [1]) ∧
      model.connect (.lstm weights) [{ node := 0, output := 0 }, { node := 1, output := 0 }] =
        .ok node ∧
      falls (lastTrigger none [.step [x, on]]) (triggerOf [x, off]) = true ∧
      (weights.recurrence .f64).answers (weights.blank .f64) [.step [x, on], .step [x, off]] =
        .ok (earlier ++ later) ∧
      node.visit 2 [.step [x, on], .step [x, off]] start = .ok (earlier ++ later) after ∧
      (∃ after, node.visit 2 [.step [x, on]] start = .ok earlier after) ∧
        ∃ after, node.visit 2 [.step [x, off]] start = .ok later after := by
  let model : Model :=
    { nodes := [Node.stateless (.input .f64 [1]) [] (outputOf .f64 [1]),
        Node.stateless (.input .i32 [1]) [] (outputOf .i32 [1])] }
  let weights : LstmWeights :=
    { hiddenUnits := 1
      inputWeights := [1.0, 0.5, 1.0, 0.5]
      hiddenWeights := [0.5, 1.0, 0.5, 1.0]
      inputBias := [0.0, 0.0, 0.0, 0.0]
      hiddenBias := [0.0, 0.0, 0.0, 0.0]
      activation := .tanh
      recurrent := .sigmoid }
  let single (element : Literal) : Storage :=
    { dtype := element.dtype, cells := #[element], typed := by simp }
  let start : HostState Unit := { heap := Heap.empty, operations := 0, scratch := () }
  obtain ⟨node, connected, takes⟩ : ∃ node : Node,
      model.connect (.lstm weights) [{ node := 0, output := 0 }, { node := 1, output := 0 }] =
        .ok node ∧
      ∀ trigger : Int32, node.Takes [single (.f64 1.0), single (.i32 trigger)] :=
    ⟨_, rfl, fun _ => .cons ⟨rfl, rfl⟩ (.cons ⟨rfl, rfl⟩ .nil)⟩
  have few : 4 < Nat.pow 2 63 := by decide
  obtain ⟨answers, after, same, visited, anew⟩ := Model.connect_recurs (ρ := Unit)
    (rfl : model.outputPort { node := 0, output := 0 } = .ok (outputOf .f64 [1])) connected few few
    2 [.step [single (.f64 1.0), single (.i32 1)], .step [single (.f64 1.0), single (.i32 0)]]
    (by
      intro inputs member
      simp only [List.mem_cons, Visit.step.injEq, List.not_mem_nil, or_false] at member
      rcases member with rfl | rfl
      · exact takes 1
      · exact takes 0) start
  have edge : (Literal.i32 1).falls (.i32 0) = true := by decide +kernel
  obtain ⟨earlier, later, rfl, first, second⟩ := anew [.step [single (.f64 1.0), single (.i32 1)]]
    [single (.f64 1.0), single (.i32 0)] [] rfl edge
  exact ⟨model, weights, node, single (.f64 1.0), single (.i32 1), single (.i32 0), earlier, later,
    start, after, rfl, rfl, rfl, rfl, rfl, connected, edge, same, visited, first, second start⟩

end Model
end TensorGraph

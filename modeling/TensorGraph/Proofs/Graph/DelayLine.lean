/-
Delay lines.

A delay node keeps the inputs of its last steps in one row, the oldest first,
with zeros where there were none.  Each step moves the oldest input out and the
new one in behind, so what is moved out was moved in as many steps ago as the
row has inputs.
-/

import TensorGraph.Proofs.Graph.Connect
import TensorGraph.Proofs.Graph.Stepping

namespace TensorGraph

/-! ### Rows of inputs -/

/-- What a delay node keeps behind the inputs of some steps: as many elements as `window` inputs
have, and before the first inputs zeros. -/
def delayRow (window size : Nat) (zero : Literal) (past : List Storage) : List Literal :=
  (List.replicate (window * size) zero ++ past.flatMap fun data => data.cells.toList).drop
    (past.length * size)

section Rows

variable {window size : Nat} {zero : Literal} {past : List Storage} {data : Storage}

theorem length_flatMap_cells (sized : ∀ data ∈ past, data.size = size) :
    (past.flatMap fun data => data.cells.toList).length = past.length * size := by
  induction past with
  | nil => simp
  | cons data rest inductionHypothesis =>
      obtain ⟨first, others⟩ := List.forall_mem_cons.mp sized
      have here : data.cells.toList.length = size := Array.length_toList.trans first
      rw [List.flatMap_cons, List.length_append, here, inductionHypothesis others,
        List.length_cons, Nat.succ_mul, Nat.add_comm]

theorem drop_flatMap_cells (sized : ∀ data ∈ past, data.size = size) (count : Nat) :
    (past.flatMap fun data => data.cells.toList).drop (count * size) =
      (past.drop count).flatMap fun data => data.cells.toList := by
  induction count generalizing past with
  | zero => simp
  | succ count inductionHypothesis =>
      cases past with
      | nil => simp
      | cons data rest =>
          obtain ⟨first, others⟩ := List.forall_mem_cons.mp sized
          have here : data.cells.toList.length = size := Array.length_toList.trans first
          rw [List.flatMap_cons, Nat.succ_mul, Nat.add_comm, ← List.drop_drop, ← here,
            List.drop_left, here, inductionHypothesis others, List.drop_succ_cons]

theorem delayRow_start (window size : Nat) (zero : Literal) :
    delayRow window size zero [] = List.replicate (window * size) zero := by
  simp [delayRow]

/-- The oldest input is dropped, and the new one stands behind. -/
theorem delayRow_step (positive : 0 < window) (sized : ∀ data ∈ past, data.size = size) :
    (delayRow window size zero past).drop size ++ data.cells.toList =
      delayRow window size zero (past ++ [data]) := by
  have counted := length_flatMap_cells sized
  have room : size ≤ window * size := Nat.le_mul_of_pos_left size positive
  have within : past.length * size + size ≤ (List.replicate (window * size) zero ++
      past.flatMap fun data => data.cells.toList).length := by
    rw [List.length_append, List.length_replicate, counted]
    omega
  rw [delayRow, delayRow, List.drop_drop, List.flatMap_append, List.flatMap_singleton,
    ← List.append_assoc, List.length_append, List.length_singleton, Nat.succ_mul,
    ← List.drop_append_of_le_length within]

end Rows

/-! ### Answers -/

/-- The input of `window` steps ago, and zeros where there was none. -/
def delayedInput (window : Nat) (zeros : Storage) (past : List Storage) : Storage :=
  if window ≤ past.length then past.getD (past.length - window) zeros else zeros

theorem dtype_delayedInput {window size : Nat} {dtype : DType} {past : List Storage}
    (typed : ∀ data ∈ past, data.dtype = dtype) :
    (delayedInput window (.zeros dtype size) past).dtype = dtype := by
  unfold delayedInput
  split
  · rw [List.getD_eq_getElem?_getD]
    cases found : past[past.length - window]? with
    | none => rfl
    | some data => exact typed data (List.mem_of_getElem? found)
  · rfl

/-- In front of the row stands the input of so many steps ago. -/
theorem delayRow_front {window size : Nat} {dtype : DType} {past : List Storage}
    (positive : 0 < window) (sized : ∀ data ∈ past, data.size = size) :
    (delayRow window size (.zero dtype) past).take size =
      (delayedInput window (.zeros dtype size) past).cells.toList := by
  unfold delayedInput
  split
  · rename_i reached
    obtain ⟨count, counted⟩ := Nat.exists_eq_add_of_le reached
    have within : count < past.length := by omega
    have skip : past.length * size = window * size + count * size := by
      rw [counted, Nat.add_mul]
    have first : past[count].cells.toList.length = size :=
      Array.length_toList.trans (sized _ (List.getElem_mem within))
    have found : past.getD (past.length - window) (.zeros dtype size) = past[count] := by
      rw [counted, Nat.add_sub_cancel_left]
      exact List.getD_eq_getElem past _ within
    rw [delayRow, skip, ← List.drop_drop, List.drop_left' (List.length_replicate ..),
      drop_flatMap_cells sized, List.drop_eq_getElem_cons within, List.flatMap_cons,
      List.take_left' first, found]
  · rename_i before
    have room : past.length * size + size ≤ window * size := by
      rw [← Nat.succ_mul]
      exact Nat.mul_le_mul_right size (by omega)
    rw [delayRow, List.drop_append_of_le_length (by rw [List.length_replicate]; omega),
      List.drop_replicate, List.take_append_of_le_length (by rw [List.length_replicate]; omega),
      List.take_replicate, min_eq_left (by omega)]
    exact Array.toList_replicate.symm

/-- What an ideal delay line answers in the steps of some visits, behind the inputs that came
since the last reset. -/
def delayed (window : Nat) (zeros : Storage) :
    List Storage → List Visit → List (List Storage)
  | _, [] => []
  | _, .reset :: rest => delayed window zeros [] rest
  | past, .step inputs :: rest =>
      [delayedInput window zeros past] :: delayed window zeros (past ++ inputs) rest

/-- The delay line as a machine that remembers every input since the last reset. -/
def delayLine (window : Nat) (zeros : Storage) : Machine (List Storage) where
  start := []
  step past inputs := .ok (past ++ inputs, [delayedInput window zeros past])

theorem answers_delayLine (window : Nat) (zeros : Storage) (past : List Storage)
    (visits : List Visit) :
    (delayLine window zeros).answers past visits = .ok (delayed window zeros past visits) := by
  induction visits generalizing past with
  | nil => rfl
  | cons visit rest inductionHypothesis =>
      cases visit with
      | reset => exact inductionHypothesis []
      | step inputs =>
          have others := inductionHypothesis (past ++ inputs)
          simp only [Machine.answers, delayLine, bind, Except.bind] at others ⊢
          rw [others]
          rfl

/-! ### The node -/

/-- The memory of a delay node holds the row behind the inputs since the last reset. -/
structure DelayKept (dtype : DType) (window size name : Nat) (past : List Storage) (heap : Heap) :
    Prop where
  fits : ∀ data ∈ past, data.dtype = dtype ∧ data.size = size
  row : ∃ row, (Value.ofWhole dtype [window * size] name).Fills heap name [window * size] row ∧
    row.dtype = dtype ∧ row.cells.toList = delayRow window size (.zero dtype) past

namespace Host

variable {ρ : Type} {state : HostState ρ} {memory input output : Value} {sizes : List Nat}
  {count name name' name'' : Nat} {row data blank : Storage}

/-- The row slides on, and what stood at its front is the answer. -/
theorem delay_slides (apart : name ≠ name' ∧ name'' ≠ name ∧ name'' ≠ name')
    (fits : data.size ≤ count) (typed : row.dtype = data.dtype) (typed' : blank.dtype = data.dtype)
    (fills : memory.Fills state.heap name [count] row)
    (fills' : input.Fills state.heap name' sizes data)
    (fills'' : output.Fills state.heap name'' sizes blank) :
    Yields (do
      let buffer ← vectorOf memory
      Kernel.shift buffer (← Kernel.row input) (some (← Kernel.row output)) : Host ρ Unit) state
        fun _ after => ∃ kept answer,
          memory.Fills after.heap name [count] kept ∧ kept.dtype = data.dtype ∧
            kept.cells.toList = row.cells.toList.drop data.size ++ data.cells.toList ∧
          output.Fills after.heap name'' sizes answer ∧ answer.dtype = data.dtype ∧
            answer.cells.toList = row.cells.toList.take data.size := by
  have sized := fills.sized.trans (Layout.elementCount_single _)
  have sized' := fills''.sized.trans fills'.sized.symm
  refine (vector_of_fills fills).bind ?_
  rintro buffer _ ⟨rfl, rfl, window_of⟩
  refine (row_of_fills fills').bind ?_
  rintro newest _ ⟨rfl, newest_of⟩
  refine (row_of_fills fills'').bind ?_
  rintro dropped _ ⟨rfl, dropped_of⟩
  have shifts : buffer.Shifts newest (some dropped) := by
    refine ⟨?_, ?_, window_of.packed.packed, newest_of.packed.packed, ?_⟩
    · rw [newest_of.size, window_of.size, sized]
      exact fits
    · rw [newest_of.dtype, window_of.dtype, typed]
    · rintro _ ⟨⟩
      refine ⟨dropped_of.dtype.trans (typed'.trans (typed.symm.trans window_of.dtype.symm)), ?_,
        dropped_of.packed.packed⟩
      rw [newest_of.size, dropped_of.size, sized']
  have disjoint : buffer.Disjoint newest (some dropped) := by
    refine ⟨.of_places window_of.place newest_of.place apart.1, ?_⟩
    rintro _ ⟨⟩
    exact ⟨.of_places dropped_of.place window_of.place apart.2.1,
      .of_places dropped_of.place newest_of.place apart.2.2⟩
  refine (shift_yields shifts window_of.packed newest_of.packed ?_).mono fun _ after shifted => ?_
  · rintro _ ⟨⟩
    exact ⟨_, _, dropped_of.fills.stands⟩
  obtain ⟨keeps, ⟨old, new, read, read', read''⟩, front, -⟩ :=
    slid_of_shifted shifts disjoint window_of.packed newest_of.packed shifted
  obtain rfl := Except.ok.inj (fills.literals.symm.trans read)
  obtain rfl := Except.ok.inj (newest_of.fills.literals.symm.trans read')
  obtain ⟨old, rest, same, same', left⟩ := front dropped rfl
  obtain rfl := Except.ok.inj (read.symm.trans same)
  obtain rfl := Except.ok.inj (dropped_of.fills.literals.symm.trans same')
  obtain ⟨kept, fills₁, typed₁, cells₁⟩ := fills.held_of_literals keeps read''
  obtain ⟨answer, fills₂, typed₂, cells₂⟩ := dropped_of.fills.held_of_literals keeps left
  refine ⟨kept, answer, fills₁, typed₁.trans typed, newest_of.size ▸ cells₁, ?_,
    typed₂.trans typed', ?_⟩
  · refine fills''.changed keeps.next fills₂.held typed₂ ?_
    exact fills₂.sized.trans (Layout.elementCount_single _)
  · rw [cells₂, newest_of.size, List.drop_eq_nil_of_le, List.append_nil]
    rw [Array.length_toList]
    exact sized'.le

end Host

namespace Node

variable {ρ : Type} {id : NodeId} {window name : Nat} {port : InputPort} {past : List Storage}
  {data : Storage} {state : HostState ρ}

/-- A delay node as it is connected to a port. -/
def delayOf (window : Nat) (port : InputPort) : Node :=
  { Node.alike (.delay window) port with
    state := [.zeros port.dtype (window * port.size)] }

/-- What a delay node holds in memory. -/
def delayHolding (window : Nat) (port : InputPort) (name : Nat) : Holding where
  parameters := []
  memory := [.ofWhole port.dtype [window * port.size] name]

theorem delay_step (positive : 0 < window)
    (kept : DelayKept port.dtype window port.size name past state.heap)
    (typed : data.dtype = port.dtype) (sized : data.size = port.size) :
    Host.Yields ((delayOf window port).step id (delayHolding window port name) [data] :
      Host ρ (List Storage)) state fun answer after =>
        answer = [delayedInput window (.zeros port.dtype port.size) past] ∧
          DelayKept port.dtype window port.size name (past ++ [data]) after.heap := by
  obtain ⟨fits, row, fills, typed', cells⟩ := kept
  have sizes : ∀ data ∈ past, data.size = port.size := fun data member => (fits data member).2
  -- the input stands behind all that is in memory, and the output behind the input
  have input := Value.Fills.added state.heap sized
  have output := Value.Fills.added (state.heap.add data)
    (Storage.size_zeros port.dtype (elementCount port.sizes))
  have grows := Heap.Grows.add (state.heap.add data)
    (.zeros port.dtype (elementCount port.sizes))
  rw [Heap.next_add] at output
  have known := fills.known
  refine step_of_work rfl rfl sized ((Host.delay_slides (by omega)
    (sized ▸ Nat.le_mul_of_pos_left _ positive) (typed'.trans typed.symm) typed.symm
    (fills.grows ((Heap.Grows.add _ _).trans grows)) (input.grows grows) output).mono ?_)
  rintro _ after ⟨kept, answer, fills, dtype, cells', filled, dtype', front⟩
  have answered : answer = delayedInput window (.zeros port.dtype port.size) past := by
    refine Storage.ext_cells ?_ (Array.toList_inj.mp ?_)
    · rw [dtype', typed, dtype_delayedInput fun data member => (fits data member).1]
    · rw [front, cells, sized, delayRow_front positive sizes]
  refine ⟨answer, filled, by rw [answered], ?_⟩
  refine ⟨?_, kept, fills, dtype.trans typed, ?_⟩
  · intro other member
    rcases List.mem_append.mp member with before | same
    · exact fits other before
    · obtain rfl := List.mem_singleton.mp same
      exact ⟨typed, sized⟩
  · rw [cells', cells, sized, delayRow_step positive sizes]

theorem settle_delayOf (window : Nat) (port : InputPort) (heap : Heap) :
    Holding.settle (delayOf window port) heap =
      .ok (delayHolding window port heap.next)
        (heap.add (.zeros port.dtype (window * port.size))) := by
  have settled : Holding.settle (delayOf window port) heap =
      .ok { parameters := []
            memory := [.ofWhole port.dtype
              [(Storage.zeros port.dtype (window * port.size)).size] heap.next] }
        (heap.add (.zeros port.dtype (window * port.size))) := rfl
  rw [Storage.size_zeros] at settled
  exact settled

/-- Zeros are the row behind no inputs. -/
theorem delayKept_start {dtype : DType} {size : Nat} {heap : Heap}
    (fills : (Value.ofWhole dtype [window * size] name).Fills heap name [window * size]
      (.zeros dtype (window * size))) : DelayKept dtype window size name [] heap :=
  ⟨nofun, _, fills, rfl, Array.toList_replicate.trans (delayRow_start ..).symm⟩

/-- A delay node in memory is a delay line. -/
theorem delay_behaves (ρ : Type) (id : NodeId) (port : InputPort) (name : Nat)
    (positive : 0 < window) :
    Behaves ρ id (delayOf window port) (delayHolding window port name)
      (delayLine window (.zeros port.dtype port.size))
      (fun inputs => ∃ data, inputs = [data] ∧ data.dtype = port.dtype ∧ data.size = port.size)
      (DelayKept port.dtype window port.size name) where
  reset past state kept := by
    obtain ⟨-, row, fills, typed, -⟩ := kept
    obtain ⟨after, cleared, -, zeros⟩ := fills.fillZero
    rw [Storage.cleared, typed, fills.sized, Layout.elementCount_single] at zeros
    refine ⟨(), Host.onto state after, Host.onHeap_ok.mpr ⟨after, ?_, rfl⟩, delayKept_start zeros⟩
    exact Action.bind_ok.mpr ⟨(), after, cleared, rfl⟩
  step past inputs state fitting kept := by
    obtain ⟨data, rfl, typed, sized⟩ := fitting
    exact ⟨_, _, rfl, delay_step positive kept typed sized⟩

end Node

theorem Model.connect_delayOf {model : Model} {source : Port} {output : OutputPort} {window : Nat}
    (found : model.outputPort source = .ok output) (positive : 0 < window) :
    ∃ port : InputPort, port.dtype = output.dtype ∧ port.sizes = output.sizes ∧
      model.connect (.delay window) [source] = .ok (Node.delayOf window port) := by
  obtain ⟨port, read, typed, shaped⟩ : ∃ port : InputPort,
      model.inputFrom "input" source = .ok port ∧ port.dtype = output.dtype ∧
        port.sizes = output.sizes := by
    rw [inputFrom, found]
    exact ⟨_, rfl, rfl, rfl⟩
  refine ⟨port, typed, shaped, (congrArg (· >>= delaying window) read).trans ?_⟩
  simp only [bind, Except.bind, delaying, Nat.ne_of_gt positive, if_false]
  rfl

/-- A delay node is an ideal delay line: whatever it is fed, and whenever it is reset, each of its
steps answers with the input of `window` steps ago, and with zeros where there was none since the
start or the last reset. -/
theorem Model.connect_delays {ρ : Type} {model : Model} {source : Port} {output : OutputPort}
    {window : Nat} (found : model.outputPort source = .ok output) (positive : 0 < window) :
    ∃ node, model.connect (.delay window) [source] = .ok node ∧
      ∀ (id : NodeId) (visits : List Visit) (state : HostState ρ),
        (∀ inputs, .step inputs ∈ visits → ∃ data, inputs = [data] ∧
          data.dtype = output.dtype ∧ data.size = elementCount output.sizes) →
            ∃ after, node.visit id visits state = .ok (delayed window
              (.zeros output.dtype (elementCount output.sizes)) [] visits) after := by
  obtain ⟨port, typed, shaped, connected⟩ := Model.connect_delayOf found positive
  refine ⟨_, connected, fun id visits state fitting => ?_⟩
  have sized : elementCount output.sizes = port.size := congrArg elementCount shaped.symm
  rw [← typed, sized] at fitting ⊢
  have start : DelayKept port.dtype window port.size state.heap.next []
      (state.heap.add (.zeros port.dtype (window * port.size))) :=
    Node.delayKept_start (.added _ ((Storage.size_zeros _ _).trans
      (Layout.elementCount_single _).symm))
  obtain ⟨answers, same, _, after, done, rfl⟩ :=
    (Node.delay_behaves ρ id port state.heap.next positive).visitOn fitting []
      (Host.onto state _) start
  refine ⟨after, ?_⟩
  rw [answers_delayLine] at same
  cases same
  exact Host.bind_ok.mpr ⟨_, _, Host.onHeap_ok.mpr ⟨_, Node.settle_delayOf window port _, rfl⟩,
    done⟩

/-- A delay of one step behind an input of two integers, made to forget after its second step. -/
theorem Model.connect_delays_pair :
    ∃ (model : Model) (node : Node) (one two three four : Storage) (after : HostState Unit),
      one.cells = #[.i32 1, .i32 2] ∧ two.cells = #[.i32 3, .i32 4] ∧
        three.cells = #[.i32 5, .i32 6] ∧ four.cells = #[.i32 7, .i32 8] ∧
      model.outputPort { node := 0, output := 0 } = .ok (outputOf .i32 [2]) ∧
      model.connect (.delay 1) [{ node := 0, output := 0 }] = .ok node ∧
      node.visit 1 [.step [one], .step [two], .reset, .step [three], .step [four]]
          { heap := Heap.empty, operations := 0, scratch := () } =
        .ok [[.zeros .i32 2], [one], [.zeros .i32 2], [three]] after := by
  obtain ⟨model, found⟩ : ∃ model : Model,
      model.outputPort { node := 0, output := 0 } = .ok (outputOf .i32 [2]) :=
    ⟨{ nodes := [Node.stateless (.input .i32 [2]) [] (outputOf .i32 [2])] }, rfl⟩
  have pair (left right : Int32) : ∃ data : Storage, data.cells = #[.i32 left, .i32 right] ∧
      data.dtype = .i32 ∧ data.size = 2 :=
    ⟨{ dtype := .i32, cells := #[.i32 left, .i32 right], typed := by simp [Literal.dtype] },
      rfl, rfl, rfl⟩
  obtain ⟨one, cells₁, fits₁⟩ := pair 1 2
  obtain ⟨two, cells₂, fits₂⟩ := pair 3 4
  obtain ⟨three, cells₃, fits₃⟩ := pair 5 6
  obtain ⟨four, cells₄, fits₄⟩ := pair 7 8
  obtain ⟨node, connected, delays⟩ :=
    Model.connect_delays found Nat.one_pos
  obtain ⟨after, visited⟩ := delays 1
    [.step [one], .step [two], .reset, .step [three], .step [four]]
    { heap := Heap.empty, operations := 0, scratch := () } (by
      intro inputs member
      simp only [List.mem_cons, Visit.step.injEq, reduceCtorEq, List.not_mem_nil, or_false,
        false_or] at member
      rcases member with rfl | rfl | rfl | rfl
      · exact ⟨one, rfl, fits₁⟩
      · exact ⟨two, rfl, fits₂⟩
      · exact ⟨three, rfl, fits₃⟩
      · exact ⟨four, rfl, fits₄⟩)
  exact ⟨model, node, one, two, three, four, after, cells₁, cells₂, cells₃, cells₄, found,
    connected, visited⟩

end TensorGraph

/-
Steps of a cell.

A step follows its trigger, if it has one, and then finds the states of all units.
A trigger that falls clears both states first; whether or not it falls, it is kept
for the next step.
-/

import TensorGraph.Proofs.Kernel.Units

namespace TensorGraph

/-- The trigger was one and is zero now. -/
def Literal.falls (before now : Literal) : Bool :=
  before.same (.ofFloat before.dtype 1.0) && now.same (.ofFloat now.dtype 0.0)

namespace Host

variable {ρ : Type} {state : HostState ρ} {dtype : DType} {data : Storage} {scalar : Scalar}
  {element : Literal} {name index : Nat}

/-! ### The trigger -/

section Trigger

variable {left right : Scalar} {other : Literal} {condition : Scalar} {onTrue onFalse : Host ρ Unit}
  {holds : Unit → HostState ρ → Prop} {hidden cell last : Vector} {trigger : Value}
  {old old' before now : Storage} {sizes : List Nat}
  {hiddenName cellName lastName triggerName : Nat}

theorem gives_equal (reads : Reads state.heap left element) (reads' : Reads state.heap right other)
    (typed : other.dtype = element.dtype) :
    Gives (left.compare .eq right : Host ρ Scalar) state (.bool (element.same other)) := by
  have same : left.dtype = right.dtype := by
    rw [reads.dtype, reads'.dtype, typed]
  have compared : element.compare .eq other = .ok (element.same other) := by
    unfold Literal.compare Literal.same
    rw [if_pos typed.symm]
    cases element.order other <;> rfl
  have read := @readLiteral_reads ρ (counted state 1) _ _ reads
  have read' := @readLiteral_reads ρ (counted state 1) _ _ reads'
  have done : (Host.compare .eq left.value right.value : Host ρ Value) state =
      .ok (alone (.bool (element.same other)) state.heap.next).value (onto (counted state 1)
        (state.heap.add (Storage.singleton (.bool (element.same other))))) :=
    bind_ok.mpr ⟨(), counted state 1, rfl, bind_ok.mpr ⟨element, _, read,
      bind_ok.mpr ⟨other, _, read', bind_ok.mpr ⟨_, _, ofExcept_ok.mpr ⟨compared, rfl⟩, rfl⟩⟩⟩⟩
  exact ⟨_, _, bind_ok.mpr ⟨(), state, checkType_done same, bind_ok.mpr ⟨_, _, done, rfl⟩⟩,
    .add _ _, reads_alone _ state.heap⟩

theorem ifElse_yields {choice : Bool} (reads : Reads state.heap condition (.bool choice))
    (one : choice = true → Yields onTrue state holds)
    (two : choice = false → Yields onFalse state holds) :
    Yields (Host.ifElse condition.value onTrue onFalse) state holds := by
  refine .behind (readLiteral_reads reads) ?_
  cases choice with
  | true => exact one rfl
  | false => exact two rfl

/-- Both states are cleared. -/
theorem clear_yields {zero : Scalar} (row : RowOf hidden state.heap hiddenName old)
    (row' : RowOf cell state.heap cellName old') (typed : old'.dtype = old.dtype)
    (counts : old.size ≤ Nat.pow 2 63 ∧ old'.size ≤ Nat.pow 2 63)
    (different : hiddenName ≠ cellName) (reads : Reads state.heap zero (.zero old.dtype))
    (apart : ∀ index, zero.value.place ≠ .host hiddenName index ∧
      zero.value.place ≠ .host cellName index) :
    Yields (do
      hidden.fill zero
      cell.fill zero : Host ρ Unit) state fun _ after =>
        state.heap.OnlyIn [hiddenName, cellName] after.heap ∧
          RowOf hidden after.heap hiddenName old.cleared ∧
            RowOf cell after.heap cellName old'.cleared := by
  refine (zero_rowOf row reads (fun index => (apart index).1) counts.1).bind ?_
  rintro _ middle ⟨spares, row₁⟩
  refine (zero_rowOf (row'.spared spares different.symm)
    (typed ▸ reads.spared spares fun index => (apart index).1) (fun index => (apart index).2)
    counts.2).mono ?_
  rintro _ after ⟨spares', row₂⟩
  exact ⟨(Heap.OnlyIn.of_spares spares (by simp)).trans (.of_spares spares' (by simp)),
    row₁.spared spares' different, row₂⟩

/-- Both states are cleared if both conditions hold, else they are as they were. -/
theorem clearOn_yields {zero wasOn nowOff : Scalar} {was off : Bool}
    (row : RowOf hidden state.heap hiddenName old) (row' : RowOf cell state.heap cellName old')
    (typed : old'.dtype = old.dtype) (counts : old.size ≤ Nat.pow 2 63 ∧ old'.size ≤ Nat.pow 2 63)
    (different : hiddenName ≠ cellName) (reads : Reads state.heap zero (.zero old.dtype))
    (apart : ∀ index, zero.value.place ≠ .host hiddenName index ∧
      zero.value.place ≠ .host cellName index)
    (was_reads : Reads state.heap wasOn (.bool was))
    (off_reads : Reads state.heap nowOff (.bool off)) :
    Yields (Host.ifElse wasOn.value (Host.ifElse nowOff.value (do
      hidden.fill zero
      cell.fill zero) (pure ())) (pure ()) : Host ρ Unit) state fun _ after =>
        state.heap.OnlyIn [hiddenName, cellName] after.heap ∧
          RowOf hidden after.heap hiddenName (if was && off then old.cleared else old) ∧
            RowOf cell after.heap cellName (if was && off then old'.cleared else old') := by
  have untouched : state.heap.OnlyIn [hiddenName, cellName] state.heap := .of_grows _ (.refl _)
  refine ifElse_yields was_reads ?_ ?_
  · rintro rfl
    refine ifElse_yields off_reads ?_ ?_
    · rintro rfl
      exact clear_yields row row' typed counts different reads apart
    · rintro rfl
      exact .of_done rfl ⟨untouched, row, row'⟩
  · rintro rfl
    exact .of_done rfl ⟨untouched, row, row'⟩

/-- The only element of a row is overwritten. -/
theorem single_yields {vector : Vector} (row : RowOf vector state.heap name data)
    (sized : data.size = 1) (sized' : now.size = 1) (typed : now.dtype = data.dtype)
    (reads : Reads state.heap scalar (now.item 0)) :
    Yields ((item data.dtype name 0).assign scalar : Host ρ Unit) state fun _ after =>
      state.heap.Spares name after.heap ∧ RowOf vector after.heap name now := by
  have held := row.fills.held
  have within : 0 < (state.heap.storage name).size := by
    rw [held, sized]
    exact Nat.one_pos
  have kind := (now.dtype_item (by omega : 0 < now.size)).trans typed
  rw [← held] at kind ⊢
  refine (assign_written row.fills.known within reads kind).mono fun _ after written => ?_
  refine ⟨⟨written.keeps, fun other _ different => written.others other different⟩, .of_fills
    (row.fills.become written.keeps typed (sized'.trans sized.symm) fun index below => ?_)⟩
  obtain rfl : index = 0 := by omega
  rw [Storage.get_item (by omega : 0 < now.size), Storage.get_eq_ok]
  exact written.written _ List.mem_cons_self

theorem RowOf.reaches {vector : Vector} (row : RowOf vector state.heap name data)
    (reads : Reads state.heap scalar (.i64 (Int64.ofNat index))) (below : index < data.size)
    (counts : data.size ≤ Nat.pow 2 63) :
    (vector.element scalar : Host ρ Scalar) state = .ok (item data.dtype name index) state ∧
      Reads state.heap (item data.dtype name index) (data.item index) := by
  have here := row.fills.row
  exact ⟨item_done here row.size reads below counts, reads_item here (row.fills.cells index below)⟩

/-- What a trigger does: the states are cleared when it falls, and it is kept. -/
theorem applyTrigger_yields (row : RowOf hidden state.heap hiddenName old)
    (row' : RowOf cell state.heap cellName old') (last_row : RowOf last state.heap lastName before)
    (fills : trigger.Fills state.heap triggerName sizes now)
    (typed : old.dtype = dtype ∧ old'.dtype = dtype ∧ now.dtype = before.dtype)
    (sized : before.size = 1 ∧ now.size = 1)
    (counts : old.size ≤ Nat.pow 2 63 ∧ old'.size ≤ Nat.pow 2 63)
    (distinct : [hiddenName, cellName, lastName, triggerName].Nodup) {edge : Bool}
    (falling : (before.item 0).falls (now.item 0) = edge) :
    Yields (Kernel.applyTrigger dtype hidden cell last trigger : Host ρ Unit) state fun _ after =>
      state.heap.OnlyIn [hiddenName, cellName, lastName] after.heap ∧
        RowOf last after.heap lastName now ∧
          RowOf hidden after.heap hiddenName (if edge then old.cleared else old) ∧
            RowOf cell after.heap cellName (if edge then old'.cleared else old') := by
  simp only [List.nodup_cons, List.mem_cons, List.not_mem_nil, or_false, not_or] at distinct
  have bound : (1 : Nat) ≤ Nat.pow 2 63 := Nat.pow_pos Nat.two_pos
  unfold Kernel.applyTrigger
  refine (row_of_fills fills).bind ?_
  rintro trigger_vector _ ⟨rfl, trigger_row⟩
  obtain ⟨_, one, done₁, growing₁, reads₁⟩ := gives_constant (.i64 (Int64.ofNat 0)) state
  obtain ⟨found, now_reads⟩ := (trigger_row.grows growing₁).reaches (ρ := ρ) reads₁ (by omega)
    (by omega)
  obtain ⟨_, two, done₂, growing₂, reads₂⟩ := gives_constant (.i64 (Int64.ofNat 0)) one
  obtain ⟨found', before_reads⟩ :=
    ((last_row.grows growing₁).grows growing₂).reaches (ρ := ρ) reads₂ (by omega) (by omega)
  obtain ⟨_, three, done₃, growing₃, reads₃⟩ := gives_like before_reads 1.0
  obtain ⟨wasOn, four, done₄, growing₄, was_reads⟩ :=
    gives_equal (before_reads.mono growing₃) reads₃ (Literal.dtype_ofFloat ..)
  have now_reads := now_reads.mono (growing₂.trans (growing₃.trans growing₄))
  obtain ⟨_, five, done₅, growing₅, reads₅⟩ := gives_like now_reads 0.0
  obtain ⟨nowOff, six, done₆, growing₆, off_reads⟩ :=
    gives_equal (now_reads.mono growing₅) reads₅ (Literal.dtype_ofFloat ..)
  refine .behind done₁ (.behind found (.behind done₂ (.behind found' (.behind done₃ (.behind done₄
    (.behind done₅ (.behind done₆ (.behind rfl ?_))))))))
  have added := Heap.Grows.add six.heap (Storage.singleton (.zero dtype))
  have before_zero : state.heap.Grows six.heap := growing₁.trans (growing₂.trans
    (growing₃.trans (growing₄.trans (growing₅.trans growing₆))))
  have growing := before_zero.trans added
  refine Yields.bind (clearOn_yields (row.grows growing) (row'.grows growing)
    (typed.2.1.trans typed.1.symm) counts distinct.1.1
    (typed.1 ▸ reads_alone (.zero dtype) six.heap) (fun index => ⟨?_, ?_⟩) ((was_reads.mono (growing₅.trans growing₆)).mono added)
    (off_reads.mono added)) ?_
  · rintro same
    exact (row.fills.known.trans_le before_zero.next).ne (Place.host.inj same).1.symm
  · rintro same
    exact (row'.fills.known.trans_le before_zero.next).ne (Place.host.inj same).1.symm
  rintro _ seven ⟨only, row, row'⟩
  have trigger_kept := (trigger_row.grows growing).onlyIn only (by simp; omega)
  have last_kept := (last_row.grows growing).onlyIn only (by simp; omega)
  have now_reads : Reads seven.heap (item now.dtype triggerName 0) (now.item 0) :=
    reads_item trigger_kept.fills.row (trigger_kept.fills.cells 0 (by omega))
  refine (single_yields last_kept sized.1 sized.2 typed.2.2 now_reads).mono ?_
  rintro _ after ⟨spares, last_new⟩
  unfold Literal.falls at falling
  rw [falling] at row row'
  exact ⟨((Heap.OnlyIn.of_grows _ growing).trans (only.mono (by simp))).trans
    (.of_spares spares (by simp)), last_new, row.spared spares distinct.1.2.1,
    row'.spared spares distinct.2.1.1⟩

/-- What a step makes of its trigger, if it has one: what is kept for the next step, and whether
the states are cleared.  The trigger lives in a storage that is not among some. -/
inductive Triggers (names : List Nat) (heap : Heap) (before : Storage) :
    Option Value → Storage → Bool → Prop where
  | none : Triggers names heap before none before false
  | some {trigger : Value} {name : Nat} {sizes : List Nat} {now : Storage}
      (fills : trigger.Fills heap name sizes now) (apart : name ∉ names)
      (typed : now.dtype = before.dtype) (single : now.size = 1) :
      Triggers names heap before (some trigger) now ((before.item 0).falls (now.item 0))

/-- The memory of a cell, one storage after the other. -/
structure MemoryOf (heap : Heap) (memory : Kernel.LstmState) (name units : Nat)
    (hidden cell last : Storage) : Prop where
  hidden : memory.hidden.Fills heap name [units] hidden
  cell : memory.cell.Fills heap (name + 1) [units] cell
  trigger : memory.trigger.Fills heap (name + 2) [1] last

theorem Triggers.grows {names : List Nat} {heap after : Heap} {trigger? : Option Value}
    {edge : Bool} (triggers : Triggers names heap before trigger? now edge)
    (growing : heap.Grows after) : Triggers names after before trigger? now edge := by
  cases triggers with
  | none => exact .none
  | some fills apart typed single => exact .some (fills.grows growing) apart typed single

theorem MemoryOf.grows {heap after : Heap} {memory : Kernel.LstmState} {name units : Nat}
    (memory_of : MemoryOf heap memory name units old old' before) (growing : heap.Grows after) :
    MemoryOf after memory name units old old' before :=
  ⟨memory_of.hidden.grows growing, memory_of.cell.grows growing, memory_of.trigger.grows growing⟩

theorem followTrigger_yields {memory : Kernel.LstmState} {trigger? : Option Value} {name : Nat}
    {edge : Bool}
    (triggers : Triggers [name, name + 1, name + 2] state.heap before trigger? now edge)
    (row : RowOf hidden state.heap name old) (row' : RowOf cell state.heap (name + 1) old')
    (kept : memory.trigger.Fills state.heap (name + 2) [1] before)
    (typed : old.dtype = dtype ∧ old'.dtype = dtype)
    (counts : old.size ≤ Nat.pow 2 63 ∧ old'.size ≤ Nat.pow 2 63) :
    Yields (Kernel.followTrigger dtype memory hidden cell trigger? : Host ρ Unit) state
      fun _ after => state.heap.OnlyIn [name, name + 1, name + 2] after.heap ∧
        memory.trigger.Fills after.heap (name + 2) [1] now ∧
          RowOf hidden after.heap name (if edge then old.cleared else old) ∧
            RowOf cell after.heap (name + 1) (if edge then old'.cleared else old') := by
  cases triggers with
  | none => exact .of_done rfl ⟨.of_grows _ (.refl _), kept, row, row'⟩
  | some fills apart kind single =>
      have sized := kept.sized.trans (Layout.elementCount_single 1)
      simp only [List.mem_cons, List.not_mem_nil, or_false, not_or] at apart
      refine (vector_of_fills kept).bind ?_
      rintro last _ ⟨rfl, same, last_row⟩
      refine (applyTrigger_yields row row' last_row fills ⟨typed.1, typed.2, kind⟩ ⟨sized, single⟩
        counts (by simp; omega) rfl).mono fun _ after held => ⟨held.1, ?_, held.2.2⟩
      have whole := held.2.1.fills
      rw [same, single] at whole
      exact whole

end Trigger

/-! ### A step -/

section Step

variable {parameters : Kernel.LstmParameters} {weights : LstmWeights} {input output output' : Value}
  {x old old' new new' blank blank' : Storage} {hidden cell : Vector} {sizes : List Nat}
  {inputName hiddenName cellName outputName outputName' : Nat}

/-- The part of a step behind the trigger: the states are those of the next step, in the memory
and in the outputs. -/
theorem advance_yields {names : List Nat}
    (cell_of : CellOf names state.heap parameters weights dtype x.size)
    (float : dtype.isFloat = true) (counts : 4 * weights.hiddenUnits ≤ Nat.pow 2 63)
    (counts' : x.size ≤ Nat.pow 2 63) (fills : input.Fills state.heap inputName sizes x)
    (row : RowOf hidden state.heap hiddenName old) (row' : RowOf cell state.heap cellName old')
    (out : output.Fills state.heap outputName [weights.hiddenUnits] blank)
    (out' : output'.Fills state.heap outputName' [weights.hiddenUnits] blank')
    (typed : x.dtype = dtype ∧ old.dtype = dtype ∧ old'.dtype = dtype ∧ blank.dtype = dtype ∧
      blank'.dtype = dtype)
    (sized : old.size = weights.hiddenUnits ∧ old'.size = weights.hiddenUnits)
    (distinct : [hiddenName, cellName, outputName, outputName'].Nodup)
    (made : weights.advance dtype x old old' = .ok (new, new')) :
    Yields (do
      let x ← Kernel.row input
      let gates ← Kernel.gateSums parameters x hidden
      let hiddenOutput ← Kernel.vectorOf output
      let cellOutput ← Kernel.vectorOf output'
      Kernel.forRange 0 parameters.hiddenUnits 1
        (Kernel.stepUnit parameters gates hidden cell hiddenOutput cellOutput) : Host ρ Unit) state
      fun _ after => state.heap.OnlyIn [hiddenName, cellName, outputName, outputName'] after.heap ∧
        RowOf hidden after.heap hiddenName new ∧ RowOf cell after.heap cellName new' ∧
          output.Fills after.heap outputName [weights.hiddenUnits] new ∧
            output'.Fills after.heap outputName' [weights.hiddenUnits] new' := by
  obtain ⟨sums, summed, made⟩ := bind_eq_ok.mp made
  obtain ⟨_, cell_made, made⟩ := bind_eq_ok.mp made
  obtain ⟨_, hidden_made, made⟩ := bind_eq_ok.mp made
  cases made
  obtain ⟨sums_typed, sums_sized⟩ := LstmWeights.sums_ok summed
  have known₁ := row.fills.known
  have known₂ := row'.fills.known
  have known₃ := out.known
  have known₄ := out'.known
  refine (row_of_fills fills).bind ?_
  rintro x_vector _ ⟨rfl, x_row⟩
  refine (gateSums_yields cell_of x_row row float typed.1 typed.2.1 sized.1 counts' counts
    summed).bind ?_
  rintro gates middle ⟨growing, gates_row⟩
  refine (vector_of_fills (out.grows growing)).bind ?_
  rintro hiddenOutput _ ⟨rfl, rfl, out_row⟩
  refine (vector_of_fills (out'.grows growing)).bind ?_
  rintro cellOutput _ ⟨rfl, rfl, out_row'⟩
  let rows : StepRows :=
    { gates := ⟨gates, state.heap.next, sums⟩
      hidden := ⟨hidden, hiddenName, old⟩
      cell := ⟨cell, cellName, old'⟩
      hiddenOutput := ⟨hiddenOutput, outputName, blank⟩
      cellOutput := ⟨cellOutput, outputName', blank'⟩ }
  have stand : rows.Stand middle.heap dtype weights.hiddenUnits := by
    refine ⟨gates_row, sums_typed, sums_sized, ?_, List.nodup_cons.mpr ⟨?_, distinct⟩⟩
    · intro target member
      have one := (out.sized.trans (Layout.elementCount_single _))
      have two := (out'.sized.trans (Layout.elementCount_single _))
      simp only [StepRows.targets, List.mem_cons, List.not_mem_nil, or_false] at member
      rcases member with rfl | rfl | rfl | rfl
      · exact ⟨row.grows growing, typed.2.1, sized.1⟩
      · exact ⟨row'.grows growing, typed.2.2.1, sized.2⟩
      · exact ⟨out_row, typed.2.2.2.1, one⟩
      · exact ⟨out_row', typed.2.2.2.2, two⟩
    · simp only [rows, StepRows.targets, List.map_cons, List.map_nil, List.mem_cons,
        List.not_mem_nil, or_false]
      omega
  rw [cell_of.units]
  refine (units_yield stand cell_of.units cell_of.activation cell_of.recurrent float counts
    cell_made hidden_made).mono fun _ after advanced => ?_
  have whole {vector : Vector} {name : Nat} {data : Storage}
      (row : RowOf vector after.heap name data) (sized : data.size = weights.hiddenUnits) :
      vector.value.Fills after.heap name [weights.hiddenUnits] data := sized ▸ row.fills
  exact ⟨(Heap.OnlyIn.of_grows _ growing).trans advanced.only, advanced.hidden_memory,
    advanced.cell_memory, whole advanced.hidden_output (Storage.tabulate_ok hidden_made).2.1,
    whole advanced.cell_output (Storage.tabulate_ok cell_made).2.1⟩

/-- One step: the memory holds the new states, and so do the outputs. -/
theorem lstmStep_yields {memory : Kernel.LstmState} {trigger? : Option Value} {name : Nat}
    {before now : Storage} {edge : Bool}
    (cell_of : CellOf [name, name + 1, name + 2] state.heap parameters weights dtype x.size)
    (memory_of : MemoryOf state.heap memory name weights.hiddenUnits old old' before)
    (triggers : Triggers [name, name + 1, name + 2] state.heap before trigger? now edge)
    (fills : input.Fills state.heap inputName sizes x)
    (apart : inputName ∉ [name, name + 1, name + 2])
    (out : output.Fills state.heap outputName [weights.hiddenUnits] blank)
    (out' : output'.Fills state.heap outputName' [weights.hiddenUnits] blank')
    (distinct : [name, name + 1, name + 2, outputName, outputName'].Nodup)
    (typed : x.dtype = dtype ∧ old.dtype = dtype ∧ old'.dtype = dtype ∧ blank.dtype = dtype ∧
      blank'.dtype = dtype)
    (float : dtype.isFloat = true) (counts : 4 * weights.hiddenUnits ≤ Nat.pow 2 63)
    (counts' : x.size ≤ Nat.pow 2 63)
    (made : weights.advance dtype x (if edge then old.cleared else old)
      (if edge then old'.cleared else old') = .ok (new, new')) :
    Yields (Kernel.lstmStep parameters memory trigger? input output output' : Host ρ Unit) state
      fun _ after =>
        state.heap.OnlyIn [name, name + 1, name + 2, outputName, outputName'] after.heap ∧
          MemoryOf after.heap memory name weights.hiddenUnits new new' now ∧
            output.Fills after.heap outputName [weights.hiddenUnits] new ∧
              output'.Fills after.heap outputName' [weights.hiddenUnits] new' := by
  have sized := memory_of.hidden.sized.trans (Layout.elementCount_single _)
  have sized' := memory_of.cell.sized.trans (Layout.elementCount_single _)
  have matrix_typed : parameters.inputWeights.dtype = dtype := by
    obtain ⟨_, -, weights_fill⟩ := cell_of.inputWeights
    exact dtype_of_matrix weights_fill
  have cleared {edge : Bool} {data : Storage} :
      (if edge then data.cleared else data).dtype = data.dtype ∧
        (if edge then data.cleared else data).size = data.size := by
    split
    · exact ⟨rfl, Storage.size_zeros _ _⟩
    · exact ⟨rfl, rfl⟩
  refine (vector_of_fills memory_of.hidden).bind ?_
  rintro hidden _ ⟨rfl, same, row⟩
  refine (vector_of_fills memory_of.cell).bind ?_
  rintro cell _ ⟨rfl, same', row'⟩
  rw [matrix_typed]
  refine (followTrigger_yields triggers row row' memory_of.trigger ⟨typed.2.1, typed.2.2.1⟩
    (by omega)).bind ?_
  rintro _ middle ⟨only, trigger, row, row'⟩
  simp only [List.nodup_cons, List.mem_cons, List.not_mem_nil, or_false, not_or] at distinct
  refine (advance_yields (cell_of.onlyIn only) float counts counts' (fills.onlyIn only apart) row
    row' (out.onlyIn only (by simp; omega)) (out'.onlyIn only (by simp; omega))
    ⟨typed.1, cleared.1.trans typed.2.1, cleared.1.trans typed.2.2.1, typed.2.2.2⟩
    ⟨cleared.2.trans sized, cleared.2.trans sized'⟩ (by simp; omega) made).mono ?_
  rintro _ after ⟨only', row, row', output_fills, output_fills'⟩
  have first := row.fills
  have second := row'.fills
  rw [same, output_fills.sized, Layout.elementCount_single] at first
  rw [same', output_fills'.sized, Layout.elementCount_single] at second
  exact ⟨(only.mono (by simp)).trans (only'.mono (by simp)), ⟨first, second,
    trigger.onlyIn only' (by simp; omega)⟩, output_fills, output_fills'⟩

end Step

end Host
end TensorGraph

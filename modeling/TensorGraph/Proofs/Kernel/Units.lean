/-
Units of a cell.

The new states of a unit are written over the old ones and into the outputs, each
unit behind the last read of its old state.  The loop over the units keeps the
units that are still to come as they were.
-/

import TensorGraph.Proofs.Kernel.Gates

namespace TensorGraph

/-! ### Cells that are written one by one -/

/-- Some cells of storages that were there before hold what they were to hold, and all others
what they held before. -/
structure Heap.Patched (before heap : Heap) (goal : Nat → Nat → Literal)
    (done : Nat → Nat → Prop) : Prop where
  keeps : before.Keeps heap
  new : ∀ name < before.next, ∀ index, done name index →
    (heap.storage name).cells[index]? = some (goal name index)
  old : ∀ name < before.next, ∀ index, ¬ done name index →
    (heap.storage name).cells[index]? = (before.storage name).cells[index]?

namespace Heap.Patched

variable {before heap after : Heap} {goal : Nat → Nat → Literal} {done done' : Nat → Nat → Prop}
  {name index : Nat}

theorem start (heap : Heap) (goal : Nat → Nat → Literal) (none : ∀ name index, ¬ done name index) :
    heap.Patched heap goal done :=
  ⟨.refl heap, fun name _ index here => (none name index here).elim, fun _ _ _ _ => rfl⟩

theorem grows (patched : before.Patched heap goal done) (growing : heap.Grows after) :
    before.Patched after goal done where
  keeps := patched.keeps.trans (.of_grows growing)
  new := by
    intro name known
    rw [growing.kept name (known.trans_le patched.keeps.next)]
    exact patched.new name known
  old := by
    intro name known
    rw [growing.kept name (known.trans_le patched.keeps.next)]
    exact patched.old name known

/-- One more cell is written. -/
theorem write (patched : before.Patched heap goal done)
    (written : heap.Written after name index [(0, goal name index)])
    (same : ∀ other place, done' other place ↔ done other place ∨ other = name ∧ place = index) :
    before.Patched after goal done' where
  keeps := patched.keeps.trans written.keeps
  new := by
    intro other known place here
    by_cases this : other = name ∧ place = index
    · obtain ⟨rfl, rfl⟩ := this
      exact written.written _ List.mem_cons_self
    · have before' := ((same other place).mp here).resolve_right this
      rw [← patched.new other known place before']
      by_cases named : other = name
      · subst named
        exact written.beside place (by simpa using this)
      · rw [written.others other named]
  old := by
    intro other known place here
    have apart := not_or.mp (mt (same other place).mpr here)
    rw [← patched.old other known place apart.1]
    by_cases named : other = name
    · subst named
      exact written.beside place (by simpa using apart.2)
    · rw [written.others other named]

end Heap.Patched

namespace Host

variable {ρ : Type} {state : HostState ρ} {before heap : Heap} {goal : Nat → Nat → Literal}
  {done done' : Nat → Nat → Prop} {value : Value} {vector : Vector} {name size index : Nat}
  {dtype : DType} {data : Storage} {scalar : Scalar} {element : Literal}

theorem row_of_patched (patched : before.Patched heap goal done)
    (row : Row before value name dtype size) : Row heap value name dtype size where
  value := row.value
  known := row.known.trans_le patched.keeps.next
  dtype := (patched.keeps.dtype name row.known).trans row.dtype
  size := (patched.keeps.size name row.known).trans row.size

/-- An element of a row at an index. -/
theorem item_done (row : Row state.heap vector.value name dtype size) (sized : vector.size = size)
    (reads : Reads state.heap scalar (.i64 (Int64.ofNat index))) (below : index < size)
    (counts : size ≤ Nat.pow 2 63) :
    (vector.element scalar : Host ρ Scalar) state = .ok (item dtype name index) state :=
  (bind_of_ok (checkBelow_done (Scalar.at_of_reads reads (below.trans_le counts))
    (below.trans_eq sized.symm))).trans (element_row row reads below (below.trans_le counts))

/-- One more element of a row is written. -/
theorem assign_patches (patched : before.Patched state.heap goal done)
    (row : Row before value name dtype size) (below : index < size)
    (reads : Reads state.heap scalar (goal name index)) (typed : (goal name index).dtype = dtype)
    (same : ∀ other place, done' other place ↔ done other place ∨ other = name ∧ place = index) :
    Yields ((item dtype name index).assign scalar : Host ρ Unit) state fun _ after =>
      before.Patched after.heap goal done' ∧ state.heap.Spares name after.heap := by
  have here := row_of_patched patched row
  have kind := here.dtype
  subst kind
  refine (assign_written here.known (below.trans_eq here.size.symm) reads typed).mono
    fun _ after written => ⟨patched.write written same, written.keeps, ?_⟩
  exact fun other _ different => written.others other different

/-! ### The units -/

/-- A vector that is a whole storage. -/
structure Whole where
  vector : Vector
  name : Nat
  data : Storage

/-- What the units of a cell are computed of, and where they are written to. -/
structure StepRows where
  gates : Whole
  hidden : Whole
  cell : Whole
  hiddenOutput : Whole
  cellOutput : Whole

namespace StepRows

def targets (rows : StepRows) : List Whole :=
  [rows.hidden, rows.cell, rows.hiddenOutput, rows.cellOutput]

/-- The rows are whole storages, no two of them the same. -/
structure Stand (rows : StepRows) (heap : Heap) (dtype : DType) (units : Nat) : Prop where
  gates : RowOf rows.gates.vector heap rows.gates.name rows.gates.data
  gates_typed : rows.gates.data.dtype = dtype
  gates_sized : rows.gates.data.size = 4 * units
  targets : ∀ row ∈ rows.targets, RowOf row.vector heap row.name row.data ∧
    row.data.dtype = dtype ∧ row.data.size = units
  distinct : (rows.gates.name :: rows.targets.map Whole.name).Nodup

/-- What each target is to hold. -/
def wanted (rows : StepRows) (hidden cell : Storage) (name index : Nat) : Literal :=
  if name = rows.cell.name ∨ name = rows.cellOutput.name then cell.item index
  else hidden.item index

/-- The places of the first units in all targets. -/
def Written (rows : StepRows) (units name index : Nat) : Prop :=
  name ∈ rows.targets.map Whole.name ∧ index < units

variable {rows : StepRows} {heap : Heap} {dtype : DType} {units : Nat} {target : Whole}

theorem Stand.row (stand : rows.Stand heap dtype units) (member : target ∈ rows.targets) :
    Row heap target.vector.value target.name dtype units ∧ target.vector.size = units := by
  obtain ⟨row_of, typed, sized⟩ := stand.targets target member
  have here := row_of.fills.row
  rw [typed, sized] at here
  exact ⟨here, row_of.size.trans sized⟩

end StepRows

/-- The element of a gate for a unit. -/
theorem gate_gives {gates : Vector} {units unit number : Nat}
    (row : Row state.heap gates.value name dtype size) (sized : gates.size = size)
    (held : (state.heap.storage name).cells[unit + number * units]? = some element)
    (reads : Reads state.heap scalar (.i64 (Int64.ofNat unit)))
    (below : unit + number * units < size) (counts : size ≤ Nat.pow 2 63)
    {parameters : Kernel.LstmParameters} (same : parameters.hiddenUnits = units) :
    Gives (Kernel.gate parameters gates scalar number : Host ρ Scalar) state element := by
  unfold Kernel.gate
  rw [same]
  have start : Gives (Scalar.index (number * units) : Host ρ Scalar) state
      (.i64 (Int64.ofNat (number * units))) := gives_constant _ state
  refine start.bind fun offset one growing₁ reads₁ => ?_
  have sum : (Literal.i64 (Int64.ofNat unit)).binary .add (.i64 (Int64.ofNat (number * units))) =
      .ok (.i64 (Int64.ofNat (unit + number * units))) :=
    congrArg (fun total => Except.ok (Literal.i64 total)) (Int64.ofNat_add ..).symm
  refine (gives_binary (reads.mono growing₁) reads₁ rfl sum).bind
    fun place two growing₂ reads₂ => ?_
  have growing := growing₁.trans growing₂
  have row' : Row two.heap gates.value name dtype size := by
    have kept := growing.kept name row.known
    exact ⟨row.value, row.known.trans_le growing.next, kept ▸ row.dtype, kept ▸ row.size⟩
  refine ⟨_, two, item_done row' sized reads₂ below counts, .refl _, reads_item row' ?_⟩
  rw [growing.kept name row.known]
  exact held

/-- An activation function does what it does on elements. -/
theorem maps_of_image (ρ : Type) {function : ActivationFunction} {result : Literal}
    (float : element.dtype.isFloat = true) (done : function.image element = .ok result) :
    result.dtype = element.dtype ∧ Maps (ρ := ρ) function.apply element result := by
  obtain ⟨_, done', typed, maps⟩ := maps_image (ρ := ρ) function float
  cases done.symm.trans done'
  exact ⟨typed, maps⟩

section Unit

variable {parameters : Kernel.LstmParameters} {weights : LstmWeights} {units unit : Nat}
  {holds : Unit → HostState ρ → Prop}

/-- The elements of all four gates for a unit. -/
theorem gates_yield {gates : Vector} {rest : Scalar → Scalar → Scalar → Scalar → Host ρ Unit}
    (row : Row state.heap gates.value name dtype (4 * units)) (sized : gates.size = 4 * units)
    (same : parameters.hiddenUnits = units) (cells : Cells state.heap name (4 * units) data.item)
    (reads : Reads state.heap scalar (.i64 (Int64.ofNat unit))) (below : unit < units)
    (counts : 4 * units ≤ Nat.pow 2 63)
    (behind : ∀ a b c d (middle : HostState ρ), state.heap.Grows middle.heap →
      Reads middle.heap a (data.item (unit + 0 * units)) →
        Reads middle.heap b (data.item (unit + 1 * units)) →
          Reads middle.heap c (data.item (unit + 2 * units)) →
            Reads middle.heap d (data.item (unit + 3 * units)) →
              Yields (rest a b c d) middle holds) :
    Yields (do
      let a ← Kernel.gate parameters gates scalar 0
      let b ← Kernel.gate parameters gates scalar 1
      let c ← Kernel.gate parameters gates scalar 2
      let d ← Kernel.gate parameters gates scalar 3
      rest a b c d) state holds := by
  have each (number : Nat) (few : number < 4) (middle : HostState ρ)
      (growing : state.heap.Grows middle.heap) :
      Gives (Kernel.gate parameters gates scalar number : Host ρ Scalar) middle
        (data.item (unit + number * units)) := by
    have kept := growing.kept name row.known
    have inside : unit + number * units < 4 * units := by
      have := Nat.mul_le_mul_right units (Nat.le_of_lt_succ few)
      omega
    have row' : Row middle.heap gates.value name dtype (4 * units) :=
      ⟨row.value, row.known.trans_le growing.next, kept ▸ row.dtype, kept ▸ row.size⟩
    refine gate_gives row' sized ?_ (reads.mono growing) inside counts same
    rw [kept]
    exact cells _ inside
  obtain ⟨a, one, done₁, growing₁, reads₁⟩ := each 0 (by omega) state (.refl _)
  obtain ⟨b, two, done₂, growing₂, reads₂⟩ := each 1 (by omega) one growing₁
  have growing₁₂ := growing₁.trans growing₂
  obtain ⟨c, three, done₃, growing₃, reads₃⟩ := each 2 (by omega) two growing₁₂
  have growing₁₃ := growing₁₂.trans growing₃
  obtain ⟨d, four, done₄, growing₄, reads₄⟩ := each 3 (by omega) three growing₁₃
  refine .behind done₁ (.behind done₂ (.behind done₃ (.behind done₄ ?_)))
  exact behind a b c d four (growing₁₃.trans growing₄)
    (reads₁.mono (growing₂.trans (growing₃.trans growing₄))) (reads₂.mono (growing₃.trans growing₄))
    (reads₃.mono growing₄) reads₄

/-- The activations of all four gates. -/
theorem activations_yield {a b c d : Scalar}
    {rest : Scalar → Scalar → Scalar → Scalar → Host ρ Unit}
    {recurrent activation : ActivationFunction} {zi zf zg zo i f g o : Literal}
    (reads₁ : Reads state.heap a zi) (reads₂ : Reads state.heap b zf)
    (reads₃ : Reads state.heap c zg) (reads₄ : Reads state.heap d zo)
    (maps₁ : Maps (ρ := ρ) recurrent.apply zi i) (maps₂ : Maps (ρ := ρ) recurrent.apply zf f)
    (maps₃ : Maps (ρ := ρ) activation.apply zg g) (maps₄ : Maps (ρ := ρ) recurrent.apply zo o)
    (behind : ∀ a b c d (middle : HostState ρ), state.heap.Grows middle.heap →
      Reads middle.heap a i → Reads middle.heap b f → Reads middle.heap c g →
        Reads middle.heap d o → Yields (rest a b c d) middle holds) :
    Yields (do
      let a ← recurrent.apply a
      let b ← recurrent.apply b
      let c ← activation.apply c
      let d ← recurrent.apply d
      rest a b c d) state holds := by
  obtain ⟨_, one, done₁, growing₁, reads₁⟩ := maps₁ a state reads₁
  obtain ⟨_, two, done₂, growing₂, reads₂⟩ := maps₂ b one (reads₂.mono growing₁)
  have growing₁₂ := growing₁.trans growing₂
  obtain ⟨_, three, done₃, growing₃, reads₃⟩ := maps₃ c two (reads₃.mono growing₁₂)
  have growing₁₃ := growing₁₂.trans growing₃
  obtain ⟨_, four, done₄, growing₄, reads₄⟩ := maps₄ d three (reads₄.mono growing₁₃)
  refine .behind done₁ (.behind done₂ (.behind done₃ (.behind done₄ ?_)))
  exact behind _ _ _ _ four (growing₁₃.trans growing₄)
    (reads₁.mono (growing₂.trans (growing₃.trans growing₄))) (reads₂.mono (growing₃.trans growing₄))
    (reads₃.mono growing₄) reads₄

theorem dtype_of_binary {op : BinaryOp} {left right result : Literal}
    (float : left.dtype.isFloat = true) (typed : right.dtype = left.dtype)
    (done : left.binary op right = .ok result) : result.dtype = left.dtype := by
  obtain ⟨_, done', kind⟩ := Literal.float_binary op float typed
  cases done.symm.trans done'
  exact kind

/-- What the states of a unit are computed of, and what they are. -/
structure Computed (activation : ActivationFunction) (i f g o previous c h : Literal) : Prop where
  cell : (do
    let kept ← f.binary .mul previous
    let added ← i.binary .mul g
    kept.binary .add added) = .ok c
  hidden : (do
    let activated ← activation.image c
    o.binary .mul activated) = .ok h
  float : i.dtype.isFloat = true
  typed : f.dtype = i.dtype ∧ g.dtype = i.dtype ∧ o.dtype = i.dtype ∧ previous.dtype = i.dtype

/-- The new states of a unit, each in a storage of its own. -/
theorem states_yield {a b c d e : Scalar} {rest : Scalar → Scalar → Host ρ Unit}
    {activation : ActivationFunction} {i f g o previous new new' : Literal}
    (computed : Computed activation i f g o previous new new')
    (reads₁ : Reads state.heap a i) (reads₂ : Reads state.heap b f)
    (reads₃ : Reads state.heap c g) (reads₄ : Reads state.heap d o)
    (reads₅ : Reads state.heap e previous)
    (behind : ∀ (place place' : Nat) (middle : HostState ρ), state.heap.Grows middle.heap →
      state.heap.next ≤ place → state.heap.next ≤ place' →
        Reads middle.heap (alone new place) new → Reads middle.heap (alone new' place') new' →
          Yields (rest (alone new place) (alone new' place')) middle holds) :
    Yields (do
      let kept ← b.binary .mul e
      let added ← a.binary .mul c
      let cell ← kept.binary .add added
      let activated ← activation.apply cell
      let hidden ← d.binary .mul activated
      rest cell hidden) state holds := by
  obtain ⟨cell, hidden, float, typed₁, typed₂, typed₃, typed₄⟩ := computed
  obtain ⟨kept, mul, cell⟩ := bind_eq_ok.mp cell
  obtain ⟨added, mul', add⟩ := bind_eq_ok.mp cell
  obtain ⟨activated, image, mul''⟩ := bind_eq_ok.mp hidden
  have kind := dtype_of_binary (typed₁.symm ▸ float) (typed₄.trans typed₁.symm) mul
  have kind' := dtype_of_binary float typed₂ mul'
  have kept_typed := kind.trans typed₁
  have cell_typed := (dtype_of_binary (kept_typed.symm ▸ float) (kind'.trans kept_typed.symm)
    add).trans kept_typed
  obtain ⟨kind'', maps⟩ := maps_of_image ρ (cell_typed.symm ▸ float) image
  obtain ⟨_, one, done₁, growing₁, kept_reads⟩ :=
    gives_binary reads₂ reads₅ (typed₄.trans typed₁.symm) mul
  obtain ⟨_, two, done₂, growing₂, added_reads⟩ :=
    gives_binary (reads₁.mono growing₁) (reads₃.mono growing₁) typed₂ mul'
  have growing₁₂ := growing₁.trans growing₂
  have done₃ := binary_done (ρ := ρ) (kept_reads.mono growing₂) added_reads
    (kind'.trans kept_typed.symm) add
  have cell_reads := reads_alone new two.heap
  have growing₃ := Heap.Grows.add two.heap (Storage.singleton new)
  obtain ⟨_, four, done₄, growing₄, activated_reads⟩ := maps (alone new two.heap.next)
    (onto (counted two 1) (two.heap.add (Storage.singleton new))) cell_reads
  have growing := (growing₁₂.trans growing₃).trans growing₄
  have done₅ := binary_done (ρ := ρ) (reads₄.mono growing) activated_reads
    (kind''.trans (cell_typed.trans typed₃.symm)) mul''
  have growing₅ := Heap.Grows.add four.heap (Storage.singleton new')
  refine .behind done₁ (.behind done₂ (.behind done₃ (.behind done₄ (.behind done₅ ?_))))
  exact behind two.heap.next four.heap.next _ (growing.trans growing₅) growing₁₂.next growing.next
    (cell_reads.mono (growing₄.trans growing₅)) (reads_alone new' four.heap)

/-- One more element of a target is written, by a scalar in a storage of its own. -/
theorem target_yields {rows : StepRows} {row : Whole} {hidden cell : Storage} {place : Nat}
    (stand : rows.Stand before dtype units) (member : row ∈ rows.targets)
    (patched : before.Patched state.heap (rows.wanted hidden cell) done)
    (reads : Reads state.heap (alone element place) element)
    (wanted : rows.wanted hidden cell row.name unit = element) (typed : element.dtype = dtype)
    (below : unit < units)
    (same : ∀ other index, done' other index ↔ done other index ∨ other = row.name ∧ index = unit) :
    Yields ((item dtype row.name unit).assign (alone element place) : Host ρ Unit) state
      fun _ after => before.Patched after.heap (rows.wanted hidden cell) done' ∧
        ∀ number place, before.next ≤ place → Reads state.heap (alone number place) number →
          Reads after.heap (alone number place) number := by
  subst wanted
  have here := (stand.row member).1
  refine (assign_patches patched here below reads typed same).mono fun _ after held => ?_
  refine ⟨held.1, fun number place new reads' => reads'.spared held.2 fun index same => ?_⟩
  obtain ⟨rfl, -⟩ := Place.host.inj same
  exact absurd here.known (Nat.not_lt.mpr new)

theorem writes_yield {rows : StepRows} {hidden cell : Storage} {place place' counter : Nat}
    (stand : rows.Stand before dtype units) (counts : units ≤ Nat.pow 2 63) (below : unit < units)
    (patched : before.Patched state.heap (rows.wanted hidden cell) (rows.Written unit))
    (new : before.next ≤ place) (new' : before.next ≤ place') (counter_new : before.next ≤ counter)
    (counted : Reads state.heap (alone (.i64 (Int64.ofNat unit)) counter) (.i64 (Int64.ofNat unit)))
    (reads : Reads state.heap (alone (cell.item unit) place) (cell.item unit))
    (reads' : Reads state.heap (alone (hidden.item unit) place') (hidden.item unit))
    (typed : (cell.item unit).dtype = dtype) (typed' : (hidden.item unit).dtype = dtype) :
    Yields (do
      (item dtype rows.cell.name unit).assign (alone (cell.item unit) place)
      (← rows.hidden.vector.element (alone (.i64 (Int64.ofNat unit)) counter)).assign
        (alone (hidden.item unit) place')
      (← rows.cellOutput.vector.element (alone (.i64 (Int64.ofNat unit)) counter)).assign
        (alone (cell.item unit) place)
      (← rows.hiddenOutput.vector.element (alone (.i64 (Int64.ofNat unit)) counter)).assign
        (alone (hidden.item unit) place') : Host ρ Unit) state fun _ after =>
      before.Patched after.heap (rows.wanted hidden cell) (rows.Written (unit + 1)) := by
  have one : rows.cell ∈ rows.targets := by simp [StepRows.targets]
  have two : rows.hidden ∈ rows.targets := by simp [StepRows.targets]
  have three : rows.cellOutput ∈ rows.targets := by simp [StepRows.targets]
  have four : rows.hiddenOutput ∈ rows.targets := by simp [StepRows.targets]
  have distinct := stand.distinct
  simp only [StepRows.targets, List.map_cons, List.map_nil, List.nodup_cons, List.mem_cons,
    List.not_mem_nil, or_false, not_or] at distinct
  have cells : rows.wanted hidden cell rows.cell.name unit = cell.item unit := if_pos (.inl rfl)
  have cells' : rows.wanted hidden cell rows.cellOutput.name unit = cell.item unit :=
    if_pos (.inr rfl)
  have hiddens : rows.wanted hidden cell rows.hidden.name unit = hidden.item unit :=
    if_neg (by omega)
  have hiddens' : rows.wanted hidden cell rows.hiddenOutput.name unit = hidden.item unit :=
    if_neg (by omega)
  have found {row : Whole} (member : row ∈ rows.targets) {state : HostState ρ}
      {done : Nat → Nat → Prop}
      (patched : before.Patched state.heap (rows.wanted hidden cell) done)
      (counted : Reads state.heap (alone (.i64 (Int64.ofNat unit)) counter)
        (.i64 (Int64.ofNat unit))) :
      (row.vector.element (alone (.i64 (Int64.ofNat unit)) counter) : Host ρ Scalar) state =
        .ok (item dtype row.name unit) state := by
    obtain ⟨here, sized⟩ := stand.row member
    exact item_done (row_of_patched patched here) sized counted below counts
  refine (target_yields stand one patched reads cells typed below fun _ _ => Iff.rfl).bind ?_
  rintro _ first ⟨patched₁, kept₁⟩
  have counted₁ := kept₁ _ _ counter_new counted
  refine .behind (found two patched₁ counted₁) ?_
  refine (target_yields stand two patched₁ (kept₁ _ _ new' reads') hiddens typed' below
    fun _ _ => Iff.rfl).bind ?_
  rintro _ second ⟨patched₂, kept₂⟩
  have counted₂ := kept₂ _ _ counter_new counted₁
  refine .behind (found three patched₂ counted₂) ?_
  refine (target_yields stand three patched₂ (kept₂ _ _ new (kept₁ _ _ new reads)) cells' typed
    below fun _ _ => Iff.rfl).bind ?_
  rintro _ third ⟨patched₃, kept₃⟩
  refine .behind (found four patched₃ (kept₃ _ _ counter_new counted₂)) ?_
  refine (target_yields stand four patched₃
    (kept₃ _ _ new' (kept₂ _ _ new' (kept₁ _ _ new' reads'))) hiddens' typed' below ?_).mono
      fun _ after held => held.1
  intro other index
  simp only [StepRows.Written, StepRows.targets, List.map_cons, List.map_nil, List.mem_cons,
    List.not_mem_nil, or_false, Nat.lt_succ_iff_lt_or_eq]
  grind

/-- A unit that has new states has all that they are computed of. -/
theorem exists_parts (ρ : Type) {gates old hidden cell : Storage}
    (sized : gates.size = 4 * weights.hiddenUnits) (float : gates.dtype.isFloat = true)
    (typed : old.dtype = gates.dtype) (below : unit < weights.hiddenUnits)
    (within : unit < cell.size)
    (cell_done : weights.cellUnit gates old unit = .ok (cell.item unit))
    (hidden_done : weights.hiddenUnit gates cell unit = .ok (hidden.item unit)) :
    ∃ i f g o previous,
      Maps (ρ := ρ) weights.recurrent.apply (gates.item (unit + 0 * weights.hiddenUnits)) i ∧
      Maps (ρ := ρ) weights.recurrent.apply (gates.item (unit + 1 * weights.hiddenUnits)) f ∧
      Maps (ρ := ρ) weights.activation.apply (gates.item (unit + 2 * weights.hiddenUnits)) g ∧
      Maps (ρ := ρ) weights.recurrent.apply (gates.item (unit + 3 * weights.hiddenUnits)) o ∧
      old.get unit = .ok previous ∧
      Computed weights.activation i f g o previous (cell.item unit) (hidden.item unit) := by
  obtain ⟨zi, read₁, cell_done⟩ := bind_eq_ok.mp cell_done
  obtain ⟨i, image₁, cell_done⟩ := bind_eq_ok.mp cell_done
  obtain ⟨zf, read₂, cell_done⟩ := bind_eq_ok.mp cell_done
  obtain ⟨f, image₂, cell_done⟩ := bind_eq_ok.mp cell_done
  obtain ⟨zg, read₃, cell_done⟩ := bind_eq_ok.mp cell_done
  obtain ⟨g, image₃, cell_done⟩ := bind_eq_ok.mp cell_done
  obtain ⟨previous, read₄, cell_done⟩ := bind_eq_ok.mp cell_done
  obtain ⟨zo, read₅, hidden_done⟩ := bind_eq_ok.mp hidden_done
  obtain ⟨o, image₄, hidden_done⟩ := bind_eq_ok.mp hidden_done
  obtain ⟨new, read₆, hidden_done⟩ := bind_eq_ok.mp hidden_done
  obtain rfl := Except.ok.inj (read₆.symm.trans (Storage.get_item within))
  -- what was read of a gate is an element of it
  have part (number : Nat) (few : number < 4) {element : Literal}
      (read : weights.gate gates unit number = .ok element) :
      gates.item (unit + number * weights.hiddenUnits) = element := by
    have inside : unit + number * weights.hiddenUnits < gates.size := by
      have := Nat.mul_le_mul_right weights.hiddenUnits (Nat.le_of_lt_succ few)
      omega
    exact Except.ok.inj ((Storage.get_item inside).symm.trans read)
  have kind₁ := Storage.dtype_of_get read₁
  have kind₂ := Storage.dtype_of_get read₂
  have kind₃ := Storage.dtype_of_get read₃
  have kind₄ := Storage.dtype_of_get read₅
  obtain ⟨typed₁, maps₁⟩ := maps_of_image ρ (kind₁.symm ▸ float) image₁
  obtain ⟨typed₂, maps₂⟩ := maps_of_image ρ (kind₂.symm ▸ float) image₂
  obtain ⟨typed₃, maps₃⟩ := maps_of_image ρ (kind₃.symm ▸ float) image₃
  obtain ⟨typed₄, maps₄⟩ := maps_of_image ρ (kind₄.symm ▸ float) image₄
  have kind_i := typed₁.trans kind₁
  rw [part 0 (by omega) read₁, part 1 (by omega) read₂, part 2 (by omega) read₃,
    part 3 (by omega) read₅]
  exact ⟨i, f, g, o, previous, maps₁, maps₂, maps₃, maps₄, read₄, cell_done, hidden_done,
    kind_i.symm ▸ float, typed₂.trans (kind₂.trans kind_i.symm),
    typed₃.trans (kind₃.trans kind_i.symm), typed₄.trans (kind₄.trans kind_i.symm),
    (Storage.dtype_of_get read₄).trans (typed.trans kind_i.symm)⟩

/-- The states of a unit are written once they are computed. -/
theorem stepUnit_yields {rows : StepRows} {hidden cell : Storage} {counter : Nat}
    (stand : rows.Stand before dtype weights.hiddenUnits)
    (same : parameters.hiddenUnits = weights.hiddenUnits)
    (activation : parameters.activation = weights.activation)
    (recurrent : parameters.recurrent = weights.recurrent) (float : dtype.isFloat = true)
    (counts : 4 * weights.hiddenUnits ≤ Nat.pow 2 63) (below : unit < weights.hiddenUnits)
    (typed : cell.dtype = dtype ∧ hidden.dtype = dtype)
    (sized : cell.size = weights.hiddenUnits ∧ hidden.size = weights.hiddenUnits)
    (cell_done : weights.cellUnit rows.gates.data rows.cell.data unit = .ok (cell.item unit))
    (hidden_done : weights.hiddenUnit rows.gates.data cell unit = .ok (hidden.item unit))
    (patched : before.Patched state.heap (rows.wanted hidden cell) (rows.Written unit))
    (counter_new : before.next ≤ counter)
    (counted : Reads state.heap (alone (.i64 (Int64.ofNat unit)) counter)
      (.i64 (Int64.ofNat unit))) :
    Yields (Kernel.stepUnit parameters rows.gates.vector rows.hidden.vector rows.cell.vector
      rows.hiddenOutput.vector rows.cellOutput.vector
        (alone (.i64 (Int64.ofNat unit)) counter) : Host ρ Unit) state fun _ after =>
      before.Patched after.heap (rows.wanted hidden cell) (rows.Written (unit + 1)) := by
  have member : rows.cell ∈ rows.targets := by simp [StepRows.targets]
  obtain ⟨cell_row, cell_sized⟩ := stand.row member
  obtain ⟨cell_of, cell_typed, -⟩ := stand.targets rows.cell member
  obtain ⟨i, f, g, o, previous, maps₁, maps₂, maps₃, maps₄, read, computed⟩ :=
    exists_parts ρ stand.gates_sized (stand.gates_typed.symm ▸ float)
      (cell_typed.trans stand.gates_typed.symm) below (by omega) cell_done hidden_done
  have gates_row := stand.gates.fills.row
  have gates_apart := (List.nodup_cons.mp stand.distinct).1
  rw [stand.gates_typed, stand.gates_sized] at gates_row
  have gates_cells : Cells state.heap rows.gates.name (4 * weights.hiddenUnits)
      rows.gates.data.item := by
    intro index inside
    rw [patched.old _ gates_row.known _ fun written => gates_apart written.1]
    exact stand.gates.fills.cells index (inside.trans_eq stand.gates_sized.symm)
  unfold Kernel.stepUnit
  rw [activation, recurrent]
  refine gates_yield (row_of_patched patched gates_row) (stand.gates.size.trans stand.gates_sized)
    same gates_cells counted below counts
    fun a b c d one growing₁ reads₁ reads₂ reads₃ reads₄ => ?_
  refine activations_yield reads₁ reads₂ reads₃ reads₄ maps₁ maps₂ maps₃ maps₄
    fun a b c d two growing₂ reads₁ reads₂ reads₃ reads₄ => ?_
  -- the old state of the unit is not written yet
  have growing := growing₁.trans growing₂
  have patched₂ := patched.grows growing
  have cell_row₂ := row_of_patched patched₂ cell_row
  have old : (two.heap.storage rows.cell.name).cells[unit]? = some previous := by
    rw [patched₂.old _ cell_row.known unit fun written => (Nat.lt_irrefl unit) written.2,
      cell_of.fills.held]
    exact Storage.get_eq_ok.mp read
  refine .behind (item_done cell_row₂ cell_sized (counted.mono growing) below (by omega)) ?_
  refine states_yield computed reads₁ reads₂ reads₃ reads₄ (reads_item cell_row₂ old)
    fun place place' three growing₃ new new' reads reads' => ?_
  have first := patched₂.keeps.next
  exact writes_yield stand (by omega) below (patched₂.grows growing₃) (first.trans new)
    (first.trans new') counter_new (counted.mono (growing.trans growing₃)) reads reads'
    ((cell.dtype_item (by omega)).trans typed.1) ((hidden.dtype_item (by omega)).trans typed.2)

/-- What all units leave: the new states, in the memory and in the outputs. -/
structure Advanced (rows : StepRows) (hidden cell : Storage) (heap after : Heap) : Prop where
  only : heap.OnlyIn (rows.targets.map Whole.name) after
  hidden_memory : RowOf rows.hidden.vector after rows.hidden.name hidden
  cell_memory : RowOf rows.cell.vector after rows.cell.name cell
  hidden_output : RowOf rows.hiddenOutput.vector after rows.hiddenOutput.name hidden
  cell_output : RowOf rows.cellOutput.vector after rows.cellOutput.name cell

theorem advanced_of_patched {rows : StepRows} {hidden cell : Storage}
    (stand : rows.Stand before dtype units)
    (typed : cell.dtype = dtype ∧ hidden.dtype = dtype)
    (sized : cell.size = units ∧ hidden.size = units)
    (patched : before.Patched heap (rows.wanted hidden cell) (rows.Written units)) :
    Advanced rows hidden cell before heap := by
  have distinct := stand.distinct
  simp only [StepRows.targets, List.map_cons, List.map_nil, List.nodup_cons, List.mem_cons,
    List.not_mem_nil, or_false, not_or] at distinct
  have whole {target : Whole} (member : target ∈ rows.targets) {new : Storage}
      (typed : new.dtype = dtype) (sized : new.size = units)
      (wanted : ∀ index, rows.wanted hidden cell target.name index = new.item index) :
      RowOf target.vector heap target.name new := by
    obtain ⟨row_of, typed', sized'⟩ := stand.targets target member
    refine .of_fills (row_of.fills.become patched.keeps (typed.trans typed'.symm)
      (sized.trans sized'.symm) fun index below => ?_)
    have inside : index < new.size := by omega
    rw [Storage.get_item inside, ← wanted index, Storage.get_eq_ok]
    exact patched.new _ row_of.fills.known index
      ⟨List.mem_map_of_mem member, below.trans_eq sized'⟩
  have hiddens (index : Nat) :
      rows.wanted hidden cell rows.hidden.name index = hidden.item index := if_neg (by omega)
  have hiddens' (index : Nat) :
      rows.wanted hidden cell rows.hiddenOutput.name index = hidden.item index := if_neg (by omega)
  have cells (index : Nat) :
      rows.wanted hidden cell rows.cell.name index = cell.item index := if_pos (.inl rfl)
  have cells' (index : Nat) :
      rows.wanted hidden cell rows.cellOutput.name index = cell.item index := if_pos (.inr rfl)
  refine ⟨⟨patched.keeps, fun other known apart => ?_⟩,
    whole (by simp [StepRows.targets]) typed.2 sized.2 hiddens,
    whole (by simp [StepRows.targets]) typed.1 sized.1 cells,
    whole (by simp [StepRows.targets]) typed.2 sized.2 hiddens',
    whole (by simp [StepRows.targets]) typed.1 sized.1 cells'⟩
  refine Storage.ext_cells (patched.keeps.dtype other known) (Array.ext_getElem? fun index => ?_)
  exact patched.old other known index fun written => apart written.1

theorem units_yield {rows : StepRows} {hidden cell : Storage}
    (stand : rows.Stand state.heap dtype weights.hiddenUnits)
    (same : parameters.hiddenUnits = weights.hiddenUnits)
    (activation : parameters.activation = weights.activation)
    (recurrent : parameters.recurrent = weights.recurrent) (float : dtype.isFloat = true)
    (counts : 4 * weights.hiddenUnits ≤ Nat.pow 2 63)
    (cell_made : Storage.tabulate dtype weights.hiddenUnits
      (weights.cellUnit rows.gates.data rows.cell.data) = .ok cell)
    (hidden_made : Storage.tabulate dtype weights.hiddenUnits
      (weights.hiddenUnit rows.gates.data cell) = .ok hidden) :
    Yields (Host.forRange 0 weights.hiddenUnits 1 (Kernel.stepUnit parameters rows.gates.vector
      rows.hidden.vector rows.cell.vector rows.hiddenOutput.vector rows.cellOutput.vector) :
        Host ρ Unit) state fun _ after => Advanced rows hidden cell state.heap after.heap := by
  obtain ⟨typed, sized, cells⟩ := Storage.tabulate_ok cell_made
  obtain ⟨typed', sized', hiddens⟩ := Storage.tabulate_ok hidden_made
  let holds (unit : Nat) (heap : Heap) : Prop :=
    state.heap.Patched heap (rows.wanted hidden cell) (rows.Written unit)
  refine (@yields_turns _ _ _ _ holds ?_ ?_).mono fun _ after patched =>
    advanced_of_patched stand ⟨typed, typed'⟩ ⟨sized, sized'⟩ patched
  · intro unit below middle patched
    exact stepUnit_yields stand same activation recurrent float counts below ⟨typed, typed'⟩
      ⟨sized, sized'⟩ ((cells unit below).trans (Storage.get_item (below.trans_eq sized.symm)))
      ((hiddens unit below).trans (Storage.get_item (below.trans_eq sized'.symm)))
      (patched.grows (.add _ _)) patched.keeps.next (reads_alone _ middle.heap)
  · exact .start state.heap _ fun name index written => Nat.not_lt_zero index written.2

end Unit

end Host
end TensorGraph

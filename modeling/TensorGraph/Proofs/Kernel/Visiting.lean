/-
Visits of coordinates.

A loop over the coordinates of a layout runs its body once for each of them, in
row-major order, on indices that stand in storages of their own.  As long as the
body writes to one storage alone, the indices still name the coordinates when
they are read.
-/

import TensorGraph.Proofs.Kernel.Addressing

namespace TensorGraph

/-! ### Heaps of which one storage is written -/

/-- No storage but one is changed, and that one keeps its type and its size. -/
structure Heap.Spares (name : Nat) (heap after : Heap) : Prop where
  keeps : heap.Keeps after
  others : ∀ other < heap.next, other ≠ name → after.storage other = heap.storage other

namespace Heap.Spares

variable {name index : Nat} {heap middle after : Heap} {element : Literal}

theorem of_grows (growing : heap.Grows after) : Spares name heap after :=
  ⟨.of_grows growing, fun other known _ => growing.kept other known⟩

theorem refl (name : Nat) (heap : Heap) : Spares name heap heap :=
  .of_grows (.refl heap)

theorem trans (one : Spares name heap middle) (two : Spares name middle after) :
    Spares name heap after where
  keeps := one.keeps.trans two.keeps
  others := fun other known different =>
    (two.others other (known.trans_le one.keeps.next) different).trans
      (one.others other known different)

theorem of_setCell (done : Heap.setCell name index element heap = .ok () after) :
    Spares name heap after where
  keeps := by
    have keeps := KeepsStorages.setCell name index element heap
    rwa [done] at keeps
  others := by
    intro other _ different
    simp only [Heap.setCell, Heap.update] at done
    split at done
    · cases done
      exact storage_replace_of_ne different _
    · cases done

theorem of_written {base : Nat} {cells : List (Nat × Literal)}
    (written : heap.Written after name base cells) : Spares name heap after :=
  ⟨written.keeps, fun other _ different => written.others other different⟩

/-- Storages that were there before are as they were when only a new one is written. -/
theorem grown (spares : Spares name middle after) (growing : heap.Grows middle)
    (new : heap.next ≤ name) : heap.Grows after := by
  refine ⟨growing.next.trans spares.keeps.next, fun other known => ?_⟩
  rw [spares.others other (known.trans_le growing.next) (known.trans_le new).ne]
  exact growing.kept other known

end Heap.Spares

namespace Host

variable {ρ : Type} {name index : Nat} {heap later : Heap} {state middle after : HostState ρ}
  {body : List Scalar → Host ρ Unit} {scalars outer : List Scalar} {scalar : Scalar}
  {coordinates start : List Nat} {visited rest : List (List Nat)}

/-! ### Indices of loops -/

/-- The scalar stands for an index, in a storage of its own other than the one of the name. -/
def Counts (heap : Heap) (name : Nat) (scalar : Scalar) (index : Nat) : Prop :=
  ∃ place, place ≠ name ∧ place < heap.next ∧
    scalar = alone (.i64 (Int64.ofNat index)) place ∧
      (heap.storage place).cells[0]? = some (.i64 (Int64.ofNat index))

theorem Counts.reads (counts : Counts heap name scalar index) :
    Reads heap scalar (.i64 (Int64.ofNat index)) := by
  obtain ⟨place, -, known, rfl, held⟩ := counts
  exact ⟨rfl, rfl, place, 0, rfl, known, held⟩

theorem Counts.spared (counts : Counts heap name scalar index)
    (spares : heap.Spares name later) : Counts later name scalar index := by
  obtain ⟨place, different, known, same, held⟩ := counts
  refine ⟨place, different, known.trans_le spares.keeps.next, same, ?_⟩
  rw [spares.others place known different]
  exact held

theorem counts_of_index (known : name < state.heap.next)
    (made : (onHeap (Scalar.ofIndex index) : Host ρ Scalar) state = .ok scalar after) :
    state.heap.Grows after.heap ∧ Counts after.heap name scalar index := by
  cases made
  refine ⟨.add _ _, state.heap.next, known.ne', ?_, rfl, ?_⟩
  · change _ < (state.heap.add _).next
    rw [Heap.next_add]
    exact Nat.lt_succ_self _
  · change ((state.heap.add _).storage state.heap.next).cells[0]? = _
    rw [Heap.storage_add_self]
    rfl

/-- Indices that are positions are the positions that they stand for. -/
theorem named_of_counts (counts : List.Forall₂ (Counts heap name) scalars coordinates)
    (below : ∀ coordinate ∈ coordinates, coordinate < Nat.pow 2 63) :
    List.Forall₂ (Scalar.At heap) scalars coordinates := by
  induction counts with
  | nil => exact .nil
  | cons here _ inductionHypothesis =>
      obtain ⟨first, others⟩ := List.forall_mem_cons.mp below
      exact .cons (Scalar.at_of_reads here.reads first) (inductionHypothesis others)

theorem below_of_named {positions : List Nat}
    (counts : List.Forall₂ (Counts state.heap name) scalars coordinates)
    (named : List.Forall₂ (Scalar.At state.heap) scalars positions)
    (words : ∀ coordinate ∈ coordinates, coordinate < Nat.pow 2 64) :
    ∀ coordinate ∈ coordinates, coordinate < Nat.pow 2 63 := by
  induction counts generalizing positions with
  | nil => simp
  | cons here _ inductionHypothesis =>
      obtain ⟨first, others⟩ := List.forall_mem_cons.mp words
      cases named with
      | cons there rest =>
          exact List.forall_mem_cons.mpr
            ⟨counts_of_at here.reads there first, inductionHypothesis rest others⟩

/-! ### Runs of a body -/

/-- The body was run once for each of the coordinates, one after the other. -/
inductive Ran (name : Nat) (body : List Scalar → Host ρ Unit) :
    List (List Nat) → HostState ρ → HostState ρ → Prop where
  | nil {state after : HostState ρ} (growing : state.heap.Grows after.heap) :
      Ran name body [] state after
  | cons {state entered next after : HostState ρ} {scalars : List Scalar}
      {coordinates : List Nat} {rest : List (List Nat)}
      (growing : state.heap.Grows entered.heap)
      (counts : List.Forall₂ (Counts entered.heap name) scalars coordinates)
      (done : body scalars entered = .ok () next) (others : Ran name body rest next after) :
      Ran name body (coordinates :: rest) state after

namespace Ran

theorem grown (growing : state.heap.Grows middle.heap) (ran : Ran name body visited middle after) :
    Ran name body visited state after := by
  cases ran with
  | nil growing' => exact .nil (growing.trans growing')
  | cons growing' counts done others => exact .cons (growing.trans growing') counts done others

theorem append (one : Ran name body visited state middle) (two : Ran name body rest middle after) :
    Ran name body (visited ++ rest) state after := by
  induction one with
  | nil growing => exact two.grown growing
  | cons growing counts done _ inductionHypothesis =>
      exact .cons growing counts done (inductionHypothesis two)

theorem mem (ran : Ran name body visited state after) (member : coordinates ∈ visited) :
    ∃ (entered next : HostState ρ) (scalars : List Scalar),
      List.Forall₂ (Counts entered.heap name) scalars coordinates ∧
        body scalars entered = .ok () next := by
  induction ran with
  | nil => cases member
  | @cons _ entered next _ scalars _ _ _ counts done _ inductionHypothesis =>
      rcases List.mem_cons.mp member with rfl | member
      · exact ⟨entered, next, scalars, counts, done⟩
      · exact inductionHypothesis member

end Ran

/-- What every run of the body leaves alone. -/
def Sparing (name : Nat) (body : List Scalar → Host ρ Unit) : Prop :=
  ∀ scalars state after, body scalars state = .ok () after → state.heap.Spares name after.heap

theorem ran_of_runOver {turn : Scalar → Host ρ Unit} {block : Nat → List (List Nat)}
    (known : name < state.heap.next)
    (each : ∀ scalar index (entered next : HostState ρ), state.heap.Spares name entered.heap →
      Counts entered.heap name scalar index → turn scalar entered = .ok () next →
        Ran name body (block index) entered next ∧ entered.heap.Spares name next.heap)
    {indices : List Nat} (done : runOver turn indices state = .ok () after) :
    Ran name body (indices.flatMap block) state after ∧ state.heap.Spares name after.heap := by
  -- the turns so far have spared what the first turn met
  have run : ∀ indices (middle : HostState ρ), state.heap.Spares name middle.heap →
      runOver turn indices middle = .ok () after →
        Ran name body (indices.flatMap block) middle after ∧
          middle.heap.Spares name after.heap := by
    intro indices
    induction indices with
    | nil =>
        intro middle _ done
        obtain ⟨-, rfl⟩ := pure_ok.mp done
        exact ⟨.nil (.refl _), .refl _ _⟩
    | cons index indices inductionHypothesis =>
        intro middle spares done
        obtain ⟨scalar, entered, made, done⟩ := bind_ok.mp done
        obtain ⟨_, next, first, others⟩ := bind_ok.mp done
        obtain ⟨growing, counts⟩ :=
          counts_of_index (known.trans_le spares.keeps.next) made
        have entering := spares.trans (.of_grows growing)
        obtain ⟨one, spares'⟩ := each scalar index entered next entering counts first
        obtain ⟨two, spares''⟩ := inductionHypothesis next (entering.trans spares') others
        exact ⟨(one.append two).grown growing,
          (Heap.Spares.of_grows growing).trans (spares'.trans spares'')⟩
  exact run indices state (.refl _ _) done

/-- Nested loops run their body for all coordinates, in row-major order. -/
theorem ran_of_visit (sparing : Sparing name body) {sizes : List Nat}
    (known : name < state.heap.next) (counts : List.Forall₂ (Counts state.heap name) outer start)
    (done : (Kernel.visit sizes outer body : Host ρ Unit) state = .ok () after) :
    Ran name body ((Layout.rowMajor sizes).map (start ++ ·)) state after ∧
      state.heap.Spares name after.heap := by
  induction sizes generalizing outer start state after with
  | nil =>
      rw [Layout.rowMajor, List.map_singleton, List.append_nil]
      exact ⟨.cons (.refl _) counts done (.nil (.refl _)), sparing _ _ _ done⟩
  | cons size inner inductionHypothesis =>
      change Host.forRange 0 size 1 (fun index => Kernel.visit inner (outer ++ [index]) body)
        state = _ at done
      unfold Host.forRange at done
      rw [if_neg Nat.one_ne_zero, indices_one, ← List.range_eq_range'] at done
      have blocks : (Layout.rowMajor (size :: inner)).map (start ++ ·) =
          (List.range size).flatMap fun index =>
            (Layout.rowMajor inner).map ((start ++ [index]) ++ ·) := by
        rw [Layout.rowMajor, List.map_flatMap]
        refine congrArg (List.flatMap · _) (funext fun index => ?_)
        rw [List.map_map]
        refine List.map_congr_left fun rest _ => ?_
        rw [Function.comp_apply, List.append_assoc, List.singleton_append]
      rw [blocks]
      refine ran_of_runOver known (fun scalar index entered next spares here turn => ?_) done
      have extended : List.Forall₂ (Counts entered.heap name) (outer ++ [scalar])
          (start ++ [index]) :=
        List.rel_append (counts.imp fun _ _ old => old.spared spares) (.cons here .nil)
      exact inductionHypothesis (known.trans_le spares.keeps.next) extended turn

/-- A loop over a layout meets all its coordinates. -/
theorem ran_of_forEach {layout : Layout} (sparing : Sparing name body)
    (known : name < state.heap.next)
    (done : (Kernel.forEach layout body : Host ρ Unit) state = .ok () after) :
    Ran name body (Layout.rowMajor layout.logicalSizes) state after := by
  have ran := (ran_of_visit sparing known .nil done).1
  rwa [show (fun rest : List Nat => [] ++ rest) = id from rfl, List.map_id] at ran

/-- A loop whose body reads its indices only meets coordinates that a machine counts to. -/
theorem Ran.coordinates_below {sizes : List Nat} (ran : Ran name body (Layout.rowMajor sizes) state after)
    (reading : ∀ scalars (state after : HostState ρ), body scalars state = .ok () after →
      ∃ positions, List.Forall₂ (Scalar.At state.heap) scalars positions)
    (member : coordinates ∈ Layout.rowMajor sizes) :
    ∀ coordinate ∈ coordinates, coordinate < Nat.pow 2 63 := by
  -- the body has run at the first number that is too large as well
  let least := coordinates.map (min · (Nat.pow 2 63))
  have inside := Layout.mem_rowMajor.mp member
  have met : least ∈ Layout.rowMajor sizes := by
    refine Layout.mem_rowMajor.mpr (List.forall₂_map_left_iff.mpr (inside.imp ?_))
    exact fun coordinate size below => (Nat.min_le_left _ _).trans_lt below
  obtain ⟨entered, next, scalars, counts, done⟩ := ran.mem met
  obtain ⟨positions, named⟩ := reading scalars entered next done
  have words : ∀ coordinate ∈ least, coordinate < Nat.pow 2 64 := by
    refine List.forall_mem_map.mpr fun coordinate _ => ?_
    exact (Nat.min_le_right _ _).trans_lt (by decide)
  intro coordinate member
  have small := below_of_named counts named words _ (List.mem_map_of_mem member)
  exact (min_lt_iff.mp small).resolve_right (lt_irrefl _)

end Host
end TensorGraph

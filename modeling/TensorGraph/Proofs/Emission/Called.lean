/-
Calls of emitted code.

When the code has realized a host run, its call comes to an end, the buffers are
copied back as the host has them, and the globals rest with what the host holds.
When arithmetic stops the host, it stops the call as well, and the globals rest
with what the host held by then.
-/

import TensorGraph.Proofs.Emission.Entered
import TensorGraph.Proofs.Optimize.Calls

namespace TensorGraph

open Code FunctionBuilder Machine
open Optimize (CallBreaks)

/-! ### Copying back -/

/-- Buffers are copied back as the storages whose images stand in memory. -/
theorem copyBack_images {memory : Memory} {next : Nat} {buffers results : List Storage}
    (shapes : List.Forall₂ (fun buffer result : Storage => result.dtype = buffer.dtype) buffers results)
    (there : ∀ (position : Nat) (result : Storage), results[position]? = some result →
      memory.allocations[next + position]? = some result.image) :
    Engine.copyBack memory next (buffers.map Argument.buffer) =
      .ok () (results.map Argument.buffer) := by
  induction shapes generalizing next with
  | nil => rfl
  | @cons buffer result buffers results typed _ ih =>
      have first := there 0 result rfl
      have here : memory.allocations.getD next #[] = result.image := by
        rw [Array.getD_eq_getD_getElem?, ← Nat.add_zero next, first]
        rfl
      have read : Storage.ofBytes buffer.dtype (memory.allocations.getD next #[]).toList =
          .ok result := by
        rw [here, ← typed]
        exact Storage.ofBytes_bytes result
      have rest := @ih (next + 1) (by
        intro position result' found
        rw [Nat.add_assoc, Nat.add_comm 1]
        exact there (position + 1) result' found)
      rw [List.map_cons, List.map_cons, Engine.copyBack, read]
      simp only [rest]

/-! ### The end of a function -/

namespace Stage

variable {stage : Stage} {state : State}

/-- A machine that has done all that the function holds returns. -/
theorem Follows.returns (follows : stage.Follows stage.builder state) :
    Returns state state.released := by
  obtain ⟨block, found, here, done⟩ := follows.reached
  have final := getElem?_finished stage.formed.numbered stage.builder.current
  rw [found, Option.map_some, if_pos rfl] at final
  have same : state.frame.block = _ := Option.some.inj (here.symm.trans final)
  rw [same] at done
  have waiting : state.frame.pending = [] := by
    simpa using done.symm
  refine ⟨?_, follows.alone, rfl⟩
  rw [Frame.position, waiting, same]

end Stage

namespace EmissionState.Placed

variable {σ : Type} {state : EmissionState σ} {engine : Engine} {held buffers : List Storage}
  {name callee : String} (placed : state.Placed engine.module)

/-- What a call shows at its end is what the engine rests with. -/
theorem rests_of_shows (rests : state.Rests engine.module held engine.memory) {heap : Heap}
    {shown memory : Memory}
    (shows : (placed.callStage buffers).Shows ((placed.callStage buffers).entry held buffers) heap
      shown)
    (kept : ∀ allocation < engine.module.globals.length,
      memory.allocations[allocation]? = shown.allocations[allocation]?)
    (sizes : Engine.globalSizes engine.module <+: memory.sizes) :
    state.Rests engine.module (heap.row 0 held.length)
      (memory.release engine.module.globals.length) where
  sizes := Engine.sizes_release_globals sizes
  constants := by
    intro index global found fixed
    have below := (List.getElem?_eq_some_iff.mp found).1
    rw [getElem?_release, if_pos below, kept index below]
    exact shows.constants index global found fixed
  states := by
    intro name global index member there
    obtain ⟨storage, found, -⟩ := rests.states name global index member there
    have below := (List.getElem?_eq_some_iff.mp found).1
    have linked : ((placed.callStage buffers).entry held buffers).linked name index :=
      .inl ⟨below, global, member, there⟩
    obtain ⟨index', found', there', at', -⟩ := placed.exists_global member
    cases there.symm.trans there'
    have below' := (List.getElem?_eq_some_iff.mp at').1
    have known : ((placed.callStage buffers).entry held buffers).known name = _ :=
      Stage.entry_known (Stage.getElem?_held found)
    refine ⟨heap.storage name, by rw [Heap.getElem?_row below, Nat.zero_add], ?_⟩
    rw [getElem?_release, if_pos below', kept index below']
    exact shows.changing name _ _ index known linked

variable (rests : state.Rests engine.module held engine.memory)
  (small : state.Addressable engine.module buffers) {heap : Heap} {hint : LoopHint} {scratch : σ}
  (covers : (FunctionBuilder.taking callee buffers).Grows state.builder)
  (named : engine.module.function? name = some state.builder.finished)
  (visible : state.builder.finished.exported = true) {host : Host Unit Unit}
  (realized : Realized (seedsBelow held.length) ((placed.callStage buffers).entry held buffers) host
    (EmissionState.start heap (FunctionBuilder.taking callee buffers) hint scratch) () state
    fun _ _ _ => True)
include rests small covers named visible realized

/-- When the host comes to its end, so does the call, with the buffers as the host has them. -/
theorem call_ends {after : HostState Unit}
    (done : host ⟨Heap.empty.addAll (held ++ buffers), 0, ()⟩ = .ok () after) :
    ∃ start final, Prepared engine name (buffers.map Argument.buffer) start ∧
      Ends engine.module start final ∧
      Engine.copyBack final.memory engine.memory.size (buffers.map Argument.buffer) =
        .ok () ((after.heap.row held.length buffers.length).map Argument.buffer) ∧
      state.Rests engine.module (after.heap.row 0 held.length)
        (final.memory.release engine.module.globals.length) := by
  obtain ⟨start, next, prepared, reaches, agreed⟩ :=
    placed.entered rests small heap hint scratch covers named visible
  have covered : (placed.callStage buffers).Covers state :=
    ⟨.refl _, fun _ member => member⟩
  obtain ⟨later, last, growing, -, -, leads⟩ := realized.runs (placed.callStage buffers) covered
    (placed.entry_seeded _) ⟨_, 0, ()⟩ next agreed () after done
  have returns := leads.runs.follows.returns
  have lasting := (prepared.lasting.reaches reaches).reaches leads.runs.reaches
  have shows := leads.agrees.shows.earlier growing
  -- What a return releases is behind the globals and the buffers.
  have counted : (engine.memory.sizes ++
      (buffers.map Argument.buffer).filterMap Argument.imageSize?).length =
        callFloor engine buffers := by
    have mapped : (buffers.map Argument.buffer).filterMap Argument.imageSize? =
        buffers.map fun buffer => buffer.bytes.length := by
      rw [List.filterMap_map]
      exact congrFun List.filterMap_eq_map buffers
    rw [List.length_append, Memory.length_sizes, rests.size, mapped, List.length_map]
  have floor : callFloor engine buffers ≤ last.frame.floor :=
    counted ▸ lasting.above.floors last.frame List.mem_cons_self
  have kept : ∀ allocation < callFloor engine buffers,
      last.released.memory.allocations[allocation]? = last.memory.allocations[allocation]? := by
    intro allocation below
    rw [State.released, getElem?_release, if_pos (Nat.lt_of_lt_of_le below floor)]
  refine ⟨start, last.released, prepared, ⟨last, reaches.trans leads.runs.reaches, returns⟩, ?_, ?_⟩
  · have known : ∀ position < buffers.length, ∃ buffer, buffers[position]? = some buffer ∧
        ((placed.callStage buffers).entry held buffers).known (held.length + position) =
          some (.shaped buffer.dtype buffer.size) := fun position below =>
      ⟨_, List.getElem?_eq_getElem below,
        Stage.entry_known (Stage.getElem?_buffers (List.getElem?_eq_getElem below))⟩
    refine copyBack_images (List.forall₂_iff_get.mpr ⟨by simp [Heap.row], ?_⟩) ?_
    · intro position below below'
      obtain ⟨buffer, found, known⟩ := known position below
      have describes := leads.agrees.known _ _ (growing.known _ _ known)
      rw [List.getElem?_eq_getElem below] at found
      cases found
      simpa [Heap.row] using describes.1
    · intro position result found
      have below : position < buffers.length := by
        have below := (List.getElem?_eq_some_iff.mp found).1
        rwa [Heap.row, List.length_map, List.length_range] at below
      rw [Heap.getElem?_row below] at found
      cases found
      obtain ⟨buffer, -, known⟩ := known position below
      have linked : ((placed.callStage buffers).entry held buffers).linked
          (held.length + position) (engine.module.globals.length + position) :=
        .inr ⟨position, below, rfl, rfl⟩
      rw [rests.size, kept _ (Nat.add_lt_add_left below _)]
      exact shows.changing _ _ _ _ known linked
  · refine placed.rests_of_shows rests shows (fun allocation below =>
      kept allocation (Nat.lt_of_lt_of_le below (Nat.le_add_right _ _))) ?_
    rw [← rests.sizes]
    exact (List.prefix_append _ _).trans lasting.released

/-- When arithmetic stops the host, it stops the call, and the globals rest with what the host
holds by then. -/
theorem call_breaks {cause : Error} {after : HostState Unit}
    (failed : host ⟨Heap.empty.addAll (held ++ buffers), 0, ()⟩ = .error (.error cause) after)
    (arithmetic : cause.isArithmetic = true) :
    ∃ start final, Prepared engine name (buffers.map Argument.buffer) start ∧
      Breaks engine.module start cause final ∧
      state.Rests engine.module (after.heap.row 0 held.length)
        (final.memory.release engine.module.globals.length) := by
  obtain ⟨start, next, prepared, reaches, agreed⟩ :=
    placed.entered rests small heap hint scratch covers named visible
  have covered : (placed.callStage buffers).Covers state :=
    ⟨.refl _, fun _ member => member⟩
  obtain ⟨final, broken, shows⟩ := realized.breaks (placed.callStage buffers) covered
    (placed.entry_seeded _) ⟨_, 0, ()⟩ next agreed cause after failed arithmetic
  have broken' := Breaks.of_reaches reaches broken
  refine ⟨start, final, prepared, broken', ?_⟩
  refine placed.rests_of_shows rests shows (fun _ _ => rfl) ?_
  obtain ⟨last, instruction, rest, target, pointer, reaches', -, -, -, -, rfl⟩ := broken'
  have lasting := prepared.lasting.reaches reaches'
  rw [← rests.sizes]
  exact (List.prefix_append _ _).trans lasting.kept

end EmissionState.Placed
end TensorGraph

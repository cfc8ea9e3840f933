/-
Loops and branches of the code.

A loop of the code takes the turns that the host takes: the counter is compared,
the body is run, and the counter moves on.  At each test everything is as before
the loop, apart from the counter and from what the body changed in memory; what
the body made known is forgotten.  A branch runs the answer that the host takes.
-/

import TensorGraph.Proofs.Emission.Control
import TensorGraph.Proofs.Emission.Primitives
import TensorGraph.Proofs.Kernel.Correspondence

namespace TensorGraph

open Code FunctionBuilder Machine
open Optimize (targets)

namespace Stage

variable {stage : Stage} {builder after : FunctionBuilder} {state next last : State}

/-! ### From block to block -/

/-- The machine goes on, and keeps the registers below `size` and those that the function set
up. -/
structure Onward (stage : Stage) (size : Nat) (state next : State) : Prop where
  reaches : Reaches stage.module state next
  kept : ∀ register, register < size ∨ register ∈ targets stage.builder.prologue →
    next.frame.registers[register]? = state.frame.registers[register]?
  room : next.frame.registers.size = state.frame.registers.size

namespace Onward

variable {size : Nat}

theorem trans (one : stage.Onward size state next) (two : stage.Onward size next last) :
    stage.Onward size state last :=
  ⟨one.reaches.trans two.reaches,
    fun register known => (two.kept register known).trans (one.kept register known),
    two.room.trans one.room⟩

theorem of_runs (runs : stage.Runs builder after state next) (within : size ≤ builder.size) :
    stage.Onward size state next :=
  ⟨runs.reaches, fun register known =>
    runs.kept register (known.imp (fun below => Nat.lt_of_lt_of_le below within) id), runs.room⟩

theorem runs (onward : stage.Onward builder.size state next) (follows : stage.Follows after next) :
    stage.Runs builder after state next :=
  ⟨onward.reaches, follows, onward.kept, onward.room⟩

/-- Registers that were not touched. -/
theorem of_registers (reaches : Reaches stage.module state next)
    (same : next.frame.registers = state.frame.registers) : stage.Onward size state next :=
  ⟨reaches, fun _ _ => congrArg (·[_]?) same, congrArg Array.size same⟩

theorem has (onward : stage.Onward size state next) {register : Register} {slot : Slot}
    (has : state.frame.Has register slot)
    (known : register < size ∨ register ∈ targets stage.builder.prologue) :
    next.frame.Has register slot :=
  (onward.kept register known).trans has

end Onward

/-- Straight code at the beginning of a block keeps what the prologue set up. -/
theorem onward_of_performs (covers : builder.Grows stage.builder) {id : BlockId} {block : Block}
    (found : builder.blockAt id = some block) {code rest : List Instruction}
    (inside : ∀ target ∈ targets code, target ∈ targets block.instructions) {size : Nat}
    (above : ∀ target ∈ targets code, size ≤ target)
    (performs : Performs stage.module code rest state next) : stage.Onward size state next := by
  refine ⟨performs.reaches, ?_, performs.room⟩
  rintro register (below | prepared)
  · exact performs.kept register fun defined => Nat.not_lt.mpr (above register defined) below
  · refine performs.kept register fun defined => ?_
    exact not_prologue_of_block covers found (inside register defined) prepared

/-- The machine jumps to the beginning of a block. -/
theorem jumps (function : state.frame.function = stage.function) (alone : state.callers = [])
    {target : BlockId} (position : state.frame.position = ⟨[], some (.jump target)⟩)
    {final : Block} (known : Frame.blockOf? stage.function target = some final) :
    Moves stage.module state (state.goto final) ∧ stage.Stands target (state.goto final) := by
  refine ⟨.jump target final position ?_, stands_goto known function alone⟩
  rw [function]
  exact known

/-- The machine branches to the beginning of a block. -/
theorem branches (function : state.frame.function = stage.function) (alone : state.callers = [])
    {test : Operand} {onTrue onFalse : BlockId} {hint? : Option LoopHint}
    (position : state.frame.position = ⟨[], some (.branch test onTrue onFalse hint?)⟩)
    {answer : Literal} (decided : state.frame.element test = .ok answer) {final : Block}
    (known : Frame.blockOf? stage.function (if answer.isTrue then onTrue else onFalse) =
      some final) :
    Moves stage.module state (state.goto final) ∧
      stage.Stands (if answer.isTrue then onTrue else onFalse) (state.goto final) := by
  refine ⟨.branch test onTrue onFalse hint? answer final position decided ?_,
    stands_goto known function alone⟩
  rw [function]
  exact known

end Stage

/-! ### The blocks of a loop -/

namespace EmissionState

variable {σ : Type} (before inner : EmissionState σ)

/-- The registers of the loop are behind those before it. -/
theorem size_looping (label : String) (first limit : Int64) :
    (before.looping label first limit).builder.size = before.builder.size + 3 := by
  rw [builder_looping, FunctionBuilder.size, types_loopOpened]
  simp only [Array.size_push, FunctionBuilder.size]

theorem size_looped (step : Int64) :
    (before.looped inner step).builder.size = inner.builder.size + 2 := by
  simp [looped, loopClosed, loopStored, loopNext, loopCounted, loopBack]

theorem pointee_looping (label : String) (first limit : Int64) :
    (before.looping label first limit).builder.pointeeType before.builder.size = .ok .i64 := by
  rw [builder_looping]
  exact Building.pointeeType_ok.mpr counter_loopOpened

end EmissionState

/-- A loop of the emission, and a function that goes on from it. -/
structure Stage.Loops {σ : Type} (stage : Stage) (before inner : EmissionState σ) (label : String)
    (first limit step : Int64) : Prop where
  sound : before.Sound
  opening : Steps before.builder (before.looping label first limit).builder
  grows : (before.looping label first limit).Grows inner
  closing : Steps inner.builder (before.looped inner step).builder
  covers : (before.looped inner step).builder.Grows stage.builder

namespace Stage.Loops

variable {σ : Type} {stage : Stage} {before inner : EmissionState σ} {label : String}
  {first limit step : Int64} (loops : stage.Loops before inner label first limit step)

include loops

theorem begun : (before.looping label first limit).Sound :=
  loops.sound.looping loops.opening

theorem covers_inner : inner.builder.Grows stage.builder :=
  (Steps.grows loops.closing loops.grows.sound.builder).trans loops.covers

theorem covers_looping : (before.looping label first limit).builder.Grows stage.builder :=
  (loops.grows.builder loops.begun).trans loops.covers_inner

theorem size_inner : before.builder.size + 3 ≤ inner.builder.size := by
  rw [← before.size_looping label first limit]
  exact (loops.grows.builder loops.begun).size_le

theorem size_stage : inner.builder.size + 2 ≤ stage.builder.size := by
  rw [← before.size_looped inner step]
  exact loops.covers.size_le

/-- The memory of the counter. -/
theorem member : .alloca before.builder.size .i64 1 ∈ stage.builder.prologue := by
  obtain ⟨more, prologue, _⟩ := loops.covers_looping.prologue
  rw [prologue, EmissionState.builder_looping]
  exact List.mem_append_left _ (List.mem_append_right before.builder.prologue
    (List.mem_singleton.mpr rfl))

/-- The body ends in a block of its own. -/
theorem current_inner : inner.builder.current = before.builder.nextBlock + 2 ∨
    before.builder.nextBlock + 5 ≤ inner.builder.current := by
  have current := loops.grows.balanced.current
  rwa [EmissionState.builder_looping] at current

/-- The block that led into the loop. -/
theorem blockAt_current {block : Block}
    (found : before.builder.blockAt before.builder.current = some block) :
    (before.looping label first limit).builder.blockAt before.builder.current =
      some { block with terminator? := some (.jump before.builder.nextBlock) } := by
  have numbered := loops.sound.builder.numbered
  have below : (before.builder.current : Nat) < before.builder.nextBlock :=
    numbered.current_lt loops.sound.opened
  rw [EmissionState.builder_looping, blockAt_loopOpened numbered loops.sound.opened,
    if_neg (Nat.ne_of_lt (Nat.lt_succ_of_lt below)), blockAt_loopStart numbered loops.sound.opened,
    if_neg (Nat.ne_of_lt below), if_pos rfl, found]
  rfl

/-- The block that sets the counter up. -/
theorem blockAt_init :
    (before.looping label first limit).builder.blockAt before.builder.nextBlock =
      some
        { id := before.builder.nextBlock
          label := label ++ ".init"
          instructions := [.store before.builder.size (.constant (.i64 first))]
          terminator? := some (.jump (before.builder.nextBlock + 1)) } := by
  rw [EmissionState.builder_looping,
    blockAt_loopOpened loops.sound.builder.numbered loops.sound.opened,
    if_neg (Nat.ne_of_lt (Nat.lt_succ_self _)),
    blockAt_loopStart loops.sound.builder.numbered loops.sound.opened, if_pos rfl]

/-- The block that compares the counter. -/
theorem blockAt_test :
    (before.looping label first limit).builder.blockAt (before.builder.nextBlock + 1) =
      some
        { id := before.builder.nextBlock + 1
          label := label ++ ".cond"
          instructions :=
            [.load (before.builder.size + 1) before.builder.size,
             .compare (before.builder.size + 2) .lt (.register (before.builder.size + 1))
              (.constant (.i64 limit))]
          terminator? := some (.branch (.register (before.builder.size + 2))
            (before.builder.nextBlock + 2) (before.builder.nextBlock + 4) before.hint?) } := by
  rw [EmissionState.builder_looping,
    blockAt_loopOpened loops.sound.builder.numbered loops.sound.opened, if_pos rfl]

/-- The blocks that are empty when the body begins. -/
theorem blockAt_empty {more : Nat} (among : more = 2 ∨ more = 3 ∨ more = 4) :
    ∃ text, (before.looping label first limit).builder.blockAt (before.builder.nextBlock + more) =
      some (Block.empty (before.builder.nextBlock + more) text) := by
  rw [EmissionState.builder_looping]
  exact blockAt_loopOpened_empty label _ _ _ loops.sound.builder.numbered loops.sound.opened among

/-- The body leaves the last two blocks of the loop empty. -/
theorem blockAt_inner {more : Nat} (among : more = 3 ∨ more = 4) :
    ∃ text, inner.builder.blockAt (before.builder.nextBlock + more) =
      some (Block.empty (before.builder.nextBlock + more) text) := by
  obtain ⟨text, empty⟩ := loops.blockAt_empty (.inr among)
  refine ⟨text, (loops.grows.balanced.others (before.builder.nextBlock + more) ?_ ?_).trans empty⟩
  · rw [EmissionState.builder_looping]
    change before.builder.nextBlock + more < before.builder.nextBlock + 5
    omega
  · rw [EmissionState.builder_looping]
    change before.builder.nextBlock + more ≠ before.builder.nextBlock + 2
    omega

theorem apart {more : Nat} (among : more = 3 ∨ more = 4) :
    before.builder.nextBlock + more ≠ inner.builder.current := by
  have current := loops.current_inner
  intro same
  rw [← same] at current
  change before.builder.nextBlock + more = before.builder.nextBlock + 2 ∨
    before.builder.nextBlock + 5 ≤ before.builder.nextBlock + more at current
  omega

private theorem blockAt_looped (id : Nat) :
    (before.looped inner step).builder.blockAt id =
      if id = before.builder.nextBlock + 3 then
        (inner.builder.blockAt id).map fun block =>
          { block with
            instructions := block.instructions ++
              [.load inner.builder.size before.builder.size,
               .binary (inner.builder.size + 1) .add (.register inner.builder.size)
                (.constant (.i64 step)),
               .store before.builder.size (.register (inner.builder.size + 1))]
            terminator? := some (.jump (before.builder.nextBlock + 1)) }
      else if id = inner.builder.current then
        (inner.builder.blockAt id).map fun block =>
          { block with terminator? := some (.jump (before.builder.nextBlock + 3)) }
      else inner.builder.blockAt id :=
  blockAt_loopClosed loops.grows.sound.builder.numbered (Ne.symm (loops.apart (.inl rfl))) _ _ id

/-- The block where the body ends. -/
theorem blockAt_last {block : Block}
    (found : inner.builder.blockAt inner.builder.current = some block) :
    (before.looped inner step).builder.blockAt inner.builder.current =
      some { block with terminator? := some (.jump (before.builder.nextBlock + 3)) } := by
  rw [loops.blockAt_looped, if_neg (Ne.symm (loops.apart (.inl rfl))), if_pos rfl, found]
  rfl

/-- The block where the counter moves on. -/
theorem blockAt_increment :
    ∃ text, (before.looped inner step).builder.blockAt (before.builder.nextBlock + 3) =
      some
        { id := before.builder.nextBlock + 3
          label := text
          instructions :=
            [.load inner.builder.size before.builder.size,
             .binary (inner.builder.size + 1) .add (.register inner.builder.size)
              (.constant (.i64 step)),
             .store before.builder.size (.register (inner.builder.size + 1))]
          terminator? := some (.jump (before.builder.nextBlock + 1)) } := by
  obtain ⟨text, empty⟩ := loops.blockAt_inner (.inl rfl)
  refine ⟨text, ?_⟩
  rw [loops.blockAt_looped, if_pos rfl, empty]
  rfl

/-- The block behind the loop. -/
theorem blockAt_behind :
    ∃ text, (before.looped inner step).builder.blockAt (before.builder.nextBlock + 4) =
      some (Block.empty (before.builder.nextBlock + 4) text) := by
  obtain ⟨text, empty⟩ := loops.blockAt_inner (.inr rfl)
  refine ⟨text, ?_⟩
  have other : before.builder.nextBlock + 4 ≠ before.builder.nextBlock + 3 :=
    Nat.ne_of_gt (Nat.lt_succ_self _)
  rw [loops.blockAt_looped, if_neg other, if_neg (loops.apart (.inr rfl)), empty]

end Stage.Loops

/-! ### From test to test -/

theorem describes_fixed (data : Storage) : (Knowledge.fixed data).Describes data :=
  rfl

namespace Stage

variable {σ : Type} {stage : Stage} {world later : World} {seeds : Nat → Option Nat}
  {before inner : EmissionState σ} {label : String} {first limit step index : Int64}
  {heap heap' : Heap} {machine next last : State}

/-- The machine has come to the test of the loop with the counter at `index`. -/
structure Turning (stage : Stage) (world : World) (before : EmissionState σ) (size : Nat)
    (heap : Heap) (index : Int64) (machine next : State) : Prop where
  onward : stage.Onward before.builder.size machine next
  stands : stage.Stands (before.builder.nextBlock + 1) next
  untouched : stage.Untouched size machine.memory next.memory
  agrees : stage.Agrees world before.builder.size heap next.frame.registers next.memory
  counter : next.memory.allocations[stage.place before.builder.size]? =
    some (Storage.singleton (.i64 index)).image

/-- The counter is stored, and the machine goes on to the test. -/
theorem Loops.arrives (loops : stage.Loops before inner label first limit step)
    (function : next.frame.function = stage.function) (alone : next.callers = [])
    {value : Operand} (waiting : next.frame.pending = [.store before.builder.size value])
    (closed : next.frame.block.terminator? = some (.jump (before.builder.nextBlock + 1)))
    (read : next.frame.element value = .ok (.i64 index))
    (onward : stage.Onward before.builder.size machine next)
    (untouched : stage.Untouched (before.looped inner step).builder.size machine.memory next.memory)
    (agrees : stage.Agrees world before.builder.size heap next.frame.registers next.memory) :
    ∃ last, stage.Turning world before (before.looped inner step).builder.size heap index
      machine last := by
  obtain ⟨has, image, found, large⟩ := agrees.holds.slots _ _ _ loops.member
  have whole : (Literal.i64 index).bytes.length = image.size := large.symm
  obtain ⟨test, known⟩ := exists_block loops.covers_looping loops.blockAt_test
  let stored := (next.fetched []).after (next.memory.put ⟨stage.place before.builder.size, 0⟩
    (Literal.i64 index).bytes, none)
  have moved : Moves stage.module next stored :=
    .effect _ [] _ waiting rfl (effect_store has read (check_whole found whole))
  have same : stored.frame.function = stage.function := function
  have ended : stored.frame.position = ⟨[], some (.jump (before.builder.nextBlock + 1))⟩ :=
    congrArg _ closed
  obtain ⟨jumped, stands⟩ := jumps same alone ended known
  have below : before.builder.size < (before.looped inner step).builder.size := by
    rw [EmissionState.size_looped]
    exact Nat.lt_of_lt_of_le (Nat.lt_add_of_pos_right (by decide))
      (Nat.le_add_right_of_le loops.size_inner)
  refine ⟨_, ?_, stands, ?_, ?_, ?_⟩
  · exact onward.trans (.of_registers (.tail (.single moved) jumped) rfl)
  · exact untouched.trans (untouched_slot below loops.member _ _) (Nat.le_refl _)
  · exact agrees.put_aside (agrees.slot_free loops.member) (slot_away loops.member) _
  · rw [Storage.image, Storage.bytes_singleton]
    exact getElem?_put_whole found whole

/-- The counter is set up. -/
theorem Loops.begins (loops : stage.Loops before inner label first limit step)
    (holds : stage.Matches world before heap machine) :
    ∃ next, stage.Turning world before (before.looped inner step).builder.size heap first
      machine next := by
  have other : before.builder.nextBlock ≠ 0 :=
    Nat.ne_of_gt (Nat.lt_of_le_of_lt (Nat.zero_le _)
      (loops.sound.builder.numbered.current_lt loops.sound.opened))
  have ended := holds.follows.ended loops.covers_looping fun block => loops.blockAt_current
  obtain ⟨init, known⟩ := exists_block loops.covers_looping loops.blockAt_init
  obtain ⟨jumped, stands⟩ := jumps holds.follows.function holds.follows.alone ended known
  obtain ⟨waiting, closed⟩ := stands.closed loops.covers_looping other loops.blockAt_init rfl
  exact loops.arrives stands.function stands.alone waiting closed rfl
    (.of_registers (.single jumped) rfl) (.refl _ _) holds.agrees

/-- The counter is loaded. -/
theorem Loops.loads (loops : stage.Loops before inner label first limit step)
    (function : next.frame.function = stage.function)
    (holds : stage.Holds next.frame.registers next.memory)
    (counter : next.memory.allocations[stage.place before.builder.size]? =
      some (Storage.singleton (.i64 index)).image) (target : Register) :
    effect stage.module next.memory next.frame (.load target before.builder.size) =
      .ok (next.memory, some (target, .element (.i64 index))) := by
  refine effect_load (holds.slots _ _ _ loops.member).1
    (pointee_of_function function loops.covers_looping (before.pointee_looping label first limit)) ?_
  have read := read_whole counter
  rwa [Storage.bytes_singleton] at read

theorem compare_i64 (first second : Int64) :
    (Literal.i64 first).compare .lt (.i64 second) = .ok (decide (first < second)) := by
  have answer : (Literal.i64 first).compare .lt (.i64 second) =
      .ok (compareOfLessAndEq first second == .lt) := rfl
  rw [answer, compareOfLessAndEq]
  by_cases less : first < second
  · simp [less]
  · by_cases same : first = second <;> simp [less, same]

/-- The counter is compared. -/
theorem Loops.tests (loops : stage.Loops before inner label first limit step) {size : Nat}
    (turning : stage.Turning world before size heap index machine next) :
    ∃ last, stage.Onward before.builder.size next last ∧
      stage.Stands (if index < limit then before.builder.nextBlock + 2 else
        before.builder.nextBlock + 4) last ∧ last.memory = next.memory := by
  have stands := turning.stands
  have holds := turning.agrees.holds
  have small : before.builder.size + 2 < next.frame.registers.size := by
    rw [holds.size]
    exact Nat.lt_of_lt_of_le (Nat.lt_of_succ_le loops.size_inner)
      (Nat.le_of_add_right_le loops.size_stage)
  obtain ⟨waiting, closed⟩ := stands.closed loops.covers_looping (Nat.succ_ne_zero _)
    loops.blockAt_test rfl
  obtain ⟨middle, loaded, has⟩ := Performs.defining waiting rfl rfl (Nat.lt_of_succ_lt small)
    (loops.loads stands.function holds turning.counter _)
  obtain ⟨last, compared, has'⟩ := Performs.defining loaded.pending rfl rfl
    (by rw [loaded.room]; exact small)
    (effect_compare (Frame.element_ok.mpr has) rfl (compare_i64 index limit))
  have ran := loaded.trans compared
  have onward : stage.Onward before.builder.size next last := by
    refine onward_of_performs loops.covers_looping loops.blockAt_test (fun _ => id) ?_ ran
    intro target defined
    have among : target = before.builder.size + 1 ∨ target = before.builder.size + 2 := by
      simpa [targets, Instruction.target?] using defined
    rcases among with rfl | rfl <;> exact Nat.le_add_right _ _
  have ended : last.frame.position = ⟨[], some (.branch (.register (before.builder.size + 2))
      (before.builder.nextBlock + 2) (before.builder.nextBlock + 4) before.hint?)⟩ := by
    rw [Frame.position, ran.pending, ran.block, closed]
  obtain ⟨text, body⟩ := loops.blockAt_empty (.inl rfl)
  obtain ⟨text', behind⟩ := loops.blockAt_empty (.inr (.inr rfl))
  have known : ∃ final, Frame.blockOf? stage.function (if (Literal.bool (index < limit)).isTrue
      then before.builder.nextBlock + 2 else before.builder.nextBlock + 4) = some final := by
    split
    · exact exists_block loops.covers_looping body
    · exact exists_block loops.covers_looping behind
  obtain ⟨final, known⟩ := known
  obtain ⟨branched, stands'⟩ := branches (ran.function.trans stands.function)
    (ran.callers.trans stands.alone) ended (Frame.element_ok.mpr has') known
  refine ⟨last.goto final, onward.trans (.of_registers (.single branched) rfl), ?_, ran.memory⟩
  simpa only [Literal.isTrue, decide_eq_true_eq] using stands'

/-- When the limit is reached the machine goes on behind the loop. -/
theorem Loops.leaves (loops : stage.Loops before inner label first limit step)
    (below : ∀ register target, world.pointers register target → register < before.builder.size)
    (turning : stage.Turning world before (before.looped inner step).builder.size heap index
      machine next) (reached : ¬ index < limit) :
    ∃ last, stage.Leads world before (before.looped inner step) heap machine last := by
  obtain ⟨last, onward, stands, memory⟩ := loops.tests turning
  rw [if_neg reached] at stands
  obtain ⟨text, empty⟩ := loops.blockAt_behind
  have follows : stage.Follows (before.looped inner step).builder last :=
    stands.follows loops.covers (Nat.succ_ne_zero _) empty
  refine ⟨last, (turning.onward.trans onward).runs follows, ?_, ?_⟩
  · rw [memory]
    exact turning.untouched
  · rw [memory]
    refine turning.agrees.defining ?_ onward.room below onward.kept
    rw [EmissionState.size_looped]
    exact Nat.le_add_right_of_le (Nat.le_of_add_right_le loops.size_inner)

/-- Until then the machine takes a turn, with the index that the host made. -/
theorem Loops.enters (loops : stage.Loops before inner label first limit step)
    (below : ∀ register target, world.pointers register target → register < before.builder.size)
    {size : Nat} (turning : stage.Turning world before size heap index machine next)
    (left : index < limit) (fresh : world.next ≤ heap.next) :
    ∃ last, stage.Onward before.builder.size next last ∧ last.memory = next.memory ∧
      stage.Matches (world.held heap.next fresh (.fixed (Storage.singleton (.i64 index)))
        (stage.place before.builder.size) before.builder.size)
        (before.looping label first limit) (heap.add (Storage.singleton (.i64 index))) last := by
  obtain ⟨last, onward, stands, memory⟩ := loops.tests turning
  rw [if_pos left] at stands
  obtain ⟨text, empty⟩ := loops.blockAt_empty (.inl rfl)
  refine ⟨last, onward, memory, ?_, ?_, ?_⟩
  · have current : (before.looping label first limit).builder.current =
        before.builder.nextBlock + 2 := by
      rw [EmissionState.builder_looping]
      rfl
    rw [← current] at stands empty
    exact stands.follows loops.covers_looping (current ▸ Nat.succ_ne_zero _) empty
  · have held := turning.agrees.held fresh (describes_fixed (Storage.singleton (.i64 index)))
      loops.member turning.counter
    rw [memory]
    refine held.settled ?_ below loops.member onward.room onward.kept
    rw [EmissionState.size_looping]
    exact Nat.add_le_add_left (by decide) _
  · intro outside
    simp only [EmissionState.looping] at outside
    cases outside

/-- Behind the body the counter moves on, and what the body made known is forgotten. -/
theorem Loops.turns (loops : stage.Loops before inner label first limit step)
    (below : ∀ register target, world.pointers register target → register < before.builder.size)
    (turning : stage.Turning world before (before.looped inner step).builder.size heap index
      machine next) {middle : State} (onward : stage.Onward before.builder.size next middle)
    (memory : middle.memory = next.memory) {fresh : world.next ≤ heap.next}
    (growing : (world.held heap.next fresh (.fixed (Storage.singleton (.i64 index)))
      (stage.place before.builder.size) before.builder.size).Later later)
    (leads : stage.Leads later (before.looping label first limit) inner heap' middle last) :
    ∃ final, stage.Turning world before (before.looped inner step).builder.size heap'
      (index + step) machine final := by
  have grown : world.Later later := (World.later_held fresh _ _ _).trans growing
  have narrowed : stage.Agrees world before.builder.size heap' last.frame.registers last.memory :=
    leads.agrees.narrow grown turning.agrees.born
  have counter : last.memory.allocations[stage.place before.builder.size]? =
      some (Storage.singleton (.i64 index)).image := by
    have known : heap'.storage heap.next = Storage.singleton (.i64 index) :=
      leads.agrees.known heap.next _ (growing.known _ _ (World.known_held fresh _ _ _))
    rw [← known]
    exact leads.agrees.linked heap.next _ (growing.linked _ _ (.inl ⟨rfl, rfl⟩))
  have wider : inner.builder.size ≤ (before.looped inner step).builder.size := by
    rw [EmissionState.size_looped]
    exact Nat.le_add_right _ 2
  have untouched : stage.Untouched (before.looped inner step).builder.size machine.memory
      last.memory := by
    have body := leads.untouched
    rw [memory] at body
    exact turning.untouched.trans (body.trans (.refl _ _) wider) (Nat.le_refl _)
  -- The body ends, and the counter is loaded and added to.
  have ended := leads.runs.follows.ended loops.covers fun block => loops.blockAt_last
  obtain ⟨text, increment⟩ := loops.blockAt_increment
  obtain ⟨final, known⟩ := exists_block loops.covers increment
  obtain ⟨jumped, stands⟩ := jumps leads.runs.follows.function leads.runs.follows.alone ended known
  obtain ⟨waiting, closed⟩ := stands.closed loops.covers (Nat.succ_ne_zero _) increment rfl
  have small : inner.builder.size + 1 < (last.goto final).frame.registers.size := by
    have room : last.frame.registers.size = stage.builder.size := narrowed.holds.size
    exact Nat.lt_of_lt_of_le (Nat.lt_succ_self _) (room ▸ loops.size_stage)
  obtain ⟨loaded, ran, has⟩ := Performs.defining waiting rfl rfl (Nat.lt_of_succ_lt small)
    (loops.loads stands.function narrowed.holds counter _)
  obtain ⟨added, ran', has'⟩ := Performs.defining ran.pending rfl rfl
    (by rw [ran.room]; exact small)
    (effect_binary (Frame.element_ok.mpr has) rfl (Emission.add_i64 index step))
  have performed := ran.trans ran'
  have kept : stage.Onward before.builder.size (last.goto final) added := by
    refine onward_of_performs loops.covers increment ?_ ?_ performed
    · intro target defined
      simpa [targets, Instruction.target?] using defined
    · intro target defined
      have among : target = inner.builder.size ∨ target = inner.builder.size + 1 := by
        simpa [targets, Instruction.target?] using defined
      have earlier := loops.size_inner
      rcases among with rfl | rfl
      · exact Nat.le_of_add_right_le earlier
      · exact Nat.le_add_right_of_le (Nat.le_of_add_right_le earlier)
  have agrees : stage.Agrees world before.builder.size heap' added.frame.registers added.memory := by
    rw [performed.memory]
    exact narrowed.defining (Nat.le_refl _) kept.room below kept.kept
  have back : stage.Onward before.builder.size machine added := by
    have body : stage.Onward before.builder.size middle last := by
      refine .of_runs leads.runs ?_
      rw [EmissionState.size_looping]
      exact Nat.le_add_right _ 3
    exact ((turning.onward.trans onward).trans body).trans
      (Onward.trans (.of_registers (.single jumped) rfl) kept)
  refine loops.arrives (performed.function.trans stands.function)
    (performed.callers.trans stands.alone) performed.pending ?_ (Frame.element_ok.mpr has') back ?_
    agrees
  · rw [performed.block]
    exact closed
  · rw [performed.memory]
    exact untouched

end Stage

/-! ### The turns of the host -/

section Counting

variable {start stop step : Nat}

theorem turns_reached (positive : step ≠ 0) (reached : stop ≤ start) :
    (stop - start + (step - 1)) / step = 0 := by
  rw [Nat.sub_eq_zero_of_le reached, Nat.zero_add]
  exact Nat.div_eq_of_lt (by omega)

theorem turns_left (positive : step ≠ 0) (left : start < stop) :
    (stop - start + (step - 1)) / step = (stop - (start + step) + (step - 1)) / step + 1 := by
  by_cases whole : start + step ≤ stop
  · rw [← Nat.add_div_right _ (Nat.pos_of_ne_zero positive)]
    congr 1
    omega
  · rw [turns_reached positive (Nat.le_of_not_le whole)]
    exact Nat.div_eq_of_lt_le (by omega) (by omega)

theorem lt_iff_ofNat_lt (small : start < 2 ^ 63) (small' : stop < 2 ^ 63) :
    Int64.ofNat start < Int64.ofNat stop ↔ start < stop := by
  rw [Int64.lt_iff_toInt_lt, Int64.toInt_ofNat_of_lt small, Int64.toInt_ofNat_of_lt small']
  exact Int.ofNat_lt

end Counting

namespace Host

variable {ρ : Type}

theorem indices_eq (start stop step : Nat) :
    indices start stop step = List.range' start ((stop - start + (step - 1)) / step) step := by
  refine List.ext_getElem (by simp [indices]) fun turn _ _ => ?_
  simp [indices, Nat.mul_comm]

/-- A turn of the host is one with a new scalar. -/
theorem runOver_cons (body : Scalar → Host ρ Unit) (index : Nat) (rest : List Nat)
    (state : HostState ρ) :
    runOver body (index :: rest) state =
      (do body (item .i64 state.heap.next 0); runOver body rest)
        (onto state (state.heap.add (Storage.singleton (.i64 (Int64.ofNat index))))) :=
  rfl

end Host

section Turning

variable {ρ σ : Type} {stage : Stage} {world : World} {seeds : Nat → Option Nat}
  {before inner : EmissionState σ} {label : String} {start stop step : Nat}
  {body : Scalar → Host ρ Unit} {state state' : HostState ρ} {machine next : State}

/-- The code of the body stands for a turn of the host, whichever index it is. -/
def TurnRealized (seeds : Nat → Option Nat) (world : World) (body : Scalar → Host ρ Unit)
    (before looping inner : EmissionState σ) : Prop :=
  ∀ (storage : Nat) (fresh : world.next ≤ storage) (index : Int64) (allocation : Nat),
    Realized seeds (world.held storage fresh (.fixed (Storage.singleton (.i64 index))) allocation
      before.builder.size) (body (Host.item .i64 storage 0)) looping () inner fun _ _ _ => True

/-- What the machine does from here on is what the host does with the rest of the loop. -/
structure Stage.GoesOn (stage : Stage) (world : World) (before after : EmissionState σ)
    (host : Host ρ Unit) (state : HostState ρ) (machine : State) : Prop where
  runs : ∀ state', host state = .ok () state' →
    ∃ last, stage.Leads world before after state'.heap machine last
  breaks : ∀ cause state', host state = .error (.error cause) state' → cause.isArithmetic = true →
    ∃ final, Breaks stage.module machine cause final ∧ stage.Shows world state'.heap final.memory

/-- From a test on the machine goes on as the host does with the turns that are left. -/
theorem Stage.Loops.goes
    (loops : stage.Loops before inner label (.ofNat start) (.ofNat stop) (.ofNat step))
    (covers : stage.Covers inner) (ready : world.Ready seeds before)
    (seeded : world.Seeded stage seeds) (positive : step ≠ 0) (small : stop < 2 ^ 63)
    (realized : TurnRealized seeds world body before
      (before.looping label (.ofNat start) (.ofNat stop)) inner)
    (count index : Nat) (counted : (stop - index + (step - 1)) / step = count)
    (within : index + count * step < 2 ^ 63)
    (turning : stage.Turning world before (before.looped inner (.ofNat step)).builder.size
      state.heap (.ofNat index) machine next) :
    stage.GoesOn world before (before.looped inner (.ofNat step))
      (Host.runOver body (List.range' index count step)) state machine := by
  have below := fun register target points => (ready.fits.pointers register target points).1
  have counts : index < 2 ^ 63 := Nat.lt_of_le_of_lt (Nat.le_add_right _ _) within
  -- A turn leaves one fewer; the counter stays within sixty-four bits because it does so at the end.
  induction count generalizing index state machine next with
  | zero =>
      refine ⟨fun state' done => ?_, fun cause state' failed => ?_⟩
      · obtain ⟨-, rfl⟩ := Host.pure_ok.mp done
        refine loops.leaves below turning ?_
        rw [lt_iff_ofNat_lt counts small]
        intro left
        rw [turns_left positive left] at counted
        cases counted
      · cases failed
  | succ count ih =>
      have left : index < stop := by
        by_contra reached
        rw [turns_reached positive (Nat.le_of_not_lt reached)] at counted
        cases counted
      rw [turns_left positive left, Nat.succ.injEq] at counted
      have within' : index + step + count * step < 2 ^ 63 := by
        rw [Nat.add_assoc, Nat.add_comm step, ← Nat.succ_mul]
        exact within
      rw [List.range'_succ]
      obtain ⟨middle, onward, memory, holds⟩ := loops.enters below turning
        ((lt_iff_ofNat_lt counts small).mpr left) turning.agrees.next
      have grown := World.later_held turning.agrees.next
        (.fixed (Storage.singleton (.i64 (.ofNat index)))) (stage.place before.builder.size)
        before.builder.size
      have turn := realized state.heap.next turning.agrees.next (.ofNat index)
        (stage.place before.builder.size)
      have onwards : ∀ halfway, body (Host.item .i64 state.heap.next 0) (Host.onto state
          (state.heap.add (Storage.singleton (.i64 (.ofNat index))))) = .ok () halfway →
          stage.GoesOn world before (before.looped inner (.ofNat step))
            (Host.runOver body (List.range' (index + step) count step)) halfway machine := by
        intro halfway done
        obtain ⟨later, last, growing, -, -, leads⟩ :=
          turn.runs stage covers (seeded.mono grown) _ middle holds () halfway done
        obtain ⟨final, turned⟩ := loops.turns below turning onward memory growing leads
        rw [← Int64.ofNat_add] at turned
        exact ih (index + step) counted within' turned
          (Nat.lt_of_le_of_lt (Nat.le_add_right _ _) within')
      refine ⟨fun state' done => ?_, fun cause state' failed arithmetic => ?_⟩
      · rw [Host.runOver_cons] at done
        obtain ⟨_, halfway, done, done'⟩ := Host.bind_ok.mp done
        exact (onwards halfway done).runs state' done'
      · rw [Host.runOver_cons] at failed
        rcases Host.bind_error.mp failed with failed | ⟨_, halfway, done, failed⟩
        · obtain ⟨final, broken, shows⟩ :=
            turn.breaks stage covers (seeded.mono grown) _ middle holds cause state' failed
              arithmetic
          exact ⟨final, .of_reaches (turning.onward.trans onward).reaches broken,
            shows.earlier grown⟩
        · exact (onwards halfway done).breaks cause state' failed arithmetic

end Turning

/-! ### Loops -/

section Realizes

variable {ρ σ : Type} {seeds : Nat → Option Nat} {world : World}

/-- A part of the code behind which nothing more is known than before. -/
theorem Realized.of_goesOn {host : Host ρ Unit} {before after : EmissionState σ}
    (grows : before.Grows after) (heap : before.heap.Grows after.heap)
    (ready : world.Ready seeds after)
    (goes : ∀ stage : Stage, stage.Covers after → world.Seeded stage seeds →
      ∀ (state : HostState ρ) (machine : State), stage.Matches world before state.heap machine →
        stage.GoesOn world before after host state machine) :
    Realized seeds world host before () after fun _ _ _ => True := by
  refine ⟨grows, heap, ⟨world, (), .refl world, ready, trivial⟩, ?_, ?_⟩
  · intro stage covers seeded state machine holds _ state' done
    obtain ⟨last, leads⟩ := (goes stage covers seeded state machine holds).runs state' done
    exact ⟨world, last, .refl world, ready, trivial, leads⟩
  · intro stage covers seeded state machine holds
    exact (goes stage covers seeded state machine holds).breaks

/-- The emission fits the world where it only wrote code. -/
theorem World.Fits.onto {before after : EmissionState σ} (fits : world.Fits seeds before)
    (grows : before.builder.Grows after.builder) (heap : after.heap = before.heap)
    (states : after.states = before.states) : world.Fits seeds after := by
  refine ⟨?_, heap ▸ fits.constants, states ▸ fits.taken, heap ▸ fits.seeded⟩
  intro register target points
  obtain ⟨below, knowledge, known, typed⟩ := fits.pointers register target points
  exact ⟨Nat.lt_of_lt_of_le below grows.size_le, knowledge, known, grows.types register _ typed⟩

/-- The emission fits the world at the start of a loop's body, too. -/
theorem World.Ready.looping {before : EmissionState σ} (ready : world.Ready seeds before)
    {label : String} {first limit : Int64}
    (opening : Steps before.builder (before.looping label first limit).builder)
    {storage : Nat} (fresh : world.next ≤ storage) (index : Int64) (allocation : Nat) :
    (world.held storage fresh (.fixed (Storage.singleton (.i64 index))) allocation
      before.builder.size).Ready seeds (before.looping label first limit) := by
  refine ⟨ready.sound.looping opening, ready.faithful.looping ready.sound opening, ?_⟩
  have fits : world.Fits seeds (before.looping label first limit) :=
    ready.fits.onto (Steps.grows opening ready.sound.builder) EmissionState.heap_looping
      EmissionState.states_looping
  exact fits.held fresh allocation (before.pointee_looping label first limit)

theorem Scalar.value_of_ofValue {value : Value} {scalar : Scalar}
    (made : Scalar.ofValue value = .ok scalar) : scalar.value = value := by
  unfold Scalar.ofValue at made
  split at made
  · cases made
  split at made
  · split at made
    · cases made
      rfl
    · cases made
  · cases made

theorem Host.forRange_of_positive {start stop step : Nat} (positive : step ≠ 0)
    (body : Scalar → Host ρ Unit) :
    (Kernel.forRange start stop step body : Host ρ Unit) =
      runOver body (List.range' start ((stop - start + (step - 1)) / step) step) := by
  rw [← indices_eq]
  exact if_neg positive

namespace Realizes

theorem forRange {start stop step : Nat} (counts : Kernel.Counts start stop step)
    {body : Scalar → Host ρ Unit} {body' : Scalar → Emission σ Unit}
    (bodies : ∀ later (index index' : Scalar), world.Later later →
      Alike later index.value index'.value →
      Realizes seeds later (body index) (body' index') fun _ _ _ => True) :
    Realizes seeds world (Kernel.forRange start stop step body : Host ρ Unit)
      (Kernel.forRange start stop step body' : Emission σ Unit) fun _ _ _ => True := by
  intro before answer after emitted ready
  obtain ⟨positive, ⟨reached, rfl⟩ | ⟨left, single, emitted⟩ |
    ⟨left, -, smallStart, smallStop, smallStep, label, index, inner, made, opening, ran, ended⟩⟩ :=
      Emission.forRange_ok ready.sound emitted
  · have none' : Realizes seeds world (Pure.pure () : Host ρ Unit) (Pure.pure () : Emission σ Unit)
        fun _ _ _ => True := .pure () () trivial
    rw [Host.forRange_of_positive positive, turns_reached positive reached]
    exact none' after () after rfl ready
  · obtain ⟨index, heap, made, emitted⟩ := emitted
    have one : Realizes seeds world
        (do body (← Kernel.onHost (Scalar.ofIndex start)) : Host ρ Unit)
        (do body' (← Kernel.onHost (Scalar.ofIndex start)) : Emission σ Unit) fun _ _ _ => True :=
      .bind (.constant (.i64 (.ofNat start))) bodies
    have same : Host.runOver body [start] =
        (do body (← Kernel.onHost (Scalar.ofIndex start)) : Host ρ Unit) :=
      bind_congr fun index => bind_pure_unit
    rw [Host.forRange_of_positive positive, single, List.range'_one, same]
    exact one before () after
      (Emission.bind_ok.mpr ⟨index, _, Emission.onHeap_ok.mpr ⟨heap, made, rfl⟩, emitted⟩) ready
  · have value := Scalar.value_of_ofValue made
    have realized : TurnRealized seeds world body before
        (before.looping label (.ofNat start) (.ofNat stop)) inner := by
      intro storage fresh number allocation
      refine bodies _ _ index (World.later_held fresh _ _ _) ?_ _ () inner ran
        (ready.looping opening fresh number allocation)
      rw [value]
      exact World.alike_held fresh (.fixed (Storage.singleton (.i64 number))) allocation _ _
    obtain ⟨grows, heap, ⟨later, -, growing, readyInner, -⟩, -, -⟩ :=
      realized world.next (Nat.le_refl _) 0 0
    obtain ⟨rfl, closing⟩ := ended grows
    have grown := EmissionState.Grows.looped ready.sound opening grows closing
    have keeps := EmissionState.Keeps.looped grows ⟨heap, readyInner.faithful⟩ closing
    have states : (before.looped inner (.ofNat step)).states = inner.states := by
      simp only [EmissionState.looped]
    have ready' : world.Ready seeds (before.looped inner (.ofNat step)) := by
      refine ready.grows grown keeps ?_
      rw [states]
      exact readyInner.fits.taken
    have within : start + (stop - start + (step - 1)) / step * step < 2 ^ 63 := by
      rcases counts with rfl | within
      · rw [Nat.sub_self, Nat.add_zero, Nat.div_one, Nat.mul_one, Nat.add_sub_cancel' left.le]
        exact smallStop
      · exact within
    refine .of_goesOn grown keeps.heap ready' fun stage covers seeded state machine holds => ?_
    have loops : stage.Loops before inner label (.ofNat start) (.ofNat stop) (.ofNat step) :=
      ⟨ready.sound, opening, grows, closing, covers.builder⟩
    have covers' : stage.Covers inner := ⟨loops.covers_inner, states ▸ covers.states⟩
    obtain ⟨next, turning⟩ := loops.begins holds
    rw [Host.forRange_of_positive positive]
    exact loops.goes covers' ready seeded positive smallStop realized _ start rfl within turning

end Realizes
end Realizes

/-! ### The blocks of a branch -/

/-- A branch of the emission, and a function that goes on from it. -/
structure Stage.Forks {σ : Type} (stage : Stage) (before first second : EmissionState σ)
    (trueLabel falseLabel mergeLabel : String) (test : Operand) : Prop where
  sound : before.Sound
  opening : Steps before.builder
    (before.branching trueLabel falseLabel mergeLabel test).builder
  grows : (before.branching trueLabel falseLabel mergeLabel test).Grows first
  turning : Steps first.builder (before.turned first).builder
  grows' : (before.turned first).Grows second
  closing : Steps second.builder (before.merged second).builder
  covers : stage.Covers (before.merged second)

namespace Stage.Forks

variable {σ : Type} {stage : Stage} {before first second : EmissionState σ}
  {trueLabel falseLabel mergeLabel : String} {test : Operand}
  (forks : stage.Forks before first second trueLabel falseLabel mergeLabel test)

include forks

theorem begun : (before.branching trueLabel falseLabel mergeLabel test).Sound :=
  forks.sound.branching forks.opening

theorem begun' : (before.turned first).Sound :=
  forks.sound.turned forks.grows forks.turning

theorem covers_second : stage.Covers second :=
  ⟨(Steps.grows forks.closing forks.grows'.sound.builder).trans forks.covers.builder,
    forks.covers.states⟩

theorem covers_turned : stage.Covers (before.turned first) :=
  forks.covers_second.of_grows forks.begun' forks.grows'

theorem covers_first : stage.Covers first :=
  ⟨(Steps.grows forks.turning forks.grows.sound.builder).trans forks.covers_turned.builder,
    forks.covers_turned.states⟩

theorem covers_branching : stage.Covers (before.branching trueLabel falseLabel mergeLabel test) :=
  forks.covers_first.of_grows forks.begun forks.grows

theorem size_first : before.builder.size ≤ first.builder.size :=
  (Steps.grows forks.opening forks.sound.builder).size_le.trans
    (forks.grows.builder forks.begun).size_le

theorem size_second : first.builder.size ≤ second.builder.size :=
  (forks.grows'.builder forks.begun').size_le

/-- The block that led into the branch. -/
theorem blockAt_current {block : Block}
    (found : before.builder.blockAt before.builder.current = some block) :
    (before.branching trueLabel falseLabel mergeLabel test).builder.blockAt
      before.builder.current = some
        { block with
          terminator? := some (.branch test before.builder.nextBlock
            (before.builder.nextBlock + 1) none) } := by
  have numbered := forks.sound.builder.numbered
  have below : (before.builder.current : Nat) < before.builder.nextBlock :=
    numbered.current_lt forks.sound.opened
  refine (blockAt_branchOpened numbered forks.sound.opened _).trans ?_
  rw [if_neg (Nat.ne_of_lt (Nat.lt_add_right 2 below)),
    if_neg (Nat.ne_of_lt (Nat.lt_add_right 1 below)), if_neg (Nat.ne_of_lt below), if_pos rfl, found]
  rfl

/-- The blocks of the branch are empty when it begins. -/
theorem blockAt_empty {more : Nat} (among : more ≤ 2) :
    ∃ text, (before.branching trueLabel falseLabel mergeLabel test).builder.blockAt
      (before.builder.nextBlock + more) = some (Block.empty (before.builder.nextBlock + more) text) :=
  blockAt_branchOpened_empty trueLabel falseLabel mergeLabel test forks.sound.builder.numbered
    forks.sound.opened among

/-- The first answer ends in a jump, and so does the second. -/
theorem blockAt_first {block : Block}
    (found : first.builder.blockAt first.builder.current = some block) :
    (before.turned first).builder.blockAt first.builder.current =
      some { block with terminator? := some (.jump (before.builder.nextBlock + 2)) } := by
  refine (blockAt_branchTurned forks.grows.sound.builder.numbered _ _).trans ?_
  rw [if_pos rfl, found]
  rfl

theorem blockAt_second {block : Block}
    (found : second.builder.blockAt second.builder.current = some block) :
    (before.merged second).builder.blockAt second.builder.current =
      some { block with terminator? := some (.jump (before.builder.nextBlock + 2)) } := by
  refine (blockAt_branchClosed forks.grows'.sound.builder.numbered _ _).trans ?_
  rw [if_pos rfl, found]
  rfl

/-- The second answer begins in an empty block. -/
theorem blockAt_turned :
    ∃ text, (before.turned first).builder.blockAt (before.builder.nextBlock + 1) =
      some (Block.empty (before.builder.nextBlock + 1) text) :=
  opened_branchTurned forks.sound.builder forks.sound.opened forks.grows.sound.builder
    forks.grows.balanced

/-- The block where the answers go on is empty behind them. -/
theorem blockAt_merge :
    ∃ text, (before.merged second).builder.blockAt (before.builder.nextBlock + 2) =
      some (Block.empty (before.builder.nextBlock + 2) text) :=
  (balanced_branch forks.sound.builder forks.sound.opened forks.grows.sound.builder
    forks.grows'.sound.builder forks.grows.balanced forks.grows'.balanced).2

end Stage.Forks

namespace Stage

variable {σ : Type} {stage : Stage} {world later : World} {seeds : Nat → Option Nat}
  {before first second : EmissionState σ} {trueLabel falseLabel mergeLabel : String}
  {test : Operand} {heap heap' : Heap} {machine next last : State}

/-- The machine branches to the answer that was decided. -/
theorem Forks.decides
    (forks : stage.Forks before first second trueLabel falseLabel mergeLabel test)
    (follows : stage.Follows before.builder machine) {answer : Literal}
    (decided : machine.frame.element test = .ok answer) :
    ∃ next, Moves stage.module machine next ∧ next.frame.registers = machine.frame.registers ∧
      next.memory = machine.memory ∧
      stage.Stands (if answer.isTrue then before.builder.nextBlock else
        before.builder.nextBlock + 1) next := by
  have ended := follows.ended forks.covers_branching.builder fun block => forks.blockAt_current
  have empty : ∀ {more : Nat}, more ≤ 2 → ∃ final,
      Frame.blockOf? stage.function (before.builder.nextBlock + more) = some final := by
    intro more among
    obtain ⟨text, empty⟩ := forks.blockAt_empty among
    exact exists_block forks.covers_branching.builder empty
  have known : ∃ final, Frame.blockOf? stage.function (if answer.isTrue then
      before.builder.nextBlock else before.builder.nextBlock + 1) = some final := by
    split
    · exact empty (Nat.zero_le 2)
    · exact empty (Nat.le_succ 1)
  obtain ⟨final, known⟩ := known
  obtain ⟨moves, stands⟩ := branches follows.function follows.alone ended decided known
  exact ⟨machine.goto final, moves, rfl, rfl, stands⟩

/-- Behind an answer the machine goes on where both do. -/
theorem Forks.merges
    (forks : stage.Forks before first second trueLabel falseLabel mergeLabel test)
    {part after : FunctionBuilder} (follows : stage.Follows part machine)
    (covers : after.Grows stage.builder)
    (closed : ∀ block, part.blockAt part.current = some block → after.blockAt part.current =
      some { block with terminator? := some (.jump (before.builder.nextBlock + 2)) }) :
    ∃ next, Moves stage.module machine next ∧ next.frame.registers = machine.frame.registers ∧
      next.memory = machine.memory ∧ stage.Follows (before.merged second).builder next := by
  have ended := follows.ended covers closed
  obtain ⟨text, empty⟩ := forks.blockAt_merge
  obtain ⟨final, known⟩ := exists_block forks.covers.builder empty
  obtain ⟨moves, stands⟩ := jumps follows.function follows.alone ended known
  exact ⟨machine.goto final, moves, rfl, rfl,
    stands.follows forks.covers.builder (Nat.succ_ne_zero _) empty⟩

/-- At the beginning of an answer all is as before the branch. -/
theorem Matches.answering (holds : stage.Matches world before heap machine)
    (ready : world.Ready seeds before) {part : EmissionState σ}
    (follows : stage.Follows part.builder next) (wider : before.builder.size ≤ part.builder.size)
    (depth : part.loopDepth = before.loopDepth)
    (registers : next.frame.registers = machine.frame.registers)
    (memory : next.memory = machine.memory) : stage.Matches world part heap next := by
  refine ⟨follows, ?_, fun outside => ?_⟩
  · rw [registers, memory]
    exact holds.agrees.defining wider rfl
      (fun register target points => (ready.fits.pointers register target points).1) fun _ _ => rfl
  · rw [memory]
    intro register dtype count member above
    exact holds.clean (depth.symm.trans outside) register dtype count member
      (Nat.le_trans wider above)

/-- An answer was run, and what it made known is forgotten. -/
theorem Matches.answered (holds : stage.Matches world before heap machine)
    (ready : world.Ready seeds before) (begun : stage.Onward before.builder.size machine next)
    (memory : next.memory = machine.memory) {part done after : EmissionState σ}
    (growing : world.Later later) (leads : stage.Leads later part done heap' next last)
    (wider : before.builder.size ≤ part.builder.size)
    (wider' : part.builder.size ≤ done.builder.size)
    (wider'' : done.builder.size ≤ after.builder.size) {final : State}
    (moves : Moves stage.module last final)
    (registers : final.frame.registers = last.frame.registers)
    (memory' : final.memory = last.memory) (follows : stage.Follows after.builder final) :
    stage.Leads world before after heap' machine final := by
  have below := fun register target points => (ready.fits.pointers register target points).1
  have onward : stage.Onward before.builder.size machine final :=
    (begun.trans (.of_runs leads.runs wider)).trans (.of_registers (.single moves) registers)
  refine ⟨onward.runs follows, ?_, ?_⟩
  · rw [memory', ← memory]
    exact leads.untouched.trans (.refl _ _) wider''
  · rw [memory', registers]
    have narrowed := leads.agrees.narrow growing holds.agrees.born
    exact narrowed.defining ((wider.trans wider').trans wider'') rfl below fun _ _ => rfl

end Stage

/-! ### Branches -/

section Realizes

variable {ρ σ : Type} {seeds : Nat → Option Nat} {world : World}

/-- The emission fits the world at the start of the first answer of a branch. -/
theorem World.Ready.branching {before : EmissionState σ} (ready : world.Ready seeds before)
    {trueLabel falseLabel mergeLabel : String} {test : Operand}
    (opening : Steps before.builder
      (before.branching trueLabel falseLabel mergeLabel test).builder) :
    world.Ready seeds (before.branching trueLabel falseLabel mergeLabel test) := by
  have grown := Steps.grows opening ready.sound.builder
  have faithful := ready.faithful.onBuilder grown.globals
  exact ⟨ready.sound.branching opening, ⟨faithful.constants, faithful.states⟩,
    ready.fits.onto grown rfl rfl⟩

/-- The emission behind an answer fits the world before it. -/
theorem Realized.narrow {host : Host ρ Unit} {before after : EmissionState σ}
    {post : World → Unit → Unit → Prop} (ready : world.Ready seeds before)
    (realized : Realized seeds world host before () after post) : world.Ready seeds after := by
  obtain ⟨later, -, -, ready', -⟩ := realized.possible
  exact ready.grows realized.grows ⟨realized.heap, ready'.faithful⟩ ready'.fits.taken

theorem World.Ready.onBuilder {before : EmissionState σ} (ready : world.Ready seeds before)
    {after : FunctionBuilder} (sound : (before.onBuilder after).Sound)
    (steps : Steps before.builder after) : world.Ready seeds (before.onBuilder after) :=
  have grown := Steps.grows steps ready.sound.builder
  ⟨sound, ready.faithful.onBuilder grown.globals, ready.fits.onto grown rfl rfl⟩

/-- The host takes the answer that the element decides. -/
theorem Host.ifElse_ok {condition : Value} {onTrue onFalse : Host ρ Unit}
    {state state' : HostState ρ}
    (done : (Kernel.ifElse condition onTrue onFalse : Host ρ Unit) state = .ok () state') :
    ∃ element, literal condition state.heap = .ok element ∧
      (if element.isTrue then onTrue else onFalse) state = .ok () state' := by
  obtain ⟨element, _, read, done⟩ := bind_ok.mp done
  obtain ⟨found, rfl⟩ := readLiteral_ok.mp read
  exact ⟨element, found, done⟩

theorem Host.ifElse_error {condition : Value} {onTrue onFalse : Host ρ Unit}
    {state state' : HostState ρ} {cause : Error}
    (failed : (Kernel.ifElse condition onTrue onFalse : Host ρ Unit) state =
      .error (.error cause) state') (arithmetic : cause.isArithmetic = true) :
    ∃ element, literal condition state.heap = .ok element ∧
      (if element.isTrue then onTrue else onFalse) state = .error (.error cause) state' := by
  rcases bind_error.mp failed with failed | ⟨element, _, read, failed⟩
  · obtain ⟨cause', refused, same, -⟩ := look_error.mp failed
    cases same
    rw [literal_error refused] at arithmetic
    cases arithmetic
  · obtain ⟨found, rfl⟩ := readLiteral_ok.mp read
    exact ⟨element, found, failed⟩

section Answers

variable {stage : Stage} {before middle after first second : EmissionState σ}
  {trueLabel falseLabel mergeLabel : String} {test : Operand} {host : Host ρ Unit}
  {state : HostState ρ} {machine next : State}

/-- What the host decides does not matter to what comes before. -/
theorem Stage.GoesOn.decided {condition : Value} {onTrue onFalse : Host ρ Unit}
    (goes : ∀ element, Host.literal condition state.heap = .ok element →
      stage.GoesOn world before after (if element.isTrue then onTrue else onFalse) state machine) :
    stage.GoesOn world before after (Kernel.ifElse condition onTrue onFalse) state machine := by
  refine ⟨fun state' done => ?_, fun cause state' failed arithmetic => ?_⟩
  · obtain ⟨element, read, done⟩ := Host.ifElse_ok done
    exact (goes element read).runs state' done
  · obtain ⟨element, read, failed⟩ := Host.ifElse_error failed arithmetic
    exact (goes element read).breaks cause state' failed arithmetic

/-- Computing into registers comes first. -/
theorem Stage.GoesOn.behind (goes : stage.GoesOn world middle after host state next)
    (computes : stage.Computes before middle machine next)
    (holds : stage.Matches world before state.heap machine) (ready : world.Ready seeds before)
    (grows : before.Grows middle) (grows' : middle.Grows after) :
    stage.GoesOn world before after host state machine := by
  refine ⟨fun state' done => ?_, fun cause state' failed arithmetic => ?_⟩
  · obtain ⟨last, leads⟩ := goes.runs state' done
    exact ⟨last, (computes.leads holds ready grows).trans leads ready.sound grows grows'⟩
  · obtain ⟨final, broken, shows⟩ := goes.breaks cause state' failed arithmetic
    exact ⟨final, .of_reaches computes.runs.reaches broken, shows⟩

/-- The machine has branched to an answer, runs it, and goes on behind the branch. -/
theorem Stage.Forks.goes
    (forks : stage.Forks before first second trueLabel falseLabel mergeLabel test)
    (ready : world.Ready seeds before) (seeded : world.Seeded stage seeds)
    (holds : stage.Matches world before state.heap machine)
    (moves : Moves stage.module machine next)
    (registers : next.frame.registers = machine.frame.registers)
    (memory : next.memory = machine.memory) {part done : EmissionState σ} (sound : part.Sound)
    (realized : Realized seeds world host part () done fun _ _ _ => True)
    (covers : stage.Covers done) (follows : stage.Follows part.builder next)
    (wider : before.builder.size ≤ part.builder.size) (depth : part.loopDepth = before.loopDepth)
    (wider' : done.builder.size ≤ second.builder.size) {closed : FunctionBuilder}
    (covers' : closed.Grows stage.builder)
    (ends : ∀ block, done.builder.blockAt done.builder.current = some block →
      closed.blockAt done.builder.current =
        some { block with terminator? := some (.jump (before.builder.nextBlock + 2)) }) :
    stage.GoesOn world before (before.merged second) host state machine := by
  have answering := holds.answering ready follows wider depth registers memory
  refine ⟨fun state' ran => ?_, fun cause state' failed arithmetic => ?_⟩
  · obtain ⟨later, last, growing, -, -, leads⟩ :=
      realized.runs stage covers seeded state next answering () state' ran
    obtain ⟨final, moves', registers', memory', follows'⟩ :=
      forks.merges leads.runs.follows covers' ends
    exact ⟨final, holds.answered ready (.of_registers (.single moves) registers) memory growing
      leads wider (realized.grows.builder sound).size_le
      (wider'.trans (Steps.grows forks.closing forks.grows'.sound.builder).size_le) moves'
      registers' memory' follows'⟩
  · obtain ⟨final, broken, shows⟩ :=
      realized.breaks stage covers seeded state next answering cause state' failed arithmetic
    exact ⟨final, .of_reaches (.single moves) broken, shows⟩

end Answers

namespace Realizes

theorem ifElse {condition condition' : Value} {onTrue onFalse : Host ρ Unit}
    {onTrue' onFalse' : Emission σ Unit} (alike : Alike world condition condition')
    (one : ∀ later, world.Later later → Realizes seeds later onTrue onTrue' fun _ _ _ => True)
    (other : ∀ later, world.Later later →
      Realizes seeds later onFalse onFalse' fun _ _ _ => True) :
    Realizes seeds world (Kernel.ifElse condition onTrue onFalse : Host ρ Unit)
      (Kernel.ifElse condition' onTrue' onFalse' : Emission σ Unit) fun _ _ _ => True := by
  intro before answer after emitted ready
  rcases Emission.ifElse_ok ready.sound emitted with ⟨known, found, emitted⟩ |
    ⟨unknown, test, middle, trueLabel, falseLabel, mergeLabel, first, tested, typed, opening, ran,
      ended⟩
  · have decided : Realizes seeds world (if known.isTrue then onTrue else onFalse)
        (if known.isTrue then onTrue' else onFalse') fun _ _ _ => True := by
      split
      · exact one world (.refl world)
      · exact other world (.refl world)
    obtain ⟨grows, heap, possible, runs, breaks⟩ := decided before () after emitted ready
    refine ⟨grows, heap, possible, ?_, ?_⟩
    · intro stage covers seeded state machine holds answer' state' done
      obtain ⟨element, read, done⟩ := Host.ifElse_ok done
      cases (alike.known ready.fits holds.agrees.known found).symm.trans read
      exact runs stage covers seeded state machine holds answer' state' done
    · intro stage covers seeded state machine holds cause state' failed arithmetic
      obtain ⟨element, read, failed⟩ := Host.ifElse_error failed arithmetic
      cases (alike.known ready.fits holds.agrees.known found).symm.trans read
      exact breaks stage covers seeded state machine holds cause state' failed arithmetic
  · obtain ⟨grows, heap, ready₀⟩ := operand_emitted ready alike tested
    have ready₁ := ready₀.branching opening
    have realized₁ := one world (.refl world) _ () first ran ready₁
    obtain ⟨turning, second, ran', ended⟩ := ended realized₁.grows
    have ready₂ : world.Ready seeds (middle.turned first) :=
      (realized₁.narrow ready₁).onBuilder (ready₀.sound.turned realized₁.grows turning) turning
    have realized₂ := other world (.refl world) _ () second ran' ready₂
    obtain ⟨rfl, closing⟩ := ended realized₂.grows
    have grown := EmissionState.Grows.merged ready₀.sound opening realized₁.grows turning
      realized₂.grows closing
    have ready₃ : world.Ready seeds (middle.merged second) :=
      (realized₂.narrow ready₂).onBuilder grown.sound closing
    refine .of_goesOn (grows.trans grown) ((heap.trans realized₁.heap).trans realized₂.heap) ready₃
      fun stage covers seeded state machine holds => .decided fun element read => ?_
    have forks : stage.Forks middle first second trueLabel falseLabel mergeLabel test :=
      ⟨ready₀.sound, opening, realized₁.grows, turning, realized₂.grows, closing, covers⟩
    obtain ⟨next, computes, decided, -⟩ :=
      Stage.operand_runs tested ready alike (covers.of_grows ready₀.sound grown) holds read
    have holds' := computes.follows_on holds ready grows
    have other' : middle.builder.nextBlock ≠ 0 := Nat.ne_of_gt (Nat.lt_of_le_of_lt (Nat.zero_le _)
      (ready₀.sound.builder.numbered.current_lt ready₀.sound.opened))
    obtain ⟨entered, moves, registers, memory, stands⟩ := forks.decides holds'.follows decided
    refine Stage.GoesOn.behind ?_ computes holds ready grows grown
    cases truth : element.isTrue with
    | true =>
        rw [truth, if_pos rfl] at stands
        obtain ⟨text, empty⟩ := forks.blockAt_empty (Nat.zero_le 2)
        have follows : stage.Follows
            (middle.branching trueLabel falseLabel mergeLabel test).builder entered :=
          Stage.Stands.follows stands forks.covers_branching.builder other' empty
        exact forks.goes ready₀ seeded holds' moves registers memory ready₁.sound realized₁
          forks.covers_first follows (Steps.grows opening ready₀.sound.builder).size_le rfl
          forks.size_second forks.covers_turned.builder fun block => forks.blockAt_first
    | false =>
        rw [truth, if_neg Bool.false_ne_true] at stands
        obtain ⟨text, empty⟩ := forks.blockAt_turned
        have follows : stage.Follows (middle.turned first).builder entered :=
          Stage.Stands.follows stands forks.covers_turned.builder (Nat.succ_ne_zero _) empty
        exact forks.goes ready₀ seeded holds' moves registers memory ready₂.sound realized₂
          forks.covers_second follows forks.size_first realized₁.grows.depth (Nat.le_refl _)
          covers.builder fun block => forks.blockAt_second

end Realizes
end Realizes
end TensorGraph

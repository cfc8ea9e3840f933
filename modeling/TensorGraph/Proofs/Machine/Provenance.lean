/-
Where pointers come from.

Allocations are numbered by position, and a position that was released is taken
again.  So beside a run a ledger is kept, which the machine does not read: what
each allocation was made by, and for each register that holds a pointer the
allocation that the pointer was made for.  A frame hands its pointers only to
the frames that it calls, and a return releases only what came after its frame
was entered.  Hence the pointers of a frame that is live lead to the allocations
that they were made for.
-/

import TensorGraph.Proofs.Machine.Sizes

namespace TensorGraph.Machine

open Code

/-! ### The ledger -/

/-- What made an allocation: it was in memory before the call, it is a buffer of the caller, or
an activation of a function has reserved it, in one step of the run. -/
inductive Origin where
  | standing (index : Nat)
  | buffer (position : Nat)
  | reserved (activation step : Nat)
  deriving DecidableEq

/-- The entries for a frame: which activation it is, and what its pointers were made for. -/
structure Shade where
  activation : Nat
  origins : Register → Option Origin

namespace Shade

def define (shade : Shade) (register : Register) (origin? : Option Origin) : Shade :=
  { shade with
    origins := fun other => if other = register then origin? else shade.origins other }

/-- What an operand hands over to a call. -/
def passed (shade : Shade) : Operand → Option Origin
  | .constant _ => none
  | .register register => shade.origins register

/-- An activation at its entry. -/
def enter (activation : Nat) (received : List (Register × Option Origin)) : Shade :=
  received.foldl (fun shade pair => shade.define pair.1 pair.2)
    { activation := activation
      origins := fun _ => none }

end Shade

structure Ledger where
  allocations : List Origin
  shade : Shade
  waiting : List Shade

namespace Ledger

/-- The entries of an instruction that runs in a step. -/
def entered (ledger : Ledger) (module : Module) (step : Nat) : Instruction → Ledger
  | .alloca target _ _ =>
      let origin := .reserved ledger.shade.activation step
      { ledger with
        allocations := ledger.allocations ++ [origin]
        shade := ledger.shade.define target (some origin) }
  | .address target name =>
      { ledger with
        shade := ledger.shade.define target ((globalIndex? module name).map .standing) }
  | .offset target base _ =>
      { ledger with shade := ledger.shade.define target (ledger.shade.origins base) }
  | .load target _ | .binary target _ _ _ | .unary target _ _ | .compare target _ _ _
  | .cast target _ _ =>
      { ledger with shade := ledger.shade.define target none }
  | .store _ _ | .move _ _ _ => ledger
  | .call name arguments =>
      match module.function? name with
      | none => ledger
      | some function =>
          { ledger with
            shade := .enter (step + 1)
              (function.parameters.zip (arguments.map ledger.shade.passed))
            waiting := ledger.shade :: ledger.waiting }

/-- The entries of a return to the caller. -/
def left (ledger : Ledger) (floor : Nat) : Ledger :=
  match ledger.waiting with
  | [] => ledger
  | caller :: callers =>
      { allocations := ledger.allocations.take floor
        shade := caller
        waiting := callers }

/-- The entries of what a state does next. -/
def next (ledger : Ledger) (module : Module) (state : State) : Ledger :=
  match state.frame.pending, state.frame.block.terminator? with
  | instruction :: _, _ => ledger.entered module state.steps instruction
  | [], some .leave => ledger.left state.frame.floor
  | [], _ => ledger

end Ledger

/-- A move of the machine and the entries that it makes. -/
def Recorded (module : Module) (before after : State × Ledger) : Prop :=
  Moves module before.1 after.1 ∧ after.2 = before.2.next module before.1

/-! ### Pointers that lead somewhere -/

/-- The allocation is a global or a buffer, or one of these activations has reserved it. -/
def Origin.Visible (module : Module) (activations : List Nat) : Origin → Prop
  | standing index => index < module.globals.length
  | buffer _ => True
  | reserved activation _ => activation ∈ activations

/-- A pointer leads to the allocation that it was made for, which lies below `bound`. -/
def Leads (module : Module) (allocations : List Origin) (activations : List Nat) (bound : Nat)
    (slot : Slot) (origin? : Option Origin) : Prop :=
  ∀ pointer, slot = .pointer pointer → pointer.allocation < bound ∧
    ∃ origin, origin? = some origin ∧ allocations[pointer.allocation]? = some origin ∧
      origin.Visible module activations

/-- All pointers of a frame lead to the allocations that they were made for. -/
def Follows (module : Module) (allocations : List Origin) (activations : List Nat) (bound : Nat)
    (registers : Array (Option Slot)) (shade : Shade) : Prop :=
  ∀ (register : Register) (slot : Slot), registers[register]? = some (some slot) →
    Leads module allocations activations bound slot (shade.origins register)

/-- Frames from the innermost on.  The pointers of each lie below the frame that it has
called. -/
inductive Stacked (module : Module) (allocations : List Origin) :
    Nat → List Frame → List Shade → Prop where
  | nil (bound : Nat) : Stacked module allocations bound [] []
  | cons {bound : Nat} {frame : Frame} {shade : Shade} {frames : List Frame}
      {shades : List Shade} (floor : frame.floor ≤ bound)
      (follows : Follows module allocations ((shade :: shades).map Shade.activation) bound
        frame.registers shade)
      (older : ∀ other ∈ shades, other.activation < shade.activation)
      (rest : Stacked module allocations frame.floor frames shades) :
      Stacked module allocations bound (frame :: frames) (shade :: shades)

section Leads

variable {module : Module} {allocations allocations' : List Origin} {activations : List Nat}
  {bound bound' : Nat} {slot : Slot} {origin? : Option Origin} {registers : Array (Option Slot)}
  {shade : Shade}

theorem Leads.element (value : Literal) :
    Leads module allocations activations bound (.element value) origin? :=
  nofun

theorem Leads.extend (leads : Leads module allocations activations bound slot origin?)
    (same : ∀ index < bound, allocations'[index]? = allocations[index]?) (more : bound ≤ bound') :
    Leads module allocations' activations bound' slot origin? := by
  intro pointer held
  obtain ⟨within, origin, recorded, found, visible⟩ := leads pointer held
  exact ⟨within.trans_le more, origin, recorded, (same _ within).trans found, visible⟩

theorem Leads.visible (leads : Leads module allocations activations bound slot origin?)
    {others : List Nat} (sublist : activations ⊆ others) :
    Leads module allocations others bound slot origin? := by
  intro pointer held
  obtain ⟨within, origin, recorded, found, visible⟩ := leads pointer held
  refine ⟨within, origin, recorded, found, ?_⟩
  cases origin with
  | standing index => exact visible
  | buffer position => trivial
  | reserved activation step => exact sublist visible

theorem Follows.extend (follows : Follows module allocations activations bound registers shade)
    (same : ∀ index < bound, allocations'[index]? = allocations[index]?) (more : bound ≤ bound') :
    Follows module allocations' activations bound' registers shade :=
  fun register slot held => (follows register slot held).extend same more

/-- A register is defined, in the frame and in the ledger. -/
theorem Follows.define (follows : Follows module allocations activations bound registers shade)
    {target : Register} (leads : Leads module allocations activations bound slot origin?) :
    Follows module allocations activations bound (registers.setIfInBounds target (some slot))
      (shade.define target origin?) := by
  intro register other held
  rw [Array.getElem?_setIfInBounds] at held
  by_cases same : target = register
  · subst same
    simp only [if_true] at held
    split at held
    · cases held
      simpa only [Shade.define, if_true] using leads
    · cases held
  · rw [if_neg same] at held
    simp only [Shade.define, if_neg (Ne.symm same)]
    exact follows register other held

theorem Stacked.extend {frames : List Frame} {shades : List Shade}
    (stacked : Stacked module allocations bound frames shades)
    (same : ∀ index < bound, allocations'[index]? = allocations[index]?) :
    Stacked module allocations' bound frames shades := by
  induction stacked with
  | nil bound => exact .nil bound
  | cons floor follows older rest inductionHypothesis =>
      exact .cons floor (follows.extend same (Nat.le_refl _)) older
        (inductionHypothesis fun index below => same index (below.trans_le floor))

end Leads

/-! ### Entries of functions -/

theorem Shade.activation_enter (activation : Nat) (received : List (Register × Option Origin)) :
    (Shade.enter activation received).activation = activation := by
  have kept : ∀ shade : Shade,
      (received.foldl (fun shade pair => shade.define pair.1 pair.2) shade).activation =
        shade.activation := by
    induction received with
    | nil => exact fun _ => rfl
    | cons pair rest inductionHypothesis =>
        exact fun shade => inductionHypothesis (shade.define pair.1 pair.2)
  exact kept _

section Entries

variable {module : Module} {allocations : List Origin} {activations : List Nat} {bound : Nat}

theorem follows_bind {parameters : List Register} {slots : List Slot}
    {origins : List (Option Origin)} {registers filled : Array (Option Slot)} {shade : Shade}
    (received : List.Forall₂ (Leads module allocations activations bound) slots origins)
    (follows : Follows module allocations activations bound registers shade)
    (done : Frame.bind registers (parameters.zip slots) = .ok filled) :
    Follows module allocations activations bound filled
      ((parameters.zip origins).foldl (fun shade pair => shade.define pair.1 pair.2) shade) := by
  induction parameters generalizing slots origins registers shade with
  | nil =>
      cases done
      exact follows
  | cons parameter parameters inductionHypothesis =>
      cases received with
      | nil =>
          cases done
          exact follows
      | cons leads received =>
          simp only [List.zip_cons_cons, Frame.bind] at done
          split at done
          · exact inductionHypothesis received (follows.define leads) done
          · cases done

/-- A function is entered with pointers that lead somewhere. -/
theorem follows_enter {function : Function} {slots : List Slot} {origins : List (Option Origin)}
    {floor : Nat} {frame : Frame} (activation : Nat)
    (received : List.Forall₂ (Leads module allocations activations bound) slots origins)
    (begun : Frame.enter function slots floor = .ok frame) :
    Follows module allocations activations bound frame.registers
      (.enter activation (function.parameters.zip origins)) := by
  obtain ⟨registers, filled, begun⟩ := ok_of_bind begun
  have fresh : Follows module allocations activations bound
      (Array.replicate function.registerTypes.size none)
      { activation := activation
        origins := fun _ => none } := by
    intro register slot held
    rw [Array.getElem?_replicate] at held
    split at held <;> cases held
  have follows := follows_bind received fresh filled
  cases shape : function.blocks with
  | nil => simp only [shape] at begun; cases begun
  | cons entry others =>
      simp only [shape] at begun
      cases begun
      exact follows

/-- What a frame hands over leads where it led in the frame. -/
theorem leads_arguments {frame : Frame} {shade : Shade} {arguments : List Operand}
    {slots : List Slot} (follows : Follows module allocations activations bound frame.registers shade)
    (passed : arguments.mapM frame.argument = .ok slots) :
    List.Forall₂ (Leads module allocations activations bound) slots
      (arguments.map shade.passed) := by
  induction arguments generalizing slots with
  | nil =>
      cases passed
      exact .nil
  | cons argument arguments inductionHypothesis =>
      rw [List.mapM_cons] at passed
      obtain ⟨slot, found, passed⟩ := ok_of_bind passed
      obtain ⟨others, rest, passed⟩ := ok_of_bind passed
      cases passed
      refine .cons ?_ (inductionHypothesis rest)
      cases argument with
      | constant value =>
          cases found
          exact .element value
      | register register =>
          simp only [Frame.argument, Frame.slot] at found
          split at found
          · rename_i held
            cases found
            exact follows register slot (Option.join_eq_some_iff.mp held)
          · cases found

end Entries

/-! ### Effects -/

theorem allocation_of_moved {pointer moved : Pointer} {index : Int} {width : Nat}
    (done : pointer.moved index width = .ok moved) : moved.allocation = pointer.allocation := by
  unfold Pointer.moved at done
  dsimp only at done
  split at done <;> cases done
  rfl

theorem slot_of_pointer {frame : Frame} {register : Register} {pointer : Pointer}
    (found : frame.pointer register = .ok pointer) :
    frame.registers[register]? = some (some (.pointer pointer)) := by
  cases read : frame.slot register with
  | error trap =>
      simp only [Frame.pointer, read] at found
      cases found
  | ok slot =>
      cases slot with
      | element value =>
          simp only [Frame.pointer, read] at found
          cases found
      | pointer place =>
          simp only [Frame.pointer, read] at found
          cases found
          unfold Frame.slot at read
          split at read
          · rename_i held
            cases read
            exact Option.join_eq_some_iff.mp held
          · cases read

/-- What is entered for an instruction other than a call. -/
theorem Ledger.entered_plain (ledger : Ledger) (module : Module) (step : Nat)
    {instruction : Instruction} (plain : Instruction.isCall instruction = false) :
    (ledger.entered module step instruction).waiting = ledger.waiting ∧
      (ledger.entered module step instruction).shade.activation = ledger.shade.activation ∧
      ((ledger.entered module step instruction).allocations = ledger.allocations ∨
        (ledger.entered module step instruction).allocations =
          ledger.allocations ++ [.reserved ledger.shade.activation step]) := by
  cases instruction with
  | alloca target dtype count => exact ⟨rfl, rfl, .inr rfl⟩
  | call name arguments => cases plain
  | _ => exact ⟨rfl, rfl, .inl rfl⟩

/-- The ledger of a frame after an instruction other than a call. -/
theorem follows_effect {module : Module} {ledger : Ledger} {memory : Memory} {frame : Frame}
    {instruction : Instruction} {outcome : Memory × Option (Register × Slot)}
    {activations : List Nat} (step : Nat)
    (counted : ledger.allocations.length = memory.size)
    (globals : ∀ index < module.globals.length,
      ledger.allocations[index]? = some (.standing index))
    (current : ledger.shade.activation ∈ activations)
    (follows : Follows module ledger.allocations activations memory.size frame.registers
      ledger.shade)
    (plain : Instruction.isCall instruction = false)
    (done : effect module memory frame instruction = .ok outcome) :
    (ledger.entered module step instruction).allocations.length = outcome.1.size ∧
      Follows module (ledger.entered module step instruction).allocations activations
        outcome.1.size (frame.defining outcome.2).registers
        (ledger.entered module step instruction).shade := by
  cases instruction with
  | alloca target dtype count =>
      cases done
      have same : ∀ index < memory.size,
          (ledger.allocations ++ [Origin.reserved ledger.shade.activation step])[index]? =
            ledger.allocations[index]? := by
        intro index below
        exact List.getElem?_append_left (below.trans_eq counted.symm)
      have grown := size_allocate memory (Array.replicate (dtype.width * count) 0)
      have more : memory.size ≤ (memory.allocate (Array.replicate (dtype.width * count) 0)).size :=
        grown ▸ Nat.le_succ _
      refine ⟨?_, ?_⟩
      · simp only [Ledger.entered, List.length_append, List.length_singleton, counted, grown]
      · refine (follows.extend same more).define ?_
        rintro pointer ⟨⟩
        refine ⟨?_, _, rfl, ?_, current⟩
        · simp only [Memory.nextPointer, grown]
          omega
        · simp only [Memory.nextPointer, ← counted, List.getElem?_concat_length]
  | address target name =>
      simp only [effect] at done
      split at done
      · rename_i index found
        cases done
        have within : index < module.globals.length :=
          (List.findIdx?_eq_some_iff_getElem.mp found).1
        refine ⟨counted, follows.define ?_⟩
        rintro pointer ⟨⟩
        obtain ⟨below, _⟩ := List.getElem?_eq_some_iff.mp (globals index within)
        refine ⟨below.trans_eq counted, .standing index, ?_, globals index within, within⟩
        rw [found, Option.map_some]
      · cases done
  | offset target base index =>
      obtain ⟨pointer, found, done⟩ := ok_of_bind done
      obtain ⟨_, _, done⟩ := ok_of_bind done
      obtain ⟨_, _, done⟩ := ok_of_bind done
      obtain ⟨moved, shifted, done⟩ := ok_of_bind done
      cases done
      refine ⟨counted, follows.define ?_⟩
      rintro _ ⟨⟩
      rw [allocation_of_moved shifted]
      exact follows base _ (slot_of_pointer found) pointer rfl
  | load target pointer =>
      obtain ⟨_, _, done⟩ := ok_of_bind done
      obtain ⟨_, _, done⟩ := ok_of_bind done
      obtain ⟨_, _, done⟩ := ok_of_bind done
      cases done
      exact ⟨counted, follows.define (.element _)⟩
  | store pointer value =>
      obtain ⟨_, _, done⟩ := ok_of_bind done
      obtain ⟨_, _, done⟩ := ok_of_bind done
      obtain ⟨_, _, done⟩ := ok_of_bind done
      cases done
      simp only [Memory.size_put]
      exact ⟨counted, follows⟩
  | binary target op left right =>
      obtain ⟨_, _, done⟩ := ok_of_bind done
      obtain ⟨_, _, done⟩ := ok_of_bind done
      obtain ⟨_, _, done⟩ := ok_of_bind done
      cases done
      exact ⟨counted, follows.define (.element _)⟩
  | unary target op operand =>
      obtain ⟨_, _, done⟩ := ok_of_bind done
      obtain ⟨_, _, done⟩ := ok_of_bind done
      cases done
      exact ⟨counted, follows.define (.element _)⟩
  | compare target op left right =>
      obtain ⟨_, _, done⟩ := ok_of_bind done
      obtain ⟨_, _, done⟩ := ok_of_bind done
      obtain ⟨_, _, done⟩ := ok_of_bind done
      cases done
      exact ⟨counted, follows.define (.element _)⟩
  | cast target operand dtype =>
      obtain ⟨_, _, done⟩ := ok_of_bind done
      cases done
      exact ⟨counted, follows.define (.element _)⟩
  | move destination source bytes =>
      obtain ⟨_, _, done⟩ := ok_of_bind done
      obtain ⟨_, _, done⟩ := ok_of_bind done
      obtain ⟨_, _, done⟩ := ok_of_bind done
      obtain ⟨_, _, done⟩ := ok_of_bind done
      cases done
      simp only [Memory.size_put]
      exact ⟨counted, follows⟩
  | call name arguments => cases plain

/-! ### Runs -/

/-- The allocations of a ledger are told apart by what made them, and the globals come first. -/
structure Listed (module : Module) (allocations : List Origin) (steps : Nat) : Prop where
  distinct : allocations.Nodup
  globals : ∀ index < module.globals.length, allocations[index]? = some (.standing index)
  past : ∀ activation step, .reserved activation step ∈ allocations → step < steps

namespace Listed

variable {module : Module} {allocations : List Origin} {steps : Nat}

theorem later (listed : Listed module allocations steps) {more : Nat} (after : steps ≤ more) :
    Listed module allocations more :=
  ⟨listed.distinct, listed.globals, fun activation step member =>
    (listed.past activation step member).trans_le after⟩

theorem reserve (listed : Listed module allocations steps) (activation : Nat) :
    Listed module (allocations ++ [.reserved activation steps]) (steps + 1) := by
  refine ⟨?_, ?_, ?_⟩
  · refine List.nodup_append.mpr ⟨listed.distinct, List.nodup_singleton _, ?_⟩
    rintro origin member _ single rfl
    cases List.mem_singleton.mp single
    exact Nat.lt_irrefl _ (listed.past activation steps member)
  · intro index below
    have held := listed.globals index below
    obtain ⟨within, _⟩ := List.getElem?_eq_some_iff.mp held
    rw [List.getElem?_append_left within, held]
  · intro other step member
    rcases List.mem_append.mp member with old | new
    · exact (listed.past other step old).trans (Nat.lt_succ_self _)
    · cases List.mem_singleton.mp new
      exact Nat.lt_succ_self _

theorem take (listed : Listed module allocations steps) {floor : Nat}
    (above : module.globals.length ≤ floor) : Listed module (allocations.take floor) steps := by
  refine ⟨listed.distinct.sublist (List.take_sublist _ _), ?_, ?_⟩
  · intro index below
    rw [List.getElem?_take_of_lt (below.trans_le above), listed.globals index below]
  · exact fun activation step member => listed.past activation step (List.mem_of_mem_take member)

end Listed

/-- The ledger of a state. -/
structure Sound (module : Module) (state : State) (ledger : Ledger) : Prop where
  counted : ledger.allocations.length = state.memory.size
  listed : Listed module ledger.allocations state.steps
  recent : ledger.shade.activation ≤ state.steps
  above : Above module.globals.length state
  stacked : Stacked module ledger.allocations state.memory.size (state.frame :: state.callers)
    (ledger.shade :: ledger.waiting)

theorem Sound.effect {module : Module} {state : State} {ledger : Ledger}
    (sound : Sound module state ledger) {instruction : Instruction} {rest : List Instruction}
    {outcome : Memory × Option (Register × Slot)}
    (found : state.frame.pending = instruction :: rest)
    (plain : Instruction.isCall instruction = false)
    (done : effect module state.memory state.frame instruction = .ok outcome) :
    Sound module ((state.fetched rest).after outcome)
      (ledger.entered module state.steps instruction) := by
  have moves : Moves module state ((state.fetched rest).after outcome) :=
    .effect instruction rest outcome found plain done
  obtain ⟨waiting, activation, grown⟩ := ledger.entered_plain module state.steps plain
  cases sound.stacked with
  | cons floor follows older others =>
      obtain ⟨counted, follows'⟩ := follows_effect state.steps sound.counted sound.listed.globals
        List.mem_cons_self follows plain done
      have listed : Listed module (ledger.entered module state.steps instruction).allocations
          (state.steps + 1) := by
        rcases grown with still | grown
        · rw [still]
          exact sound.listed.later (Nat.le_succ _)
        · rw [grown]
          exact sound.listed.reserve _
      have same : ∀ index < state.memory.size,
          (ledger.entered module state.steps instruction).allocations[index]? =
            ledger.allocations[index]? := by
        intro index below
        rcases grown with still | grown
        · rw [still]
        · rw [grown, List.getElem?_append_left (below.trans_eq sound.counted.symm)]
      refine ⟨counted, listed, ?_, sound.above.moves moves, ?_⟩
      · rw [activation]
        exact sound.recent.trans (Nat.le_succ _)
      · rw [waiting]
        refine .cons ?_ ?_ ?_ ?_
        · simpa [State.after, State.fetched] using floor.trans (size_of_effect done)
        · simpa only [State.after, State.fetched, registers_defining_pending, List.map_cons,
            activation] using follows'
        · rw [activation]
          exact older
        · simpa [State.after, State.fetched] using
            others.extend fun index below => same index (below.trans_le floor)

theorem Sound.call {module : Module} {state : State} {ledger : Ledger}
    (sound : Sound module state ledger) {name : String} {arguments : List Operand}
    {rest : List Instruction} {function : Function} {slots : List Slot} {frame : Frame}
    (found : state.frame.pending = .call name arguments :: rest)
    (named : module.function? name = some function)
    (passed : arguments.mapM state.frame.argument = .ok slots)
    (begun : Frame.enter function slots state.memory.size = .ok frame) :
    Sound module ((state.fetched rest).entered frame)
      (ledger.entered module state.steps (.call name arguments)) := by
  have moves : Moves module state ((state.fetched rest).entered frame) :=
    .call name arguments rest function slots frame found named passed begun
  have entered : ledger.entered module state.steps (.call name arguments) =
      { ledger with
        shade := .enter (state.steps + 1)
          (function.parameters.zip (arguments.map ledger.shade.passed))
        waiting := ledger.shade :: ledger.waiting } := by
    simp only [Ledger.entered, named]
  rw [entered]
  cases sound.stacked with
  | cons floor follows older others =>
      refine ⟨sound.counted, sound.listed.later (Nat.le_succ _),
        (Shade.activation_enter _ _).le, sound.above.moves moves, ?_⟩
      have received := leads_arguments follows passed
      refine .cons (floor_of_enter begun).le ?_ ?_ ?_
      · refine follows_enter _ (received.imp fun slot origin leads => ?_) begun
        exact leads.visible (List.subset_cons_self _ _)
      · intro other member
        rw [Shade.activation_enter]
        refine Nat.lt_succ_of_le ?_
        rcases List.mem_cons.mp member with rfl | waiting
        · exact sound.recent
        · exact ((older other waiting).le).trans sound.recent
      · have base : ((state.fetched rest).entered frame).frame.floor = state.memory.size :=
          floor_of_enter begun
        rw [base]
        exact .cons floor follows older others

theorem Sound.goto {module : Module} {state : State} {ledger : Ledger} {block : Block}
    (sound : Sound module state ledger) (moves : Moves module state (state.goto block)) :
    Sound module (state.goto block) ledger := by
  refine ⟨sound.counted, sound.listed, sound.recent, sound.above.moves moves, ?_⟩
  cases sound.stacked with
  | cons floor follows older others => exact .cons floor follows older others

theorem Sound.leave {module : Module} {state : State} {ledger : Ledger}
    (sound : Sound module state ledger) {caller : Frame} {callers : List Frame}
    (found : state.frame.position = ⟨[], some .leave⟩)
    (waiting : state.callers = caller :: callers) :
    Sound module { state.released with frame := caller, callers := callers }
      (ledger.left state.frame.floor) := by
  have moves : Moves module state { state.released with frame := caller, callers := callers } :=
    .leave caller callers found waiting
  have lower := sound.above.floors state.frame List.mem_cons_self
  obtain ⟨allocations, shade, shades⟩ := ledger
  cases sound.stacked with
  | cons floor follows older others =>
      rw [waiting] at others
      cases others with
      | @cons _ _ shade' _ shades' floor' follows' older' others' =>
          have size : (state.memory.release state.frame.floor).size = state.frame.floor :=
            size_release floor
          refine ⟨?_, sound.listed.take lower, ?_, sound.above.moves moves, ?_⟩
          · have counted : allocations.length = state.memory.size := sound.counted
            simp only [Ledger.left, State.released, size, List.length_take]
            omega
          · exact ((older shade' List.mem_cons_self).le).trans sound.recent
          · simp only [Ledger.left, State.released, size]
            exact Stacked.extend (.cons floor' follows' older' others') fun index below =>
              List.getElem?_take_of_lt below

theorem Sound.moves {module : Module} {state next : State} {ledger : Ledger}
    (sound : Sound module state ledger) (moves : Moves module state next) :
    Sound module next (ledger.next module state) := by
  have terminator : ∀ {terminator? : Option Terminator},
      state.frame.position = ⟨[], terminator?⟩ →
        state.frame.pending = [] ∧ state.frame.block.terminator? = terminator? :=
    fun found => ⟨congrArg Position.pending found, congrArg Position.terminator? found⟩
  have kept := moves
  cases moves with
  | effect instruction rest outcome found plain done =>
      simp only [Ledger.next, found]
      exact sound.effect found plain done
  | call name arguments rest function slots entered found named passed begun =>
      simp only [Ledger.next, found]
      exact sound.call found named passed begun
  | jump target block found known =>
      obtain ⟨idle, closed⟩ := terminator found
      simp only [Ledger.next, idle, closed]
      exact sound.goto kept
  | branch condition onTrue onFalse hint? value block found decided known =>
      obtain ⟨idle, closed⟩ := terminator found
      simp only [Ledger.next, idle, closed]
      exact sound.goto kept
  | leave caller callers found waiting =>
      obtain ⟨idle, closed⟩ := terminator found
      simp only [Ledger.next, idle, closed]
      exact sound.leave found waiting

/-- Moves one after the other, with the entries that they make. -/
abbrev Records (module : Module) : State × Ledger → State × Ledger → Prop :=
  Relation.ReflTransGen (Recorded module)

theorem Sound.records {module : Module} {before after : State × Ledger}
    (sound : Sound module before.1 before.2) (records : Records module before after) :
    Sound module after.1 after.2 := by
  induction records with
  | refl => exact sound
  | tail _ recorded inductionHypothesis =>
      obtain ⟨moves, entries⟩ := recorded
      rw [entries]
      exact inductionHypothesis.moves moves

/-- A ledger is kept along every run. -/
theorem exists_records {module : Module} {state last : State}
    (reaches : Reaches module state last) (ledger : Ledger) :
    ∃ final, Records module (state, ledger) (last, final) := by
  induction reaches with
  | refl => exact ⟨ledger, .refl⟩
  | @tail middle last _ moves inductionHypothesis =>
      obtain ⟨between, records⟩ := inductionHypothesis
      exact ⟨between.next module middle, records.tail ⟨moves, rfl⟩⟩

/-- Some moves made one after the other, with their entries. -/
def follow (module : Module) : Nat → State × Ledger → Option (State × Ledger)
  | 0, reached => some reached
  | count + 1, (state, ledger) =>
      match advance module state with
      | .ok true next => follow module count (next, ledger.next module state)
      | _ => none

theorem records_of_follow {module : Module} {count : Nat} {before after : State × Ledger}
    (followed : follow module count before = some after) : Records module before after := by
  induction count generalizing before with
  | zero =>
      cases followed
      exact .refl
  | succ count inductionHypothesis =>
      obtain ⟨state, ledger⟩ := before
      cases step : advance module state with
      | error trap final =>
          simp only [follow, step] at followed
          cases followed
      | ok goes next =>
          cases goes with
          | false =>
              simp only [follow, step] at followed
              cases followed
          | true =>
              simp only [follow, step] at followed
              exact .head ⟨moves_of_advance step, rfl⟩ (inductionHypothesis followed)

/-- No access of a state whose ledger is sound dangles. -/
theorem Sound.never_dangling {module : Module} {state final : State} {ledger : Ledger}
    {trap : Trap} (sound : Sound module state ledger)
    (step : advance module state = .error trap final) : trap ≠ .access .dangling := by
  have plain : ∀ trap : Trap, trap.isPlain = true → trap ≠ .access .dangling := by
    rintro _ plain rfl
    cases plain
  have entered : ∀ function ∈ module.functions, ∀ slots floor,
      Fails (· ≠ .access .dangling) (Frame.enter function slots floor) :=
    fun function _ => Fails.enter (fun _ _ => nofun) function
  refine @advance_fails module (· ≠ .access .dangling) state final trap plain ?_ entered step
  rintro register place found bytes fault refused ⟨⟩
  cases sound.stacked with
  | cons floor follows older others =>
      obtain ⟨within, _⟩ := follows register _ (slot_of_pointer found) place rfl
      obtain ⟨image, held⟩ : ∃ image, state.memory.allocations[place.allocation]? = some image :=
        ⟨_, Array.getElem?_eq_getElem within⟩
      simp only [Memory.check, held] at refused
      split at refused <;> cases refused

/-- Every pointer in a register of a live frame leads to the allocation that it was made for: a
global, a buffer of the caller, or one that the frame or a caller of it has reserved. -/
structure Grounded (module : Module) (state : State) (ledger : Ledger) : Prop where
  counted : ledger.allocations.length = state.memory.size
  distinct : ledger.allocations.Nodup
  past : ∀ activation step, .reserved activation step ∈ ledger.allocations → step < state.steps
  frames : ledger.waiting.length = state.callers.length
  activations : ((ledger.shade :: ledger.waiting).map Shade.activation).Pairwise (· > ·)
  pointers : ∀ (level : Nat) (frame : Frame) (shade : Shade) (register : Register)
    (pointer : Pointer), (state.frame :: state.callers)[level]? = some frame →
      (ledger.shade :: ledger.waiting)[level]? = some shade →
        frame.slot register = .ok (.pointer pointer) →
          ∃ origin, shade.origins register = some origin ∧
            ledger.allocations[pointer.allocation]? = some origin ∧
              origin.Visible module
                (((ledger.shade :: ledger.waiting).drop level).map Shade.activation)

namespace Stacked

variable {module : Module} {allocations : List Origin} {bound : Nat} {frames : List Frame}
  {shades : List Shade}

theorem length (stacked : Stacked module allocations bound frames shades) :
    shades.length = frames.length := by
  induction stacked with
  | nil bound => rfl
  | cons floor follows older rest inductionHypothesis =>
      exact congrArg Nat.succ inductionHypothesis

theorem activations (stacked : Stacked module allocations bound frames shades) :
    (shades.map Shade.activation).Pairwise (· > ·) := by
  induction stacked with
  | nil bound => exact .nil
  | cons floor follows older rest inductionHypothesis =>
      exact .cons (List.forall_mem_map.mpr older) inductionHypothesis

theorem pointers (stacked : Stacked module allocations bound frames shades) {level : Nat}
    {frame : Frame} {shade : Shade} {register : Register} {pointer : Pointer}
    (live : frames[level]? = some frame) (entered : shades[level]? = some shade)
    (held : frame.slot register = .ok (.pointer pointer)) :
    ∃ origin, shade.origins register = some origin ∧
      allocations[pointer.allocation]? = some origin ∧
        origin.Visible module ((shades.drop level).map Shade.activation) := by
  induction stacked generalizing level with
  | nil bound => cases live
  | cons floor follows older rest inductionHypothesis =>
      cases level with
      | zero =>
          cases live
          cases entered
          have found : frame.pointer register = .ok pointer := by
            rw [Frame.pointer, held]
          obtain ⟨_, leads⟩ := follows register _ (slot_of_pointer found) pointer rfl
          exact leads
      | succ level => exact inductionHypothesis live entered

end Stacked

theorem Sound.grounded {module : Module} {state : State} {ledger : Ledger}
    (sound : Sound module state ledger) : Grounded module state ledger where
  counted := sound.counted
  distinct := sound.listed.distinct
  past := sound.listed.past
  frames := Nat.succ.inj sound.stacked.length
  activations := sound.stacked.activations
  pointers := fun _ _ _ _ _ live entered held => sound.stacked.pointers live entered held

end TensorGraph.Machine

namespace TensorGraph

open Code Machine

/-! ### The first state of a call -/

/-- What the arguments of a call become: each buffer an allocation of its own. -/
def Argument.origins : Nat → List Argument → List (Option Origin)
  | _, [] => []
  | position, .buffer _ :: rest => some (.buffer position) :: origins (position + 1) rest
  | position, .scalar _ :: rest => none :: origins position rest

/-- The ledger with which a call begins. -/
def Engine.ledger (engine : Engine) (arguments : List Argument) (state : Machine.State) : Ledger :=
  { allocations := (List.range engine.memory.size).map .standing ++
      (Argument.origins 0 arguments).reduceOption
    shade := .enter 0 (state.frame.function.parameters.zip (Argument.origins 0 arguments))
    waiting := [] }

theorem buffer_of_mem_origins {arguments : List Argument} {position : Nat} {origin : Origin}
    (member : origin ∈ (Argument.origins position arguments).reduceOption) :
    ∃ index, position ≤ index ∧ origin = .buffer index := by
  induction arguments generalizing position with
  | nil => cases member
  | cons argument arguments inductionHypothesis =>
      cases argument with
      | scalar value => exact inductionHypothesis member
      | buffer storage =>
          rw [Argument.origins, List.reduceOption_cons_of_some] at member
          rcases List.mem_cons.mp member with rfl | later
          · exact ⟨position, Nat.le_refl _, rfl⟩
          · obtain ⟨index, above, same⟩ := inductionHypothesis later
            exact ⟨index, (Nat.le_succ _).trans above, same⟩

theorem nodup_origins (position : Nat) (arguments : List Argument) :
    (Argument.origins position arguments).reduceOption.Nodup := by
  induction arguments generalizing position with
  | nil => exact List.nodup_nil
  | cons argument arguments inductionHypothesis =>
      cases argument with
      | scalar value => exact inductionHypothesis position
      | buffer storage =>
          rw [Argument.origins, List.reduceOption_cons_of_some]
          refine List.nodup_cons.mpr ⟨fun member => ?_, inductionHypothesis _⟩
          obtain ⟨index, above, same⟩ := buffer_of_mem_origins member
          cases same
          exact Nat.not_succ_le_self _ above

/-- Arguments that were laid into memory lead to their buffers. -/
theorem Laid.leads {function : Function} {pairs : List (Argument × Register)}
    {memory laid : Memory} {slots : List Slot} (all : Laid function pairs memory slots laid)
    (module : Module) {known : List Origin} (counted : known.length = memory.size)
    (position : Nat) :
    (known ++ (Argument.origins position (pairs.map Prod.fst)).reduceOption).length = laid.size ∧
      List.Forall₂
        (Leads module (known ++ (Argument.origins position (pairs.map Prod.fst)).reduceOption) [0]
          laid.size) slots (Argument.origins position (pairs.map Prod.fst)) := by
  induction all generalizing known position with
  | done memory => exact ⟨by simpa [Argument.origins] using counted, .nil⟩
  | buffer storage parameter rest memory laid slots typed further inductionHypothesis =>
      have grown : (known ++ [Origin.buffer position]).length =
          (memory.allocate storage.bytes.toArray).size := by
        rw [List.length_append, List.length_singleton, counted, size_allocate]
      obtain ⟨length, leads⟩ := inductionHypothesis grown (position + 1)
      rw [List.append_assoc, List.singleton_append] at length leads
      refine ⟨length, .cons ?_ leads⟩
      rintro pointer ⟨⟩
      have below := further.size_le
      rw [size_allocate] at below
      refine ⟨below, .buffer position, rfl, ?_, trivial⟩
      simp only [Memory.nextPointer, ← counted]
      rw [List.getElem?_append_right (Nat.le_refl _), Nat.sub_self]
      rfl
  | scalar value parameter rest memory laid slots typed _ inductionHypothesis =>
      obtain ⟨length, leads⟩ := inductionHypothesis counted position
      exact ⟨length, .cons (.element value) leads⟩

/-- A call begins with a sound ledger. -/
theorem Prepared.sound {engine : Engine} {name : String} {arguments : List Argument}
    {state : Machine.State} (prepared : Prepared engine name arguments state)
    (held : engine.module.globals.length ≤ engine.memory.size) :
    Sound engine.module state (engine.ledger arguments state) := by
  have above := prepared.above
  obtain ⟨function, slots, laid, frame, found, all, begun, rfl⟩ := prepared.entered
  have standing : ((List.range engine.memory.size).map Origin.standing).length =
      engine.memory.size := by
    rw [List.length_map, List.length_range]
  obtain ⟨length, leads⟩ := all.leads engine.module standing 0
  rw [List.map_fst_zip (function_of_callee found).2.2.ge] at length leads
  simp only [Engine.ledger, function_of_enter begun]
  refine ⟨length, ⟨?_, ?_, ?_⟩, (Shade.activation_enter _ _).le, ?_, ?_⟩
  · refine List.nodup_append.mpr ⟨?_, nodup_origins 0 arguments, ?_⟩
    · exact List.nodup_range.map fun left right same => by injection same
    · rintro origin member _ buffers rfl
      obtain ⟨index, _, rfl⟩ := List.mem_map.mp member
      obtain ⟨_, _, same⟩ := buffer_of_mem_origins buffers
      cases same
  · intro index below
    have within : index < engine.memory.size := below.trans_le held
    rw [List.getElem?_append_left (within.trans_eq standing.symm), List.getElem?_map,
      List.getElem?_range within, Option.map_some]
  · intro activation step member
    rcases List.mem_append.mp member with old | buffers
    · obtain ⟨_, _, same⟩ := List.mem_map.mp old
      cases same
    · obtain ⟨_, _, same⟩ := buffer_of_mem_origins buffers
      cases same
  · exact ⟨held.trans above.size, fun other member => held.trans (above.floors other member)⟩
  · refine .cons (floor_of_enter begun).le ?_ (by simp) (.nil _)
    have follows := follows_enter 0 leads begun
    simpa only [List.map_cons, List.map_nil, Shade.activation_enter] using follows

namespace Engine

/-- Along every run of every call each pointer of a live frame leads to the allocation that it
was made for, and no access dangles. -/
theorem pointers_grounded {module : Module} {engine : Engine} (hosts : Hosts module engine)
    {name : String} {arguments : List Argument} {state : Machine.State}
    (prepared : Prepared engine name arguments state) :
    (∀ reached, Reaches module state reached →
      ∃ ledger, Records module (state, engine.ledger arguments state) (reached, ledger)) ∧
    (∀ reached ledger,
      Records module (state, engine.ledger arguments state) (reached, ledger) →
        Grounded module reached ledger) ∧
    ∀ limit patience final,
      run { module := module, limit := limit } patience state ≠
        .error (.access .dangling) final := by
  obtain ⟨rfl, globals⟩ := hosts.holds
  have held := globals.length_le
  rw [length_globalSizes, Memory.length_sizes] at held
  have sound := prepared.sound held
  refine ⟨fun reached reaches => exists_records reaches _,
    fun reached ledger records => (sound.records records).grounded, ?_⟩
  intro limit patience final ran
  obtain ⟨last, reaches, stops⟩ :=
    stops_of_run { module := engine.module, limit := limit } patience state
  rw [ran] at stops
  obtain ⟨ledger, records⟩ := exists_records reaches (engine.ledger arguments state)
  have later : Sound engine.module last ledger := sound.records records
  cases stops with
  | trapped trap final step => exact later.never_dangling step rfl

/-- A function that reserves memory and calls another one with it, and then with its buffer. -/
def lending : Code.Function :=
  { name := "f"
    parameters := [0]
    registerTypes := #[.pointer .i64, .pointer .i64]
    blocks :=
      [{ id := 0
         label := "entry"
         instructions :=
           [.alloca 1 .i64 1, .call "g" [.register 1], .call "g" [.register 0]]
         terminator? := some .leave }]
    exported := true }

/-- A function that reserves memory. -/
def reserving : Code.Function :=
  { name := "g"
    parameters := [0]
    registerTypes := #[.pointer .i64, .pointer .i64]
    blocks :=
      [{ id := 0
         label := "entry"
         instructions := [.alloca 1 .i64 1]
         terminator? := some .leave }]
    exported := false }

/-- The first state of a call of `lending`. -/
def lent : Machine.State :=
  { memory := { allocations := #[(Storage.singleton (.i64 1)).bytes.toArray] }
    frame :=
      { function := lending
        registers := #[some (.pointer { allocation := 0, offset := 0 }), none]
        block :=
          { id := 0
            label := "entry"
            instructions :=
              [.alloca 1 .i64 1, .call "g" [.register 1], .call "g" [.register 0]]
            terminator? := some .leave }
        pending := [.alloca 1 .i64 1, .call "g" [.register 1], .call "g" [.register 0]]
        floor := 1 }
    callers := []
    steps := 0 }

/-- In its second activation `reserving` takes the place again that it had in its first one, and
the pointer to it is told from the older one. -/
theorem pointers_grounded_lending : ∃ engine reached ledger,
    Hosts (bare [lending, reserving] 0).module engine ∧
      Prepared engine "f" [.buffer (Storage.singleton (.i64 1))] lent ∧
      Records (bare [lending, reserving] 0).module
        (lent, engine.ledger [.buffer (Storage.singleton (.i64 1))] lent) (reached, ledger) ∧
      ledger.allocations = [.buffer 0, .reserved 0 0, .reserved 4 4] ∧
      [0, 1].map ledger.shade.origins = [some (.buffer 0), some (.reserved 4 4)] ∧
      Grounded (bare [lending, reserving] 0).module reached ledger := by
  have hosts : Hosts (bare [lending, reserving] 0).module
      (bare [lending, reserving] standardLimit) :=
    .made rfl
  have prepared : Prepared (bare [lending, reserving] standardLimit) "f"
      [.buffer (Storage.singleton (.i64 1))] lent :=
    ⟨lending, _, _, lent.frame, rfl, .buffer _ _ _ _ _ _ rfl (.done _), rfl, rfl⟩
  obtain ⟨reached, ledger, followed, allocations, origins⟩ : ∃ reached ledger,
      follow (bare [lending, reserving] 0).module 6
        (lent, (bare [lending, reserving] standardLimit).ledger
          [.buffer (Storage.singleton (.i64 1))] lent) = some (reached, ledger) ∧
      ledger.allocations = [.buffer 0, .reserved 0 0, .reserved 4 4] ∧
      [0, 1].map ledger.shade.origins = [some (.buffer 0), some (.reserved 4 4)] :=
    ⟨_, _, rfl, rfl, rfl⟩
  have records := records_of_follow followed
  exact ⟨_, reached, ledger, hosts, prepared, records, allocations, origins,
    (pointers_grounded hosts prepared).2.1 reached ledger records⟩

end Engine
end TensorGraph

/-
Simulations of functions and modules.

A function simulates another when control in it follows control in the other:
it runs the same instructions with constants in the place of registers, leaves
instructions out whose result is known or unread, and may take other ways
through empty blocks.  Every optimization of one function is such a simulation,
and this module proves once what all of them preserve.
-/

import TensorGraph.Proofs.Machine.Run
import TensorGraph.Proofs.Optimize.Agreement

namespace TensorGraph.Optimize

open Code Machine

/-- From one position to another by unconditional jumps alone. -/
inductive Jumps (function : Function) : Position → Position → Prop where
  | here (position : Position) : Jumps function position position
  | jump (target : BlockId) (block : Block) (final : Position)
      (known : Frame.blockOf? function target = some block)
      (rest : Jumps function (startOf block) final) :
      Jumps function ⟨[], some (.jump target)⟩ final

theorem Jumps.one {function : Function} {target : BlockId} {block : Block}
    (known : Frame.blockOf? function target = some block) :
    Jumps function ⟨[], some (.jump target)⟩ (startOf block) :=
  .jump target block _ known (.here _)

/-- An instruction may be left out: nobody reads its target, or the target holds a
constant that the instruction computes. -/
def Removable (constants : Constants) (live : Register → Prop) (instruction : Instruction) :
    Prop :=
  ∃ target, instruction.target? = some target ∧
    (¬ live target ∧ constants.lookup target = none ∨
      ∃ value, constants.lookup target = some value ∧
        constants.evaluate? instruction = some (target, value))

/-- How control in `function'` follows control in `function`. -/
structure FunctionSimulation (function function' : Function) where
  constants : Constants
  live : Register → Prop
  follows : Position → Position → Prop
  name : function'.name = function.name
  exported : function'.exported = function.exported
  parameters : function'.parameters = function.parameters
  types : function'.registerTypes = function.registerTypes
  free : ∀ register ∈ function.parameters, constants.lookup register = none
  used : ∀ instruction ∈ function.instructions, ∀ register ∈ instruction.uses, live register
  within : ∀ position position', follows position position' →
    ∀ instruction ∈ position.pending, instruction ∈ function.instructions
  entry : ∀ block blocks, function.blocks = block :: blocks →
    ∃ block' blocks' position', function'.blocks = block' :: blocks' ∧
      Jumps function' (startOf block') position' ∧ follows (startOf block) position'
  instruction : ∀ instruction pending terminator? position',
    follows ⟨instruction :: pending, terminator?⟩ position' →
    (Removable constants live instruction ∧ follows ⟨pending, terminator?⟩ position') ∨
      ∃ pending' terminator'?,
        Jumps function' position'
          ⟨instruction.mapOperands constants.substitute :: pending', terminator'?⟩ ∧
        follows ⟨pending, terminator?⟩ ⟨pending', terminator'?⟩ ∧
        ∀ target, instruction.target? = some target → constants.lookup target = none
  jump : ∀ target position', follows ⟨[], some (.jump target)⟩ position' →
    ∀ block, Frame.blockOf? function target = some block →
    ∃ next, Jumps function' position' next ∧ follows (startOf block) next
  branch : ∀ condition onTrue onFalse hint? position',
    follows ⟨[], some (.branch condition onTrue onFalse hint?)⟩ position' →
    (∃ value, constants.value? condition = some value ∧
      ∀ block, Frame.blockOf? function (if value.isTrue then onTrue else onFalse) = some block →
      ∃ next, Jumps function' position' next ∧ follows (startOf block) next) ∨
    ((∀ register, condition.register? = some register → live register) ∧
      ∃ onTrue' onFalse' hint'?,
        Jumps function' position'
          ⟨[], some (.branch (constants.substitute condition) onTrue' onFalse' hint'?)⟩ ∧
        ∀ side : Bool, ∀ block,
          Frame.blockOf? function (if side then onTrue else onFalse) = some block →
          ∃ block' next,
            Frame.blockOf? function' (if side then onTrue' else onFalse') = some block' ∧
            Jumps function' (startOf block') next ∧ follows (startOf block) next)
  leave : ∀ position', follows ⟨[], some .leave⟩ position' →
    Jumps function' position' ⟨[], some .leave⟩
  stored : ∀ position position', follows position position' → ∀ pointer register,
    constants.lookup register = none → .store pointer (.register register) ∈ position.pending →
    .store pointer (.register register) ∈ position'.pending

/-- Some function simulates another. -/
def Simulates (function function' : Function) : Prop :=
  Nonempty (FunctionSimulation function function')

/-- A module that simulates another: the functions that may be called are simulated, and
the globals whose address may be taken are still there. -/
structure ModuleSimulation (module module' : Module) where
  globals : Renaming
  called : ∀ function ∈ module.functions, ∀ name ∈ function.callees, ∀ callee,
    module.function? name = some callee →
    ∃ callee', module'.function? name = some callee' ∧ Simulates callee callee'
  exported : ∀ name function, module.function? name = some function → function.exported = true →
    ∃ function', module'.function? name = some function' ∧ Simulates function function'
  addressed : ∀ function ∈ module.functions, ∀ name ∈ function.referencedGlobals, ∀ index,
    globalIndex? module name = some index →
    ∃ index', globalIndex? module' name = some index' ∧ globals index = some index'
  increasing : ∀ first second first' second', globals first = some first' →
    globals second = some second' → first < second → first' < second'
  bounds : ∀ index index', globals index = some index' →
    index < module.globals.length ∧ index' < module'.globals.length
  kept : ∀ name global, module'.global? name = some global →
    module.global? name = some global ∧
      ∃ index index', globalIndex? module name = some index ∧
        globalIndex? module' name = some index' ∧ globals index = some index'
  alike : ∀ index index', globals index = some index' →
    module'.globals[index']? = module.globals[index]?

variable {module module' : Module}

/-- Two frames of runs that go alike.  The allocations in `base` are older than both runs
and keep their counterparts. -/
structure FrameRelation (module : Module) (base mapping : Renaming) (frame frame' : Frame) :
    Prop where
  known : frame.function ∈ module.functions
  simulated : ∃ simulation : FunctionSimulation frame.function frame'.function,
    simulation.follows frame.position frame'.position ∧
      Agreement simulation.constants simulation.live mapping frame frame'
  pinned : ∀ allocation counterpart, base allocation = some counterpart →
    mapping allocation = some counterpart ∧ allocation < frame.floor
  floors : ∀ allocation counterpart, mapping allocation = some counterpart →
    (allocation < frame.floor ↔ counterpart < frame'.floor)

theorem FrameRelation.of {base mapping : Renaming}
    {frame frame' : Frame} {function function' : Function} (running : frame.function = function)
    (running' : frame'.function = function') (known : function ∈ module.functions)
    (simulation : FunctionSimulation function function')
    (follows : simulation.follows frame.position frame'.position)
    (agreement : Agreement simulation.constants simulation.live mapping frame frame')
    (pinned : ∀ allocation counterpart, base allocation = some counterpart →
      mapping allocation = some counterpart ∧ allocation < frame.floor)
    (floors : ∀ allocation counterpart, mapping allocation = some counterpart →
      (allocation < frame.floor ↔ counterpart < frame'.floor)) :
    FrameRelation module base mapping frame frame' := by
  subst running running'
  exact ⟨known, ⟨simulation, follows, agreement⟩, pinned, floors⟩

/-- The frames that wait, with the renaming as it was when the call above them began. -/
def StackRelation (module : Module) (base : Renaming) :
    Renaming → Nat → Nat → List Frame → List Frame → Prop
  | _, _, _, [], [] => True
  | mapping, floor, floor', frame :: frames, frame' :: frames' =>
      FrameRelation module base (mapping.below floor) frame frame' ∧ frame.floor ≤ floor ∧
        frame'.floor ≤ floor' ∧
        StackRelation module base (mapping.below floor) frame.floor frame'.floor frames frames'
  | _, _, _, _, _ => False

/-- Two states of runs that go alike. -/
structure StateRelation (link : ModuleSimulation module module') (base : Renaming)
    (state state' : State) : Prop where
  globals : ∀ index index', link.globals index = some index' → base index = some index'
  mapped : ∃ mapping, MemoryRelation mapping state.memory state'.memory ∧
    FrameRelation module base mapping state.frame state'.frame ∧
    StackRelation module base mapping state.frame.floor state'.frame.floor state.callers state'.callers
  floor : state.frame.floor ≤ state.memory.size
  floor' : state'.frame.floor ≤ state'.memory.size
  steps : state'.steps ≤ state.steps

theorem StackRelation.congr {base mapping mapping' : Renaming} {floor floor' : Nat} {frames frames' : List Frame}
    (same : mapping.below floor = mapping'.below floor)
    (related : StackRelation module base mapping floor floor' frames frames') :
    StackRelation module base mapping' floor floor' frames frames' := by
  cases frames with
  | nil =>
      cases frames' with
      | nil => trivial
      | cons frame' frames' => exact related
  | cons frame frames =>
      cases frames' with
      | nil => exact related
      | cons frame' frames' =>
          unfold StackRelation at related ⊢
          rw [same] at related
          exact related

/-- Frames that differ in their position alone. -/
structure SameActivation (frame other : Frame) : Prop where
  function : other.function = frame.function
  registers : other.registers = frame.registers
  floor : other.floor = frame.floor

theorem Jumps.reaches {function : Function} {start final : Position}
    (jumps : Jumps function start final) (module : Module) (state : State)
    (running : state.frame.function = function) (located : state.frame.position = start) :
    ∃ frame, Reaches module state { state with frame := frame } ∧ frame.position = final ∧
      SameActivation state.frame frame := by
  induction jumps generalizing state with
  | here position => exact ⟨state.frame, .refl, located, rfl, rfl, rfl⟩
  | jump target block final known rest inductionHypothesis =>
      subst running
      obtain ⟨frame, reaches, there, same⟩ :=
        inductionHypothesis (state.goto block) rfl rfl
      refine ⟨frame, .head (.jump target block located known) reaches, there, ?_⟩
      exact ⟨same.function, same.registers, same.floor⟩

theorem Agreement.congr {constants : Constants} {live : Register → Prop} {mapping : Renaming}
    {frame frame' other other' : Frame}
    (agreement : Agreement constants live mapping frame frame')
    (types : other.function.registerTypes = frame.function.registerTypes)
    (registers : other.registers = frame.registers)
    (types' : other'.function.registerTypes = frame'.function.registerTypes)
    (registers' : other'.registers = frame'.registers) :
    Agreement constants live mapping other other' := by
  refine ⟨by rw [types, types', agreement.types], by rw [registers, registers', agreement.size],
    ?_, ?_⟩
  · intro register value slot known found
    refine agreement.constant register value slot known ?_
    simpa only [Frame.slot, registers] using found
  · intro register slot alive unknown found
    have found : frame.slot register = .ok slot := by
      simpa only [Frame.slot, registers] using found
    obtain ⟨slot', found', related⟩ := agreement.register register slot alive unknown found
    refine ⟨slot', ?_, related⟩
    simpa only [Frame.slot, registers'] using found'

/-! ### Calls -/

/-- Two rows of registers hold the same up to a renaming, and only `defined` ones hold
anything. -/
structure RegistersRelation (mapping : Renaming) (defined : Register → Prop)
    (registers registers' : Array (Option Slot)) : Prop where
  size : registers'.size = registers.size
  held : ∀ register slot, registers[register]?.join = some slot → defined register ∧
    ∃ slot', registers'[register]?.join = some slot' ∧ SlotRelation mapping slot slot'

theorem RegistersRelation.bind {mapping : Renaming} {defined : Register → Prop}
    {slots slots' : List Slot} (related : List.Forall₂ (SlotRelation mapping) slots slots')
    (parameters : List Register) (allowed : ∀ register ∈ parameters, defined register)
    {registers registers' bound : Array (Option Slot)}
    (start : RegistersRelation mapping defined registers registers')
    (done : Frame.bind registers (parameters.zip slots) = .ok bound) :
    ∃ bound', Frame.bind registers' (parameters.zip slots') = .ok bound' ∧
      RegistersRelation mapping defined bound bound' := by
  induction parameters generalizing slots slots' registers registers' with
  | nil =>
      cases done
      exact ⟨registers', rfl, start⟩
  | cons parameter parameters inductionHypothesis =>
      cases related with
      | nil =>
          cases done
          exact ⟨registers', rfl, start⟩
      | cons first rest =>
          rename_i slot slot' slots slots'
          simp only [List.zip_cons_cons, Frame.bind] at done ⊢
          by_cases within : parameter < registers.size
          · rw [if_pos within] at done
            rw [if_pos (by rw [start.size]; exact within)]
            refine inductionHypothesis rest
              (fun register member => allowed register (List.mem_cons_of_mem _ member)) ?_ done
            refine ⟨by simp [start.size], ?_⟩
            intro register held found
            by_cases same : parameter = register
            · subst same
              rw [Array.getElem?_setIfInBounds_self, if_pos within] at found
              cases found
              refine ⟨allowed parameter (List.mem_cons_self ..), slot', ?_, first⟩
              rw [Array.getElem?_setIfInBounds_self,
                if_pos (by rw [start.size]; exact within)]
              rfl
            · rw [Array.getElem?_setIfInBounds_ne same] at found ⊢
              exact start.held register held found
          · rw [if_neg within] at done
            cases done

theorem enter_related {function function' : Function}
    (simulation : FunctionSimulation function function') {mapping : Renaming}
    {slots slots' : List Slot} (related : List.Forall₂ (SlotRelation mapping) slots slots')
    {floor : Nat} (floor' : Nat) {frame : Frame}
    (entered : Frame.enter function slots floor = .ok frame) :
    ∃ frame' block blocks block' blocks', Frame.enter function' slots' floor' = .ok frame' ∧
      function.blocks = block :: blocks ∧ function'.blocks = block' :: blocks' ∧
      frame.position = startOf block ∧ frame'.position = startOf block' ∧
      frame.function = function ∧ frame'.function = function' ∧
      frame.floor = floor ∧ frame'.floor = floor' ∧
      Agreement simulation.constants simulation.live mapping frame frame' := by
  obtain ⟨registers, bound, entered⟩ := ok_of_bind entered
  cases shape : function.blocks with
  | nil => simp [shape] at entered
  | cons block blocks =>
      obtain ⟨block', blocks', position', shape', _, _⟩ := simulation.entry block blocks shape
      have start : RegistersRelation mapping (fun register => register ∈ function.parameters)
          (Array.replicate function.registerTypes.size none)
          (Array.replicate function'.registerTypes.size none) := by
        refine ⟨by simp [simulation.types], ?_⟩
        intro register slot found
        rw [Array.getElem?_replicate] at found
        split at found <;> cases found
      obtain ⟨registers', bound', held⟩ :=
        start.bind related function.parameters (fun _ member => member) bound
      simp only [shape] at entered
      cases entered
      let frame' : Frame :=
        { function := function'
          registers := registers'
          block := block'
          pending := block'.instructions
          floor := floor' }
      refine ⟨frame', block, blocks, block', blocks', ?_, rfl, shape', rfl, rfl, rfl, rfl, rfl,
        rfl, ?_⟩
      · simp only [Frame.enter, simulation.parameters, bound', shape', bind, Except.bind]
        rfl
      · refine ⟨simulation.types, held.size, ?_, ?_⟩
        · intro register value slot known found
          simp only [Frame.slot] at found
          split at found
          · rename_i looked
            rw [simulation.free register (held.held register _ looked).1] at known
            cases known
          · cases found
        · intro register slot alive unknown found
          simp only [Frame.slot] at found ⊢
          split at found
          · rename_i looked
            cases found
            obtain ⟨_, slot', looked', related⟩ := held.held register _ looked
            exact ⟨slot', by rw [looked'], related⟩
          · cases found

/-! ### One move -/

theorem mem_referencedGlobals {function : Function} {target : Register} {name : String}
    (member : .address target name ∈ function.instructions) :
    name ∈ function.referencedGlobals :=
  List.mem_filterMap.mpr ⟨_, member, rfl⟩

theorem mem_callees {function : Function} {name : String} {arguments : List Operand}
    (member : .call name arguments ∈ function.instructions) : name ∈ function.callees :=
  List.mem_filterMap.mpr ⟨_, member, rfl⟩

@[simp]
theorem isCall_mapOperands (change : Operand → Operand) (instruction : Instruction) :
    Instruction.isCall (instruction.mapOperands change) = Instruction.isCall instruction := by
  cases instruction <;> rfl

variable {link : ModuleSimulation module module'} {base : Renaming} {state state' next : State}

/-- Following an effect that is left out, nothing moves. -/
theorem related_of_removed {mapping : Renaming}
    (shared : MemoryRelation mapping state.memory state'.memory)
    (frames : FrameRelation module base mapping state.frame state'.frame)
    (stack : StackRelation module base mapping state.frame.floor state'.frame.floor state.callers
      state'.callers)
    (globals : ∀ index index', link.globals index = some index' → base index = some index')
    (floor : state.frame.floor ≤ state.memory.size)
    (floor' : state'.frame.floor ≤ state'.memory.size) (steps : state'.steps ≤ state.steps)
    {simulation : FunctionSimulation state.frame.function state'.frame.function}
    (agreement : Agreement simulation.constants simulation.live mapping state.frame state'.frame)
    {instruction : Instruction} {rest : List Instruction}
    {outcome : Memory × Option (Register × Slot)}
    (done : effect module state.memory state.frame instruction = .ok outcome)
    (removable : Removable simulation.constants simulation.live instruction)
    (follows : simulation.follows ⟨rest, state.frame.block.terminator?⟩ state'.frame.position) :
    StateRelation link base ((state.fetched rest).after outcome) state' := by
  obtain ⟨target, defines, unread⟩ := removable
  obtain ⟨allocates, slot, defined⟩ := effect_of_pure defines done
  rcases outcome with ⟨memory, definition⟩
  subst defined
  have sharedAfter : MemoryRelation mapping memory state'.memory := by
    rcases allocates with same | ⟨image, grown⟩
    · rw [show memory = state.memory from same]
      exact shared
    · rw [show memory = state.memory.allocate image from grown]
      exact shared.allocateLeft image
  have floorAfter : state.frame.floor ≤ memory.size := by
    rcases allocates with same | ⟨image, grown⟩
    · rw [show memory = state.memory from same]
      exact floor
    · rw [show memory = state.memory.allocate image from grown, size_allocate]
      omega
  have agreementAfter : Agreement simulation.constants simulation.live mapping
      (state.frame.define target slot) state'.frame := by
    rcases unread with ⟨dead, unknown⟩ | ⟨value, known, evaluated⟩
    · refine agreement.defineLeft (.inl dead) ?_
      intro value known
      rw [unknown] at known
      cases known
    · have same := agreement.evaluated evaluated done
      have element : slot = .element value := by
        injection same with _ same
        injection same with same
        injection same
      refine agreement.defineLeft (.inr ⟨value, known, element⟩) ?_
      intro other again
      rw [known] at again
      cases again
      exact element
  refine ⟨globals, ⟨mapping, sharedAfter, ⟨frames.known, ⟨simulation, follows, ?_⟩, frames.pinned,
    frames.floors⟩, stack⟩, floorAfter, floor', Nat.le_succ_of_le steps⟩
  exact agreementAfter.congr rfl rfl rfl rfl

theorem step_effect (related : StateRelation link base state state')
    {instruction : Instruction} {rest : List Instruction}
    {outcome : Memory × Option (Register × Slot)}
    (found : state.frame.pending = instruction :: rest)
    (plain : Instruction.isCall instruction = false)
    (done : effect module state.memory state.frame instruction = .ok outcome) :
    ∃ next', Reaches module' state' next' ∧
      StateRelation link base ((state.fetched rest).after outcome) next' := by
  obtain ⟨globals, ⟨mapping, shared, frames, stack⟩, floor, floor', steps⟩ := related
  obtain ⟨simulation, follows, agreement⟩ := frames.simulated
  have located : state.frame.position = ⟨instruction :: rest, state.frame.block.terminator?⟩ := by
    rw [Frame.position, found]
  rw [located] at follows
  rcases simulation.instruction _ _ _ _ follows with ⟨removable, after⟩ | ⟨rest', terminator'?,
    jumps, after, varies⟩
  · exact ⟨state', .refl, related_of_removed shared frames stack globals floor floor' steps agreement done
      removable after⟩
  · have member := simulation.within _ _ follows instruction (List.mem_cons_self ..)
    obtain ⟨frame', reaches, there, same⟩ := jumps.reaches module' state' rfl rfl
    have agreementThere : Agreement simulation.constants simulation.live mapping state.frame
        frame' :=
      agreement.congr rfl rfl (by rw [same.function]) same.registers
    obtain ⟨wider, outcome', done', grown, sharedAfter, defined⟩ :=
      agreementThere.effect module module' shared instruction
        (simulation.used instruction member)
        (by
          rintro target name index rfl known
          obtain ⟨index', known', renamed⟩ := link.addressed state.frame.function frames.known
            name (mem_referencedGlobals member) index known
          exact ⟨index', known', (frames.pinned _ _ (globals index index' renamed)).1⟩)
        done
    have contained : ∀ allocation counterpart, mapping allocation = some counterpart →
        wider allocation = some counterpart := by
      intro allocation counterpart renamed
      rcases grown with rfl | rfl
      · exact renamed
      · have within := (shared.bounds renamed).1
        simp only [Renaming.extend]
        rw [if_neg (by omega)]
        exact renamed
    have pending' := congrArg Position.pending there
    have moves : Moves module' { state' with frame := frame' }
        ((State.fetched { state' with frame := frame' } rest').after outcome') :=
      .effect _ rest' outcome' pending' (by simpa using plain) done'
    have agreementAfter := (agreementThere.mono contained).define defined
      (by
        intro register slot named
        exact varies register (target_of_effect done named))
    have size := size_of_effect done
    have size' := size_of_effect done'
    refine ⟨_, reaches.tail moves, globals, ⟨wider, sharedAfter, ?_, ?_⟩, ?_, ?_,
      Nat.succ_le_succ steps⟩
    · refine FrameRelation.of (by simp [State.after, State.fetched])
        (by simp [State.after, State.fetched, same.function]) frames.known simulation ?_ ?_ ?_ ?_
      · have closed : frame'.block.terminator? = terminator'? :=
          congrArg Position.terminator? there
        simpa [State.after, State.fetched, Frame.position, closed] using after
      · exact agreementAfter.congr (by simp [State.after, State.fetched])
          (by simp [State.after, State.fetched]) (by simp [State.after, State.fetched])
          (by simp [State.after, State.fetched])
      · intro allocation counterpart pinned
        simp only [State.after, State.fetched, floor_defining]
        obtain ⟨renamed, older⟩ := frames.pinned allocation counterpart pinned
        exact ⟨contained _ _ renamed, older⟩
      · intro allocation counterpart renamed
        simp only [State.after, State.fetched, floor_defining, same.floor]
        rcases grown with rfl | rfl
        · exact frames.floors allocation counterpart renamed
        · simp only [Renaming.extend] at renamed
          split at renamed
          · cases renamed
            omega
          · exact frames.floors allocation counterpart renamed
    · simp only [State.after, State.fetched, floor_defining, same.floor]
      refine stack.congr ?_
      rcases grown with rfl | rfl
      · rfl
      · exact (Renaming.below_extend mapping state'.memory.size floor).symm
    · simpa [State.after, State.fetched] using Nat.le_trans floor size
    · simpa [State.after, State.fetched, same.floor] using Nat.le_trans floor' size'

theorem step_call (related : StateRelation link base state state') {name : String}
    {arguments : List Operand} {rest : List Instruction} {function : Function}
    {slots : List Slot} {frame : Frame}
    (found : state.frame.pending = .call name arguments :: rest)
    (named : module.function? name = some function)
    (passed : arguments.mapM state.frame.argument = .ok slots)
    (begun : Frame.enter function slots state.memory.size = .ok frame) :
    ∃ next', Reaches module' state' next' ∧
      StateRelation link base ((state.fetched rest).entered frame) next' := by
  obtain ⟨globals, ⟨mapping, shared, frames, stack⟩, floor, floor', steps⟩ := related
  obtain ⟨simulation, follows, agreement⟩ := frames.simulated
  have located : state.frame.position =
      ⟨.call name arguments :: rest, state.frame.block.terminator?⟩ := by
    rw [Frame.position, found]
  rw [located] at follows
  rcases simulation.instruction _ _ _ _ follows with ⟨⟨target, defines, _⟩, _⟩ | ⟨rest',
    terminator'?, jumps, after, _⟩
  · cases defines
  · have member := simulation.within _ _ follows _ (List.mem_cons_self ..)
    obtain ⟨waiting', reaches, there, same⟩ := jumps.reaches module' state' rfl rfl
    have agreementThere : Agreement simulation.constants simulation.live mapping state.frame
        waiting' :=
      agreement.congr rfl rfl (by rw [same.function]) same.registers
    obtain ⟨slots', passed', relatedSlots⟩ := agreementThere.arguments arguments
      (simulation.used _ member) passed
    obtain ⟨function', named', ⟨callee⟩⟩ := link.called state.frame.function frames.known name
      (mem_callees member) function named
    obtain ⟨frame', block, blocks, block', blocks', begun', shape, shape', start, start', running,
      running', lowest, lowest', agreementInside⟩ :=
      enter_related callee relatedSlots state'.memory.size begun
    have moves : Moves module' { state' with frame := waiting' }
        ((State.fetched { state' with frame := waiting' } rest').entered frame') :=
      .call name _ rest' function' slots' frame' (congrArg Position.pending there) named' passed'
        begun'
    obtain ⟨entry, entries, position', sameShape, inward, followsInside⟩ :=
      callee.entry block blocks shape
    rw [shape'] at sameShape
    injection sameShape with sameEntry _
    subst sameEntry
    obtain ⟨inner', reachesInside, thereInside, sameInside⟩ :=
      inward.reaches module'
        ((State.fetched { state' with frame := waiting' } rest').entered frame') running' start'
    refine ⟨_, (reaches.tail moves).trans reachesInside, globals,
      ⟨mapping, shared, ?_, ?_⟩, ?_, ?_, Nat.succ_le_succ steps⟩
    · refine FrameRelation.of running (sameInside.function.trans running')
        (List.mem_of_find?_eq_some named) callee ?_ ?_ ?_ ?_
      · simpa [State.entered, start, thereInside] using followsInside
      · exact agreementInside.congr rfl rfl (by rw [sameInside.function]; rfl) sameInside.registers
      · intro allocation counterpart pinned
        have renamed := (frames.pinned allocation counterpart pinned).1
        simp only [State.entered, State.fetched, lowest]
        exact ⟨renamed, (shared.bounds renamed).1⟩
      · intro allocation counterpart renamed
        have bounds := shared.bounds renamed
        simp only [State.entered, State.fetched, lowest, sameInside.floor, lowest']
        omega
    · simp only [State.entered, State.fetched, lowest, sameInside.floor, lowest', StackRelation]
      rw [shared.below_size]
      refine ⟨FrameRelation.of rfl same.function frames.known simulation ?_ ?_ frames.pinned ?_,
        floor, ?_, ?_⟩
      · have closed : waiting'.block.terminator? = terminator'? :=
          congrArg Position.terminator? there
        simpa [Frame.position, closed] using after
      · exact agreementThere.congr rfl rfl rfl rfl
      · intro allocation counterpart renamed
        simpa [same.floor] using frames.floors allocation counterpart renamed
      · simpa [same.floor] using floor'
      · rw [same.floor]
        exact stack
    · simp [State.entered, State.fetched, lowest]
    · simp [State.entered, State.fetched, sameInside.floor, lowest']

/-- Where control goes on in a block of the function, it does so on both sides. -/
theorem related_of_goto {mapping : Renaming}
    (shared : MemoryRelation mapping state.memory state'.memory)
    (frames : FrameRelation module base mapping state.frame state'.frame)
    (stack : StackRelation module base mapping state.frame.floor state'.frame.floor state.callers
      state'.callers)
    (globals : ∀ index index', link.globals index = some index' → base index = some index')
    (floor : state.frame.floor ≤ state.memory.size)
    (floor' : state'.frame.floor ≤ state'.memory.size) (steps : state'.steps ≤ state.steps)
    {simulation : FunctionSimulation state.frame.function state'.frame.function}
    (agreement : Agreement simulation.constants simulation.live mapping state.frame state'.frame)
    {block : Block} {frame' : Frame} (same : SameActivation state'.frame frame')
    (follows : simulation.follows (startOf block) frame'.position) :
    StateRelation link base (state.goto block) { state' with frame := frame' } := by
  refine ⟨globals, ⟨mapping, shared, ?_, ?_⟩, floor, ?_, steps⟩
  · refine FrameRelation.of rfl same.function frames.known simulation follows ?_ frames.pinned ?_
    · exact agreement.congr rfl rfl (by rw [same.function]) same.registers
    · intro allocation counterpart renamed
      rw [same.floor]
      exact frames.floors allocation counterpart renamed
  · simp only [same.floor]
    exact stack
  · simpa [same.floor] using floor'

theorem step_jump (related : StateRelation link base state state') {target : BlockId} {block : Block}
    (found : state.frame.position = ⟨[], some (.jump target)⟩)
    (known : Frame.blockOf? state.frame.function target = some block) :
    ∃ next', Reaches module' state' next' ∧ StateRelation link base (state.goto block) next' := by
  obtain ⟨globals, ⟨mapping, shared, frames, stack⟩, floor, floor', steps⟩ := related
  obtain ⟨simulation, follows, agreement⟩ := frames.simulated
  rw [found] at follows
  obtain ⟨position', jumps, after⟩ := simulation.jump target _ follows block known
  obtain ⟨frame', reaches, there, same⟩ := jumps.reaches module' state' rfl rfl
  refine ⟨_, reaches, related_of_goto shared frames stack globals floor floor' steps agreement same ?_⟩
  rw [there]
  exact after

theorem step_branch (related : StateRelation link base state state') {condition : Operand}
    {onTrue onFalse : BlockId} {hint? : Option LoopHint} {value : Literal} {block : Block}
    (found : state.frame.position = ⟨[], some (.branch condition onTrue onFalse hint?)⟩)
    (decided : state.frame.element condition = .ok value)
    (known : Frame.blockOf? state.frame.function (if value.isTrue then onTrue else onFalse) =
      some block) :
    ∃ next', Reaches module' state' next' ∧ StateRelation link base (state.goto block) next' := by
  obtain ⟨globals, ⟨mapping, shared, frames, stack⟩, floor, floor', steps⟩ := related
  obtain ⟨simulation, follows, agreement⟩ := frames.simulated
  rw [found] at follows
  rcases simulation.branch condition onTrue onFalse hint? _ follows with
    ⟨literal, constant, sides⟩ | ⟨alive, onTrue', onFalse', hint'?, jumps, sides⟩
  · have same := agreement.value constant decided
    subst same
    obtain ⟨position', jumps, after⟩ := sides block known
    obtain ⟨frame', reaches, there, same⟩ := jumps.reaches module' state' rfl rfl
    refine ⟨_, reaches, related_of_goto shared frames stack globals floor floor' steps agreement same ?_⟩
    rw [there]
    exact after
  · obtain ⟨block', position', known', inward, after⟩ := sides value.isTrue block known
    obtain ⟨frame', reaches, there, same⟩ := jumps.reaches module' state' rfl rfl
    have agreementThere : Agreement simulation.constants simulation.live mapping state.frame
        frame' :=
      agreement.congr rfl rfl (by rw [same.function]) same.registers
    have moves : Moves module' { state' with frame := frame' }
        (State.goto { state' with frame := frame' } block') :=
      .branch _ onTrue' onFalse' hint'? value block' there
        (agreementThere.element alive decided) (by rw [same.function]; exact known')
    obtain ⟨inner', onward, thereInside, sameInside⟩ :=
      inward.reaches module' (State.goto { state' with frame := frame' } block') same.function rfl
    have sameAll : SameActivation state'.frame inner' :=
      ⟨sameInside.function.trans same.function, sameInside.registers.trans same.registers,
        sameInside.floor.trans same.floor⟩
    refine ⟨_, (reaches.tail moves).trans onward,
      related_of_goto shared frames stack globals floor floor' steps agreement sameAll ?_⟩
    rw [thereInside]
    exact after

theorem step_leave (related : StateRelation link base state state') {caller : Frame}
    {callers : List Frame} (found : state.frame.position = ⟨[], some .leave⟩)
    (waiting : state.callers = caller :: callers) :
    ∃ next', Reaches module' state' next' ∧
      StateRelation link base { state.released with
        frame := caller
        callers := callers } next' := by
  obtain ⟨globals, ⟨mapping, shared, frames, stack⟩, floor, floor', steps⟩ := related
  obtain ⟨simulation, follows, agreement⟩ := frames.simulated
  rw [found] at follows
  obtain ⟨frame', reaches, there, same⟩ :=
    (simulation.leave _ follows).reaches module' state' rfl rfl
  rw [waiting] at stack
  cases waiting' : state'.callers with
  | nil => simp [waiting', StackRelation] at stack
  | cons caller' callers' =>
      rw [waiting'] at stack
      obtain ⟨outer, inside, inside', rest⟩ := stack
      have moves : Moves module' { state' with frame := frame' }
          { State.released { state' with frame := frame' } with
            frame := caller'
            callers := callers' } :=
        .leave caller' callers' there waiting'
      refine ⟨_, reaches.tail moves, globals, ⟨mapping.below state.frame.floor, ?_, outer, rest⟩, ?_, ?_,
        steps⟩
      · simp only [State.released, same.floor]
        exact shared.release frames.floors
      · simp only [State.released, size_release floor]
        exact inside
      · simp only [State.released, same.floor, size_release floor']
        exact inside'

/-- What the original does in one move, the optimized module does in any number. -/
theorem step_related (related : StateRelation link base state state')
    (moves : Moves module state next) :
    ∃ next', Reaches module' state' next' ∧ StateRelation link base next next' := by
  cases moves with
  | effect instruction rest outcome found plain done => exact step_effect related found plain done
  | call name arguments rest function slots frame found named passed begun =>
      exact step_call related found named passed begun
  | jump target block found known => exact step_jump related found known
  | branch condition onTrue onFalse hint? value block found decided known =>
      exact step_branch related found decided known
  | leave caller callers found waiting => exact step_leave related found waiting

theorem reaches_related (related : StateRelation link base state state')
    (reaches : Reaches module state next) :
    ∃ next', Reaches module' state' next' ∧ StateRelation link base next next' := by
  induction reaches with
  | refl => exact ⟨state', .refl, related⟩
  | tail _ moves inductionHypothesis =>
      obtain ⟨middle', reaches', relatedMiddle⟩ := inductionHypothesis
      obtain ⟨next', onward, relatedNext⟩ := step_related relatedMiddle moves
      exact ⟨next', reaches'.trans onward, relatedNext⟩

/-! ### Whole runs -/

theorem memory_related (related : StateRelation link base state state') :
    MemoryRelation base state.memory state'.memory := by
  obtain ⟨_, ⟨mapping, shared, frames, _⟩, _, _, _⟩ := related
  exact shared.restrict fun allocation counterpart pinned =>
    (frames.pinned allocation counterpart pinned).1

/-- A run that ends has a counterpart that ends, in no more steps and with the same
contents in the allocations that are older than the run. -/
theorem ends_related (related : StateRelation link base state state') {final : State}
    (ends : Ends module state final) :
    ∃ final', Ends module' state' final' ∧ MemoryRelation base final.memory final'.memory ∧
      final'.steps ≤ final.steps := by
  obtain ⟨last, reaches, located, alone, rfl⟩ := ends
  obtain ⟨last', reaches', relatedLast⟩ := reaches_related related reaches
  obtain ⟨globals, ⟨mapping, shared, frames, stack⟩, floor, floor', steps⟩ := relatedLast
  obtain ⟨simulation, follows, agreement⟩ := frames.simulated
  rw [located] at follows
  obtain ⟨frame', onward, there, same⟩ :=
    (simulation.leave _ follows).reaches module' last' rfl rfl
  have alone' : last'.callers = [] := by
    rw [alone] at stack
    cases waiting : last'.callers with
    | nil => rfl
    | cons caller callers => simp [waiting, StackRelation] at stack
  refine ⟨State.released { last' with frame := frame' },
    ⟨{ last' with frame := frame' }, reaches'.trans onward, there, alone', rfl⟩, ?_, steps⟩
  simp only [State.released, same.floor]
  refine (shared.release frames.floors).restrict ?_
  intro allocation counterpart pinned
  obtain ⟨renamed, older⟩ := frames.pinned allocation counterpart pinned
  exact Renaming.below_some.mpr ⟨older, renamed⟩

/-- Arithmetic that stops a run stops its counterpart, if its result was to be stored. -/
theorem breaks_related (related : StateRelation link base state state') {final : State}
    {cause : Error} (breaks : Breaks module state cause final) :
    ∃ final', Breaks module' state' cause final' ∧
      MemoryRelation base final.memory final'.memory ∧ final'.steps ≤ final.steps ∧
      final'.frame.function.name = final.frame.function.name := by
  obtain ⟨last, instruction, rest, target, pointer, reaches, found, failed, defines, stored,
    rfl⟩ := breaks
  obtain ⟨last', reaches', relatedLast⟩ := reaches_related related reaches
  have memory := memory_related relatedLast
  obtain ⟨globals, ⟨mapping, shared, frames, stack⟩, floor, floor', steps⟩ := relatedLast
  obtain ⟨simulation, follows, agreement⟩ := frames.simulated
  have located : last.frame.position = ⟨instruction :: rest, last.frame.block.terminator?⟩ := by
    rw [Frame.position, found]
  rw [located] at follows
  have readers : ∀ other ∈ rest, ∀ register ∈ other.uses, simulation.live register := by
    intro other member
    exact simulation.used other
      (simulation.within _ _ follows other (List.mem_cons_of_mem _ member))
  rcases simulation.instruction _ _ _ _ follows with ⟨⟨other, named, unread⟩, _⟩ | ⟨rest',
    terminator'?, jumps, after, varies⟩
  · rw [defines] at named
    cases named
    rcases unread with ⟨dead, _⟩ | ⟨value, _, evaluated⟩
    · exact absurd (readers _ stored target (by simp [Instruction.uses, Operand.register?])) dead
    · exact (agreement.evaluated_not_miscomputes evaluated failed).elim
  · have member := simulation.within _ _ follows instruction (List.mem_cons_self ..)
    obtain ⟨frame', onward, there, same⟩ := jumps.reaches module' last' rfl rfl
    have agreementThere : Agreement simulation.constants simulation.live mapping last.frame
        frame' :=
      agreement.congr rfl rfl (by rw [same.function]) same.registers
    refine ⟨State.fetched { last' with frame := frame' } rest',
      ⟨{ last' with frame := frame' }, instruction.mapOperands simulation.constants.substitute,
        rest', target, pointer, reaches'.trans onward, congrArg Position.pending there,
        agreementThere.miscomputes (simulation.used instruction member) failed, ?_, ?_, rfl⟩,
      memory, Nat.succ_le_succ steps, ?_⟩
    · rw [← defines]
      cases instruction <;> rfl
    · exact simulation.stored _ _ after pointer target (varies target defines) stored
    · simp only [State.fetched, same.function]
      exact simulation.name

end TensorGraph.Optimize

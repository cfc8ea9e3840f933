/-
Reset functions.

A reset function is one block.  Its prologue takes the addresses of the states
and of their images, and its body moves every image over its state.  After a
call of it the states hold zeros, and everything else is as it was.
-/

import TensorGraph.Proofs.Code.Collecting
import TensorGraph.Proofs.Emission.Called

namespace TensorGraph

open Code FunctionBuilder Machine
open Optimize (targets)

/-! ### What a reset function holds -/

/-- A move of an image over its state, between addresses that a prologue takes. -/
def Code.Restores (prologue : List Instruction) (entry : Global × Global × Nat)
    (instruction : Instruction) : Prop :=
  ∃ destination source, instruction = .move destination source entry.2.2 ∧
    .address destination entry.1.name ∈ prologue ∧ .address source entry.2.1.name ∈ prologue

theorem Code.Restores.mono {prologue more : List Instruction} {entry : Global × Global × Nat}
    {instruction : Instruction} (restores : Restores prologue entry instruction)
    (kept : prologue ⊆ more) : Restores more entry instruction := by
  obtain ⟨destination, source, same, there, there'⟩ := restores
  exact ⟨destination, source, same, kept there, kept there'⟩

/-- The body of a reset function behind its prologue, for some states with their images. -/
structure Code.Function.Restoring (function : Function) (known : String → Prop)
    (globals : List (Global × Global × Nat)) : Prop where
  parameters : function.parameters = []
  exported : function.exported = true
  block : ∃ prologue moves, function.blocks =
      [{ id := 0
         label := "entry"
         instructions := prologue ++ moves
         terminator? := some .leave }] ∧
    (∀ instruction ∈ prologue, ∃ register name, instruction = .address register name ∧ known name) ∧
    List.Forall₂ (Restores prologue) globals moves

namespace Code.FunctionBuilder

/-- A reset function under construction: the states restored so far. -/
structure Restoring (builder : FunctionBuilder) (name : String) (known : String → Prop)
    (done : List (Global × Global × Nat)) : Prop where
  name : builder.function.name = name
  parameters : builder.function.parameters = []
  exported : builder.function.exported = true
  current : builder.current = 0
  next : builder.nextBlock = 1
  addresses : ∀ entry ∈ builder.addresses, .address entry.2 entry.1 ∈ builder.prologue
  prologue : ∀ instruction ∈ builder.prologue,
    ∃ register name, instruction = .address register name ∧ known name
  block : ∃ moves, builder.function.blocks =
      [{ Block.empty 0 "entry" with instructions := moves }] ∧
    List.Forall₂ (Restores builder.prologue) done moves

namespace Restoring

variable {builder after : FunctionBuilder} {name : String} {known : String → Prop}
  {done : List (Global × Global × Nat)}

theorem globalAddress (restoring : builder.Restoring name known done) {global : String}
    (there : known global) {register : Register}
    (found : Building.globalAddress global builder = .ok register after) :
    after.Restoring name known done ∧ .address register global ∈ after.prologue ∧
      builder.prologue ⊆ after.prologue := by
  obtain ⟨_, _, looked, found⟩ := Action.bind_ok.mp found
  obtain ⟨rfl, rfl⟩ := Action.get_ok.mp looked
  cases cached : builder.addresses.lookup global with
  | some register' =>
      rw [cached] at found
      obtain ⟨rfl, rfl⟩ := Action.pure_ok.mp found
      exact ⟨restoring, restoring.addresses _ (mem_of_lookup cached), fun _ => id⟩
  | none =>
      rw [cached] at found
      cases typed : ((builder.globals.find? fun other => other.name == global).map
          Global.dtype).or (builder.imported.lookup global) with
      | none =>
          simp only [typed] at found
          exact absurd found Action.fail_ok
      | some dtype =>
          simp only [typed, Action.bind_ok, Building.newRegister_ok, Building.pushPrologue,
            Action.modify_ok, Action.pure_ok] at found
          obtain ⟨_, _, ⟨rfl, rfl⟩, ⟨⟩, _, rfl, ⟨⟩, _, rfl, rfl, rfl⟩ := found
          have kept : builder.prologue ⊆ builder.prologue ++ [.address builder.size global] :=
            List.subset_append_left _ _
          have last : .address builder.size global ∈
              builder.prologue ++ [.address builder.size global] :=
            List.mem_append_right _ (List.mem_singleton.mpr rfl)
          refine ⟨⟨restoring.name, restoring.parameters, restoring.exported, restoring.current,
            restoring.next, ?_, ?_, ?_⟩, last, kept⟩
          · rintro entry (_ | ⟨_, member⟩)
            · exact last
            · exact kept (restoring.addresses entry member)
          · intro instruction member
            rcases List.mem_append.mp member with member | member
            · exact restoring.prologue instruction member
            · exact ⟨_, _, List.mem_singleton.mp member, there⟩
          · obtain ⟨moves, blocks, restores⟩ := restoring.block
            exact ⟨moves, blocks, restores.imp fun _ _ one => one.mono kept⟩

theorem numbered (restoring : builder.Restoring name known done) : builder.Numbered := by
  obtain ⟨moves, blocks, -⟩ := restoring.block
  change builder.function.blocks.map Block.id = _
  rw [blocks, restoring.next]
  rfl

theorem move (restoring : builder.Restoring name known done) {state image : Global} {bytes : Nat}
    {destination source : Register} (there : .address destination state.name ∈ builder.prologue)
    (there' : .address source image.name ∈ builder.prologue)
    (moved : Building.move destination source bytes builder = .ok () after) :
    after.Restoring name known (done ++ [(state, image, bytes)]) := by
  obtain ⟨_, -, -, -, rfl⟩ := (Building.move_ok restoring.numbered).mp moved
  obtain ⟨moves, blocks, restores⟩ := restoring.block
  refine ⟨restoring.name, restoring.parameters, restoring.exported, restoring.current,
    restoring.next, restoring.addresses, restoring.prologue, moves ++ [.move destination source bytes],
    ?_, ?_⟩
  · change Building.changeBlock builder.current _ builder.function.blocks = _
    rw [blocks, restoring.current]
    rfl
  · exact List.rel_append restores
      (.cons ⟨destination, source, rfl, there, there'⟩ .nil)

theorem restoreAll (restoring : builder.Restoring name known done)
    {globals : List (Global × Global × Nat)}
    (there : ∀ entry ∈ globals, known entry.1.name ∧ known entry.2.1.name)
    (ran : ModuleBuilder.restoreAll globals builder = .ok () after) :
    after.Restoring name known (done ++ globals) := by
  induction globals generalizing builder done with
  | nil =>
      obtain ⟨-, rfl⟩ := Action.pure_ok.mp ran
      rwa [List.append_nil]
  | cons entry rest ih =>
      obtain ⟨state, image, bytes⟩ := entry
      obtain ⟨destination, _, found, ran⟩ := Action.bind_ok.mp ran
      obtain ⟨source, _, found', ran⟩ := Action.bind_ok.mp ran
      obtain ⟨_, _, moved, ran⟩ := Action.bind_ok.mp ran
      obtain ⟨here, here'⟩ := there _ List.mem_cons_self
      obtain ⟨one, taken, -⟩ := restoring.globalAddress here found
      obtain ⟨two, taken', kept⟩ := one.globalAddress here' found'
      have three := two.move (kept taken) taken' moved
      have all := ih three (fun entry member => there entry (List.mem_cons_of_mem _ member)) ran
      rwa [List.append_assoc] at all

end Restoring

theorem restoring_start (name : String) (known : String → Prop) :
    (start name []).Restoring name known [] where
  name := rfl
  parameters := rfl
  exported := rfl
  current := rfl
  next := rfl
  addresses := List.forall_mem_nil _
  prologue := List.forall_mem_nil _
  block := ⟨[], rfl, .nil⟩

variable {builder after : FunctionBuilder} {name : String} {known : String → Prop}
  {done : List (Global × Global × Nat)}

namespace Restoring

variable {builder after : FunctionBuilder} {name : String} {known : String → Prop}
  {done : List (Global × Global × Nat)}

theorem importGlobal (restoring : builder.Restoring name known done) {global : String}
    {dtype : DType} (ran : Building.importGlobal global dtype builder = .ok () after) :
    after.Restoring name known done := by
  cases Action.modify_ok.mp ran
  exact { restoring with }

theorem importAll (restoring : builder.Restoring name known done)
    {globals : List (Global × Global × Nat)}
    (ran : ModuleBuilder.importAll globals builder = .ok () after) :
    after.Restoring name known done := by
  induction globals generalizing builder with
  | nil =>
      obtain ⟨-, rfl⟩ := Action.pure_ok.mp ran
      exact restoring
  | cons entry rest ih =>
      obtain ⟨_, _, imported, ran⟩ := Action.bind_ok.mp ran
      obtain ⟨_, _, imported', ran⟩ := Action.bind_ok.mp ran
      exact ih ((restoring.importGlobal imported).importGlobal imported') ran

/-- The function that is finished has the moves behind the prologue. -/
theorem finished (restoring : builder.Restoring name known done) {closed : FunctionBuilder}
    (left : Building.leave builder = .ok () closed) {function : Function}
    (ended : Building.finish closed = .ok function after) :
    function.Restoring known done ∧ function.name = name ∧ function.verify = .ok () := by
  obtain ⟨-, rfl⟩ := (Building.terminate_ok restoring.numbered).mp left
  obtain ⟨moves, blocks, restores⟩ := restoring.block
  have closing : (builder.closing .leave).function.blocks = [{ Block.empty 0 "entry" with
      instructions := moves
      terminator? := some .leave }] := by
    change Building.changeBlock builder.current _ builder.function.blocks = _
    rw [blocks, restoring.current]
    rfl
  have terminated : (builder.closing .leave).isTerminated = true := by
    have current : (builder.closing .leave).current = 0 := restoring.current
    rw [isTerminated, Function.block?, closing, current]
    rfl
  obtain ⟨_, _, looked, ended⟩ := Action.bind_ok.mp ended
  obtain ⟨rfl, rfl⟩ := Action.get_ok.mp looked
  rw [terminated] at ended
  obtain ⟨_, _, changed, ended⟩ := Action.bind_ok.mp ended
  cases Action.modify_ok.mp changed
  obtain ⟨_, _, looked, ended⟩ := Action.bind_ok.mp ended
  obtain ⟨rfl, rfl⟩ := Action.get_ok.mp looked
  obtain ⟨_, _, checked, ended⟩ := Action.bind_ok.mp ended
  obtain ⟨verified, rfl⟩ := Action.ofExcept_ok.mp checked
  obtain ⟨rfl, rfl⟩ := Action.pure_ok.mp ended
  refine ⟨⟨restoring.parameters, restoring.exported, builder.prologue, moves, ?_,
    restoring.prologue, restores⟩, restoring.name, verified⟩
  dsimp only
  rw [closing]
  rfl

end Restoring
end Code.FunctionBuilder

/-! ### What is asked for -/

namespace Code.ModuleBuilder

/-- Every state is found with its image. -/
theorem stateGlobals_ok {module : Module} {entries : List StateGlobal}
    {globals : List (Global × Global × Nat)} (found : stateGlobals module entries = .ok globals) :
    List.Forall₂ (fun entry there => module.global? entry.state = some there.1 ∧
      module.global? entry.image = some there.2.1 ∧ there.2.2 = entry.bytes) entries globals := by
  induction entries generalizing globals with
  | nil =>
      cases found
      exact .nil
  | cons entry rest ih =>
      rw [stateGlobals] at found
      cases state : module.global? entry.state with
      | none =>
          rw [state] at found
          cases found
      | some state' =>
          rw [state] at found
          cases image : module.global? entry.image with
          | none =>
              rw [image] at found
              cases found
          | some image' =>
              rw [image] at found
              cases further : stateGlobals module rest with
              | error cause =>
                  rw [further] at found
                  cases found
              | ok others =>
                  rw [further] at found
                  cases found
                  exact .cons ⟨state, image, rfl⟩ (ih further)

/-- The reset function of a module restores all its states. -/
theorem emitReset_ok {name : String} {builder after : ModuleBuilder}
    (done : emitReset name builder = .ok () after) :
    ∃ globals function, stateGlobals builder.module builder.states = .ok globals ∧
      function.Restoring (fun name => (builder.module.global? name).isSome) globals ∧
      function.name = name ∧ function.verify = .ok () ∧ after = builder.adding function [] := by
  obtain ⟨_, _, looked, done⟩ := Action.bind_ok.mp done
  obtain ⟨rfl, rfl⟩ := Action.get_ok.mp looked
  obtain ⟨globals, _, listed, done⟩ := Action.bind_ok.mp done
  obtain ⟨listed', rfl⟩ := Action.ofExcept_ok.mp listed
  have there : ∀ entry ∈ globals, (builder.module.global? entry.1.name).isSome ∧
      (builder.module.global? entry.2.1.name).isSome := by
    intro entry member
    obtain ⟨asked, -, state, image, -⟩ := partner_of_mem (stateGlobals_ok listed') member
    have named := List.find?_some state
    have named' := List.find?_some image
    rw [beq_iff_eq] at named named'
    exact ⟨by rw [named, state]; rfl, by rw [named', image]; rfl⟩
  cases built : (do
      importAll globals
      restoreAll globals
      Building.leave
      Building.finish : Building Function) (FunctionBuilder.start name []) with
  | error fault failed =>
      rw [built] at done
      cases done
  | ok function final =>
      rw [built] at done
      obtain ⟨_, _, imported, built⟩ := Action.bind_ok.mp built
      obtain ⟨_, _, restored, built⟩ := Action.bind_ok.mp built
      obtain ⟨_, _, left, built⟩ := Action.bind_ok.mp built
      have all := ((FunctionBuilder.restoring_start name
        (fun name => (builder.module.global? name).isSome)).importAll imported).restoreAll there
        restored
      obtain ⟨restoring, named, verified⟩ := all.finished left built
      refine ⟨globals, function, listed', restoring, named, verified, ?_⟩
      cases Action.modify_ok.mp done
      rw [adding, List.append_nil]

end Code.ModuleBuilder

/-! ### Running the moves -/

namespace Machine

/-- A state of a module with its image. -/
structure Restorable (module : Module) (entry : Global × Global × Nat) : Prop where
  state : entry.1 ∈ module.globals
  changes : entry.1.isMutable = true
  image : entry.2.1 ∈ module.globals
  fixed : entry.2.1.isMutable = false
  data : entry.2.1.data = entry.1.data.cleared
  bytes : entry.2.2 = entry.1.byteSize

/-- Memory that holds the constants of a module. -/
structure Keeping (module : Module) (memory : Memory) : Prop where
  sizes : Engine.globalSizes module <+: memory.sizes
  constants : ∀ (index : Nat) (global : Global), module.globals[index]? = some global →
    global.isMutable = false → memory.allocations[index]? = some global.data.image

/-- The states of some globals hold zeros, and all other memory is as it was. -/
structure Restored (module : Module) (globals : List (Global × Global × Nat))
    (memory after : Memory) : Prop where
  sizes : after.sizes = memory.sizes
  states : ∀ entry ∈ globals, ∀ index : Nat, module.globals[index]? = some entry.1 →
    after.allocations[index]? = some entry.1.data.cleared.image
  others : ∀ allocation : Nat, (∀ entry ∈ globals, module.globals[allocation]? ≠ some entry.1) →
    after.allocations[allocation]? = memory.allocations[allocation]?

variable {module : Module} {entry : Global × Global × Nat} {memory after : Memory}
  {globals : List (Global × Global × Nat)}

/-- As many bytes as an allocation has, written over it. -/
theorem put_whole {allocation : Nat} {image : Array UInt8} {storage : Storage}
    (there : memory.allocations[allocation]? = some image)
    (sized : image.size = storage.image.size) :
    (memory.put ⟨allocation, 0⟩ storage.bytes).allocations[allocation]? = some storage.image := by
  have sized' : 0 + storage.bytes.length ≤ image.size := by
    rw [sized, Storage.image, List.size_toArray, Nat.zero_add]
  have bytes := overwrite_eq image 0 storage.bytes sized'
  rw [List.take_zero, List.nil_append, List.drop_of_length_le, List.append_nil] at bytes
  · simp only [Memory.put, Array.getElem?_modify, if_true, there, Option.map_some]
    rw [Option.some_inj, ← Array.toList_inj, bytes, Storage.image]
  · rw [Array.length_toList, sized, Storage.image, List.size_toArray, Nat.zero_add]

theorem Keeping.put (keeping : Keeping module memory) {index : Nat} {global : Global}
    (found : module.globals[index]? = some global) (changes : global.isMutable = true)
    (bytes : List UInt8) : Keeping module (memory.put ⟨index, 0⟩ bytes) where
  sizes := by
    rw [Memory.sizes_put]
    exact keeping.sizes
  constants := by
    intro other constant found' fixed
    rw [getElem?_put_of_ne _ 0 bytes]
    · exact keeping.constants other constant found' fixed
    · rintro rfl
      cases found.symm.trans found'
      rw [changes] at fixed
      cases fixed

theorem Keeping.there (keeping : Keeping module memory) {index : Nat} {global : Global}
    (found : module.globals[index]? = some global) :
    ∃ image, memory.allocations[index]? = some image ∧ image.size = global.data.image.size := by
  have size : (Engine.globalSizes module)[index]? = some global.data.bytes.length := by
    rw [Engine.globalSizes, List.getElem?_map, found]
    rfl
  obtain ⟨further, split⟩ := keeping.sizes
  have size' : (Engine.globalSizes module ++ further)[index]? = _ :=
    (List.getElem?_append_left (List.getElem?_eq_some_iff.mp size).1).trans size
  rw [split, Memory.sizes, List.getElem?_map, Option.map_eq_some_iff] at size'
  obtain ⟨image, found', length⟩ := size'
  refine ⟨image, ?_, ?_⟩
  · rw [← Array.getElem?_toList, found']
  · rw [length, Storage.image, List.size_toArray]

/-- One state restored. -/
theorem Restorable.put (restorable : Restorable module entry) (keeping : Keeping module memory)
    {state image : Nat} (found : module.globals[state]? = some entry.1)
    (found' : module.globals[image]? = some entry.2.1) :
    memory.read ⟨image, 0⟩ entry.2.2 = .ok entry.2.1.data.bytes ∧
      memory.check ⟨state, 0⟩ entry.2.1.data.bytes.length = .ok () ∧
      (memory.put ⟨state, 0⟩ entry.2.1.data.bytes).allocations[state]? =
        some entry.1.data.cleared.image := by
  have sized : entry.1.data.image.size = entry.2.1.data.image.size := by
    rw [restorable.data, Storage.cleared, Storage.size_image, Storage.size_image, Storage.size_zeros]
    rfl
  have bytes : entry.2.2 = entry.2.1.data.bytes.length := by
    rw [← List.size_toArray, ← Storage.image, ← sized, Storage.size_image, restorable.bytes]
    rfl
  obtain ⟨old, there, size⟩ := keeping.there found
  refine ⟨?_, ?_, ?_⟩
  · rw [bytes]
    exact read_whole (keeping.constants image _ found' restorable.fixed)
  · have fits : 0 + entry.2.1.data.bytes.length ≤ old.size := by
      rw [size, sized, Storage.image, List.size_toArray, Nat.zero_add]
    simp only [Memory.check, there, if_pos fits]
  · rw [← restorable.data]
    exact put_whole there (size.trans sized)

/-- The moves of a reset function run to their end. -/
theorem restores_run {prologue moves rest : List Instruction} {machine : State}
    (restores : List.Forall₂ (Restores prologue) globals moves)
    (waiting : machine.frame.pending = moves ++ rest)
    (addresses : ∀ register name, .address register name ∈ prologue → ∃ index,
      globalIndex? module name = some index ∧
        machine.frame.registers[register]? = some (some (.pointer ⟨index, 0⟩)))
    (names : (module.globals.map Global.name).Nodup)
    (restorable : ∀ entry ∈ globals, Restorable module entry)
    (keeping : Keeping module machine.memory) :
    ∃ next, Reaches module machine next ∧ next.frame = { machine.frame with pending := rest } ∧
      next.callers = machine.callers ∧ Restored module globals machine.memory next.memory := by
  induction restores generalizing machine with
  | nil =>
      refine ⟨machine, .refl, ?_, rfl, rfl, fun _ member => absurd member List.not_mem_nil,
        fun _ _ => rfl⟩
      rw [List.nil_append] at waiting
      rw [← waiting]
  | @cons entry instruction globals moves head tail ih =>
      obtain ⟨destination, source, rfl, there, there'⟩ := head
      obtain ⟨state, found, has⟩ := addresses _ _ there
      obtain ⟨image, found', has'⟩ := addresses _ _ there'
      have restorable' := restorable entry List.mem_cons_self
      have at' := global_of_index names restorable'.state found
      have at'' := global_of_index names restorable'.image found'
      obtain ⟨read, check, put⟩ := restorable'.put keeping at' at''
      let middle := (machine.fetched (moves ++ rest)).after
        (machine.memory.put ⟨state, 0⟩ entry.2.1.data.bytes, none)
      have one : Moves module machine middle :=
        .effect (.move destination source entry.2.2) (moves ++ rest) _ waiting rfl
          (effect_move has has' read check)
      obtain ⟨next, reaches, frame, callers, restored⟩ := @ih middle rfl addresses
        (fun entry member => restorable entry (List.mem_cons_of_mem _ member))
        (keeping.put at' restorable'.changes _)
      refine ⟨next, .head one reaches, frame, callers, ?_, ?_, ?_⟩
      · rw [restored.sizes]
        exact Memory.sizes_put _ _ _
      · intro other member index located
        by_cases later : ∃ another ∈ globals, module.globals[index]? = some another.1
        · obtain ⟨another, member', found'⟩ := later
          have same : other.1 = another.1 := Option.some.inj (located.symm.trans found')
          rw [same]
          exact restored.states another member' index found'
        · have here : other = entry := by
            rcases List.mem_cons.mp member with same | member
            · exact same
            · exact absurd ⟨other, member, located⟩ later
          subst here
          cases position_unique names at' located
          rw [restored.others state fun another member' found' => later ⟨another, member', found'⟩]
          exact put
      · intro allocation apart
        rw [restored.others allocation fun another member' =>
          apart another (List.mem_cons_of_mem _ member')]
        refine getElem?_put_of_ne ?_ 0 _
        rintro rfl
        exact apart entry List.mem_cons_self at'

end Machine

/-! ### The call -/

section Call

variable {engine : Engine} {function : Function} {known : String → Prop} {name : String}
  {globals : List (Global × Global × Nat)}

/-- A prologue of addresses obtains no memory. -/
theorem images_of_addresses {prologue : List Instruction}
    (addresses : ∀ instruction ∈ prologue, ∃ register name,
      instruction = .address register name ∧ known name) : images prologue = [] := by
  rw [images, List.map_eq_nil_iff, allocations, List.filterMap_eq_nil_iff]
  intro instruction member
  obtain ⟨register, name, rfl, -⟩ := addresses instruction member
  rfl

theorem globalIndex?_of_isSome {module : Module} {name : String}
    (there : (module.global? name).isSome) : ∃ index, globalIndex? module name = some index := by
  obtain ⟨global, found⟩ := Option.isSome_iff_exists.mp there
  obtain ⟨index, located⟩ := globalIndex?_of_mem (List.mem_of_find?_eq_some found)
  have named := List.find?_some found
  rw [beq_iff_eq.mp named] at located
  exact ⟨index, located⟩

/-- A call of a reset function comes to its end, with the states restored. -/
theorem Code.Function.Restoring.call_ends (restoring : function.Restoring known globals)
    (verified : function.verify = .ok ()) (named : engine.module.function? name = some function)
    (there : ∀ name, known name → (engine.module.global? name).isSome)
    (names : (engine.module.globals.map Global.name).Nodup)
    (restorable : ∀ entry ∈ globals, Restorable engine.module entry)
    (keeping : Keeping engine.module engine.memory) :
    ∃ start final, Prepared engine name [] start ∧ Ends engine.module start final ∧
      Restored engine.module globals engine.memory final.memory := by
  obtain ⟨prologue, moves, blocks, addresses, restores⟩ := restoring.block
  have parameters : function.parameters = List.range 0 := restoring.parameters
  obtain ⟨registers, enters, size, -⟩ := enter_ok blocks parameters (Nat.zero_le _)
    engine.memory.size engine.memory.size
  have formed : Optimize.WellFormed function := by
    refine Optimize.wellFormed_iff.mpr ⟨verified, ?_, ?_⟩
    · rw [blocks]
      exact List.cons_ne_nil _ _
    · rw [blocks]
      exact List.nodup_singleton _
  have instructions : function.instructions = prologue ++ moves := by
    rw [Function.instructions, blocks]
    simp
  have defined : ∀ register ∈ targets prologue, register ∈ targets function.instructions := by
    intro register member
    rw [instructions, targets, List.filterMap_append]
    exact List.mem_append_left _ member
  have callee := callee_of_function named restoring.exported
  rw [restoring.parameters] at callee
  let start : State :=
    { memory := engine.memory
      frame :=
        { function := function
          registers := registers
          block :=
            { id := 0
              label := "entry"
              instructions := prologue ++ moves
              terminator? := some .leave }
          pending := prologue ++ moves
          floor := engine.memory.size }
      callers := []
      steps := 0 }
  have prepared : Prepared engine name [] start :=
    ⟨function, [], engine.memory, _, callee, .done _, enters, rfl⟩
  obtain ⟨next, opening⟩ : ∃ next, Opening engine.module prologue moves start next := opens rfl
    (by
      intro instruction member
      obtain ⟨register, global, rfl, asked⟩ := addresses instruction member
      obtain ⟨index, found⟩ := globalIndex?_of_isSome (there global asked)
      exact .address register global index found)
    (formed.single.sublist (by
      rw [instructions, targets, targets, List.filterMap_append]
      exact List.sublist_append_left _ _))
    (by
      intro register member
      change register < registers.size
      rw [size]
      obtain ⟨type, typed⟩ := Option.isSome_iff_exists.mp (formed.typed register (defined _ member))
      exact (Array.getElem?_eq_some_iff.mp typed).1)
  have memory : next.memory = engine.memory := by
    rw [opening.memory, images_of_addresses addresses]
    exact Memory.extend_nil _
  have waiting : next.frame.pending = moves ++ [] := by
    rw [opening.frame, List.append_nil]
  obtain ⟨last, reaches, frame, callers, restored⟩ := restores_run restores waiting
    opening.addresses names restorable (memory ▸ keeping)
  have returns : Returns last last.released := by
    refine ⟨?_, callers.trans opening.callers, rfl⟩
    rw [Frame.position, frame, opening.frame]
  refine ⟨start, last.released, prepared, ⟨last, opening.reaches.trans reaches, returns⟩, ?_⟩
  rw [memory] at restored
  have floor : last.frame.floor = last.memory.size := by
    rw [frame, opening.frame, ← Memory.length_sizes, restored.sizes, Memory.length_sizes]
  have kept : last.released.memory = last.memory := by
    have whole := Memory.release_extend last.memory []
    rw [Memory.extend_nil] at whole
    rw [State.released, floor, whole]
  rw [kept]
  exact restored

/-- The globals that the function took over as states, restored by a reset function: each of them
with the shape of what the host holds there. -/
structure EmissionState.Restores {σ : Type} (state : EmissionState σ) (module : Module)
    (globals : List (Global × Global × Nat)) (held : List Storage) : Prop where
  restorable : ∀ entry ∈ globals, Restorable module entry
  taken : ∀ name global storage, (name, global) ∈ state.states → held[name]? = some storage →
    ∃ entry ∈ globals, entry.1.name = global ∧ storage.SameShape entry.1.data

theorem cleared_of_sameShape {storage other : Storage} (shape : storage.SameShape other) :
    storage.cleared = other.cleared := by
  obtain ⟨typed, sized⟩ := shape
  rw [Storage.cleared, Storage.cleared, typed, sized]

/-- After a reset the engine rests with zeros where the host holds zeros. -/
theorem EmissionState.Rests.restored {σ : Type} {state : EmissionState σ} {module : Module}
    {held : List Storage} {memory after : Memory} (rests : state.Rests module held memory)
    (names : (module.globals.map Global.name).Nodup)
    (restores : state.Restores module globals held)
    (restored : Restored module globals memory after) :
    state.Rests module (held.map Storage.cleared) (after.release module.globals.length) where
  sizes := by
    rw [Memory.sizes_release, restored.sizes, rests.sizes, ← Engine.length_globalSizes,
      List.take_length]
  constants := by
    intro index global found fixed
    have below := (List.getElem?_eq_some_iff.mp found).1
    rw [getElem?_release, if_pos below, restored.others index]
    · exact rests.constants index global found fixed
    · intro entry member found'
      have changes := (restores.restorable entry member).changes
      rw [← Option.some.inj (found.symm.trans found'), fixed] at changes
      cases changes
  states := by
    intro name global index member found
    obtain ⟨storage, there, -⟩ := rests.states name global index member found
    obtain ⟨entry, listed, rfl, shape⟩ := restores.taken name global storage member there
    have located := global_of_index names (restores.restorable entry listed).state found
    have below := (List.getElem?_eq_some_iff.mp located).1
    refine ⟨storage.cleared, by rw [List.getElem?_map, there]; rfl, ?_⟩
    rw [getElem?_release, if_pos below, restored.states entry listed index located,
      cleared_of_sameShape shape]

end Call
end TensorGraph

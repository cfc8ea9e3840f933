/-
Collecting functions.

A module builder takes over functions with their globals and states.  Names of
globals are looked up before they are taken, so they stay apart, and states find
their globals.  The globals of a function are taken one after the other, up to
the first whose name is taken; functions and states are added last, when nothing
can fail any more.  The name of a reset function is not looked up.
-/

import TensorGraph.Code.ModuleBuilder
import TensorGraph.Proofs.Code.Declarations

namespace TensorGraph.Code

namespace ModuleBuilder

/-! ### Single steps -/

def globalNames (builder : ModuleBuilder) : List String :=
  builder.module.globals.map Global.name

def functionNames (builder : ModuleBuilder) : List String :=
  builder.module.functions.map Function.name

/-- Some globals taken over. -/
def taking (builder : ModuleBuilder) (globals : List Global) : ModuleBuilder :=
  { builder with
    module :=
      { builder.module with
        globals := globals.foldl (fun found global => insertGlobal global found)
          builder.module.globals } }

/-- A function added, with its states. -/
def adding (builder : ModuleBuilder) (function : Function) (states : List StateGlobal) :
    ModuleBuilder :=
  { module := { builder.module with functions := builder.module.functions ++ [function] }
    states := builder.states ++ states }

theorem global?_isSome {module : Module} {name : String} :
    (module.global? name).isSome ↔ name ∈ module.globals.map Global.name := by
  simp [Module.global?, List.find?_isSome]

theorem function?_isSome {module : Module} {name : String} :
    (module.function? name).isSome ↔ name ∈ module.functions.map Function.name := by
  simp [Module.function?, List.find?_isSome]

theorem global?_of_mem {module : Module} (apart : (module.globals.map Global.name).Nodup)
    {global : Global} (member : global ∈ module.globals) :
    module.global? global.name = some global := by
  cases found : module.global? global.name with
  | none =>
      have listed := global?_isSome.mpr (List.mem_map_of_mem (f := Global.name) member)
      rw [found] at listed
      cases listed
  | some other =>
      have named := List.find?_some found
      rw [List.inj_on_of_nodup_map apart (List.mem_of_find?_eq_some found) member (eq_of_beq named)]

/-! ### Merging globals -/

section Merging

variable {builder : ModuleBuilder} {global : Global} {globals : List Global}

private theorem mem_names_taking (fresh : global.name ∉ builder.globalNames) {name : String} :
    name ∈ (builder.taking [global]).globalNames ↔
      name = global.name ∨ name ∈ builder.globalNames :=
  (FunctionBuilder.names_insertGlobal fresh).mem_iff.trans List.mem_cons

/-- A global of a new name is taken, and with another one the merge ends. -/
private theorem mergeGlobals_cons (builder : ModuleBuilder) (global : Global)
    (rest : List Global) :
    mergeGlobals (global :: rest) builder =
      if global.name ∈ builder.globalNames then
        .error (.error (.other ("global '" ++ global.name ++ "' defined twice"))) builder
      else mergeGlobals rest (builder.taking [global]) := by
  have known : (builder.module.global? global.name).isSome ↔
      global.name ∈ builder.globalNames := global?_isSome
  rw [mergeGlobals, Action.bind_of_ok (Action.get_ok.mpr ⟨rfl, rfl⟩)]
  split
  case isTrue taken =>
    rw [if_pos (known.mp taken)]
    rfl
  case isFalse free =>
    rw [if_neg fun listed => free (known.mpr listed)]
    rfl

/-- Either all globals have new names and are taken, or those before the first that has not. -/
theorem mergeGlobals_cases (apart : (globals.map Global.name).Nodup) (builder : ModuleBuilder) :
    ((∀ global ∈ globals, global.name ∉ builder.globalNames) ∧
        mergeGlobals globals builder = .ok () (builder.taking globals)) ∨
      ∃ taken twice rest, globals = taken ++ twice :: rest ∧
        (∀ global ∈ taken, global.name ∉ builder.globalNames) ∧
        twice.name ∈ builder.globalNames ∧
        mergeGlobals globals builder =
          .error (.error (.other ("global '" ++ twice.name ++ "' defined twice")))
            (builder.taking taken) := by
  induction globals generalizing builder with
  | nil => exact .inl ⟨List.forall_mem_nil _, rfl⟩
  | cons global rest ih =>
      rw [mergeGlobals_cons]
      by_cases known : global.name ∈ builder.globalNames
      · rw [if_pos known]
        exact .inr ⟨[], global, rest, rfl, List.forall_mem_nil _, known, rfl⟩
      rw [if_neg known]
      rw [List.map_cons, List.nodup_cons] at apart
      have other {name : String} (member : name ∈ rest.map Global.name) :
          name ∈ (builder.taking [global]).globalNames ↔ name ∈ builder.globalNames := by
        rw [mem_names_taking known, or_iff_right]
        exact fun same => apart.1 (same ▸ member)
      rcases ih apart.2 (builder.taking [global]) with
        ⟨fresh, done⟩ | ⟨taken, twice, later, split, fresh, clash, failed⟩
      · refine .inl ⟨List.forall_mem_cons.mpr ⟨known, fun next member => ?_⟩, done⟩
        exact fun listed => fresh next member
          ((other (List.mem_map_of_mem member)).mpr listed)
      · refine .inr ⟨global :: taken, twice, later, by rw [split, List.cons_append], ?_, ?_, failed⟩
        · refine List.forall_mem_cons.mpr ⟨known, fun next member listed => fresh next member ?_⟩
          refine (other (List.mem_map_of_mem ?_)).mpr listed
          exact split ▸ List.mem_append_left _ member
        · refine (other (List.mem_map_of_mem ?_)).mp clash
          exact split ▸ List.mem_append_right _ List.mem_cons_self

end Merging

/-! ### What a module builder keeps to -/

/-- No two globals have one name, and every state is there with its image. -/
structure Sound (builder : ModuleBuilder) : Prop where
  apart : builder.globalNames.Nodup
  states : ∀ entry ∈ builder.states, entry.KeptIn builder.module.globals

theorem sound_start (name : String) : (start name).Sound :=
  ⟨List.nodup_nil, List.forall_mem_nil _⟩

namespace Sound

variable {builder : ModuleBuilder} {globals : List Global}

/-- Globals of new names are taken beside those that are there. -/
theorem taking (sound : builder.Sound) (apart : (globals.map Global.name).Nodup)
    (fresh : ∀ global ∈ globals, global.name ∉ builder.globalNames) :
    (builder.taking globals).Sound ∧
      ∀ global, global ∈ (builder.taking globals).module.globals ↔
        global ∈ globals ∨ global ∈ builder.module.globals := by
  induction globals generalizing builder with
  | nil => exact ⟨sound, fun global => by simp [ModuleBuilder.taking]⟩
  | cons global rest ih =>
      obtain ⟨first_fresh, rest_fresh⟩ := List.forall_mem_cons.mp fresh
      rw [List.map_cons, List.nodup_cons] at apart
      have one {other : Global} : other ∈ (builder.taking [global]).module.globals ↔
          other = global ∨ other ∈ builder.module.globals :=
        FunctionBuilder.mem_insertGlobal first_fresh
      have first : (builder.taking [global]).Sound := by
        refine ⟨?_, fun entry member => (sound.states entry member).mono fun _ earlier =>
          one.mpr (.inr earlier)⟩
        refine (FunctionBuilder.names_insertGlobal first_fresh).nodup_iff.mpr ?_
        exact List.nodup_cons.mpr ⟨first_fresh, sound.apart⟩
      have others : ∀ other ∈ rest, other.name ∉ (builder.taking [global]).globalNames := by
        intro other member listed
        rcases (mem_names_taking first_fresh).mp listed with same | earlier
        · exact apart.1 (same ▸ List.mem_map_of_mem member)
        · exact rest_fresh other member earlier
      obtain ⟨all, members⟩ := ih first apart.2 others
      refine ⟨all, fun other => (members other).trans ?_⟩
      rw [one, List.mem_cons]
      tauto

theorem adding (sound : builder.Sound) {states : List StateGlobal}
    (kept : ∀ entry ∈ states, entry.KeptIn builder.module.globals) (function : Function) :
    (builder.adding function states).Sound :=
  ⟨sound.apart, List.forall_mem_append.mpr ⟨sound.states, kept⟩⟩

end Sound

/-! ### Calls -/

/-- A call to a module builder.  A function that is finished was built from its name and its
parameters by some requests. -/
inductive Call where
  | endFunction (name : String) (parameters : List RegisterType) (requests : List Request)
  | emitReset (name : String)

namespace Call

/-- The function that is finished by a call. -/
def function (name : String) (parameters : List RegisterType) (requests : List Request) :
    FunctionBuilder :=
  (FunctionBuilder.start name parameters).asked requests

def run : Call → Action ModuleBuilder Unit
  | endFunction name parameters requests =>
      ModuleBuilder.endFunction (function name parameters requests)
  | emitReset name => ModuleBuilder.emitReset name

/-- The globals that a call brings along. -/
def globals : Call → List Global
  | endFunction name parameters requests => (function name parameters requests).globals
  | emitReset _ => []

/-- A reset function is asked for by a name that no function has. -/
def Free (builder : ModuleBuilder) : Call → Prop
  | endFunction _ _ _ => True
  | emitReset name => name ∉ builder.functionNames

end Call

/-- A builder after some calls.  One that fails leaves behind what it did before. -/
def asked (calls : List Call) (builder : ModuleBuilder) : ModuleBuilder :=
  calls.foldl (fun builder call => Action.last (call.run builder)) builder

/-- Every reset function is asked for by a name that no function has by then. -/
def AllFree : List Call → ModuleBuilder → Prop
  | [], _ => True
  | call :: rest, builder => call.Free builder ∧ AllFree rest (Action.last (call.run builder))

section Steps

variable {builder : ModuleBuilder}

theorem endFunction_cases {building : FunctionBuilder}
    (apart : (building.globals.map Global.name).Nodup) (builder : ModuleBuilder) :
    (∃ fault, endFunction building builder = .error fault builder) ∨
      (∃ fault taken twice rest, building.globals = taken ++ twice :: rest ∧
        (∀ global ∈ taken, global.name ∉ builder.globalNames) ∧
        twice.name ∈ builder.globalNames ∧
        endFunction building builder = .error fault (builder.taking taken)) ∨
      ∃ function left, Building.finish building = .ok function left ∧
        function.name ∉ builder.functionNames ∧
        (∀ global ∈ building.globals, global.name ∉ builder.globalNames) ∧
        endFunction building builder =
          .ok () ((builder.taking building.globals).adding function building.states) := by
  unfold endFunction
  cases finished : Building.finish building with
  | error fault failed => exact .inl ⟨fault, rfl⟩
  | ok function after =>
      obtain ⟨-, globals, states⟩ := Building.finish_declares finished
      dsimp only
      rw [Action.bind_of_ok (Action.get_ok.mpr ⟨rfl, rfl⟩), globals, states]
      have known : (builder.module.function? function.name).isSome ↔
          function.name ∈ builder.functionNames := function?_isSome
      split
      case isTrue => exact .inl ⟨_, rfl⟩
      case isFalse free =>
        rcases mergeGlobals_cases apart builder with
          ⟨fresh, done⟩ | ⟨taken, twice, rest, split, fresh, clash, failed⟩
        · refine .inr (.inr ⟨function, after, rfl, fun listed => free (known.mpr listed), fresh, ?_⟩)
          exact (Action.bind_of_ok done).trans rfl
        · exact .inr (.inl ⟨_, taken, twice, rest, split, fresh, clash, Action.bind_of_error failed⟩)

private theorem importAll_declares (globals : List (Global × Global × Nat)) :
    DeclaresNothing (importAll globals) := by
  induction globals with
  | nil => exact .pure ()
  | cons entry rest ih =>
      exact .bind (.modify fun _ => rfl) fun _ => .bind (.modify fun _ => rfl) fun _ => ih

private theorem restoreAll_declares (globals : List (Global × Global × Nat)) :
    DeclaresNothing (restoreAll globals) := by
  induction globals with
  | nil => exact .pure ()
  | cons entry rest ih =>
      exact .bind (.globalAddress _) fun _ => .bind (.globalAddress _) fun _ =>
        .bind (.move _ _ _) fun _ => ih

/-- A reset function is added by its name, or nothing happens. -/
theorem emitReset_cases (name : String) (builder : ModuleBuilder) :
    (∃ fault, emitReset name builder = .error fault builder) ∨
      ∃ function, function.name = name ∧
        emitReset name builder = .ok () (builder.adding function []) := by
  unfold emitReset
  rw [Action.bind_of_ok (Action.get_ok.mpr ⟨rfl, rfl⟩)]
  cases stateGlobals builder.module builder.states with
  | error cause => exact .inl ⟨.error cause, rfl⟩
  | ok globals =>
      rw [Action.bind_of_ok (Action.ofExcept_ok.mpr ⟨rfl, rfl⟩)]
      cases built : (do
          importAll globals
          restoreAll globals
          Building.leave
          Building.finish : Building Function) (FunctionBuilder.start name []) with
      | error fault failed => exact .inl ⟨fault, rfl⟩
      | ok function after =>
          refine .inr ⟨function, ?_, ?_⟩
          · obtain ⟨_, imported, done, built⟩ := Action.bind_ok.mp built
            obtain ⟨_, restored, done', built⟩ := Action.bind_ok.mp built
            obtain ⟨_, left, done'', built⟩ := Action.bind_ok.mp built
            rw [(Building.finish_declares built).1]
            have one := (importAll_declares globals).of_ok done
            have two := (restoreAll_declares globals).of_ok done'
            have three := (DeclaresNothing.terminate .leave).of_ok done''
            exact congrArg Prod.fst (three.trans (two.trans one))
          · rw [adding, List.append_nil]
            rfl

/-- A call that fails leaves at most some globals behind, and none if their names were free. -/
structure LeftBehind (globals : List Global) (builder failed : ModuleBuilder) : Prop where
  taken : ∃ taken, taken <+: globals ∧ failed = builder.taking taken
  clean : (∀ global ∈ globals, global.name ∉ builder.globalNames) → failed = builder

theorem LeftBehind.nothing (globals : List Global) (builder : ModuleBuilder) :
    LeftBehind globals builder builder :=
  ⟨⟨[], List.nil_prefix, rfl⟩, fun _ => rfl⟩

/-- A function of a new name leaves the names apart. -/
private theorem nodup_adding {function : Function} (free : function.name ∉ builder.functionNames)
    (apart : builder.functionNames.Nodup) (states : List StateGlobal) :
    (builder.adding function states).functionNames.Nodup := by
  have names : (builder.adding function states).functionNames =
      builder.functionNames ++ [function.name] := List.map_append
  rw [names]
  exact List.nodup_append.mpr ⟨apart, List.nodup_singleton _, fun listed member other last same =>
    free (List.mem_singleton.mp last ▸ same ▸ member)⟩

/-- What one call does to a sound builder. -/
structure Performed (call : Call) (builder : ModuleBuilder)
    (result : EStateM.Result Fault ModuleBuilder Unit) : Prop where
  sound : (Action.last result).Sound
  names : call.Free builder → builder.functionNames.Nodup →
    (Action.last result).functionNames.Nodup
  failure : ∀ fault failed, result = .error fault failed →
    LeftBehind call.globals builder failed

private theorem Performed.nothing (call : Call) (sound : builder.Sound) (fault : Fault) :
    Performed call builder (.error fault builder) where
  sound := sound
  names := fun _ apart => apart
  failure := by
    rintro _ _ ⟨⟩
    exact .nothing _ _

theorem Sound.run (sound : builder.Sound) (call : Call) :
    Performed call builder (call.run builder) := by
  cases call with
  | endFunction name parameters requests =>
      have declared : (Call.function name parameters requests).Declared :=
        (FunctionBuilder.declared_start name parameters).asked requests
      change Performed _ builder (ModuleBuilder.endFunction _ builder)
      rcases endFunction_cases declared.apart builder with
        ⟨fault, failed⟩ | ⟨fault, taken, twice, rest, split, fresh, clash, failed⟩ |
          ⟨function, -, -, free, fresh, done⟩
      · rw [failed]
        exact .nothing _ sound fault
      · have front : taken <+: (Call.function name parameters requests).globals :=
          ⟨twice :: rest, split.symm⟩
        rw [failed]
        refine ⟨(sound.taking ?_ fresh).1, fun _ apart => apart, ?_⟩
        · exact declared.apart.sublist (front.sublist.map _)
        · rintro _ _ ⟨⟩
          have listed : twice ∈ (Call.function name parameters requests).globals := by
            rw [split]
            exact List.mem_append_right _ List.mem_cons_self
          exact ⟨⟨taken, front, rfl⟩, fun free => absurd clash (free twice listed)⟩
      · obtain ⟨merged, members⟩ := sound.taking declared.apart fresh
        rw [done]
        refine ⟨merged.adding (fun entry member => ?_) function, fun _ apart => ?_, ?_⟩
        · exact (declared.states entry member).mono fun global known =>
            (members global).mpr (.inl known)
        · exact nodup_adding free apart (Call.function name parameters requests).states
        · rintro _ _ ⟨⟩
  | emitReset name =>
      change Performed _ builder (ModuleBuilder.emitReset name builder)
      rcases emitReset_cases name builder with ⟨fault, failed⟩ | ⟨function, named, done⟩
      · rw [failed]
        exact .nothing _ sound fault
      · rw [done]
        refine ⟨sound.adding (List.forall_mem_nil _) function, fun free apart => ?_, ?_⟩
        · exact nodup_adding (named.symm ▸ free) apart _
        · rintro _ _ ⟨⟩

end Steps

/-! ### Runs -/

theorem Sound.asked {builder : ModuleBuilder} (sound : builder.Sound) (calls : List Call) :
    (builder.asked calls).Sound := by
  induction calls generalizing builder with
  | nil => exact sound
  | cons call rest ih => exact ih (sound.run call).sound

theorem nodup_functionNames {builder : ModuleBuilder} (sound : builder.Sound)
    (apart : builder.functionNames.Nodup) {calls : List Call} (free : AllFree calls builder) :
    (builder.asked calls).functionNames.Nodup := by
  induction calls generalizing builder with
  | nil => exact apart
  | cons call rest ih =>
      have performed := sound.run call
      exact ih performed.sound (performed.names free.1 apart) free.2

/-- After any calls, every state is a mutable global with an immutable image of zeros of its type
and its length.  The functions have different names if no reset function was asked for by a
name that was taken.  A further call that fails leaves the functions and the states as they
were, and of the globals that it brought along some of the first; none at all if no name of
theirs was taken. -/
theorem asked_keeps (name : String) (calls : List Call) :
    (∀ entry ∈ ((start name).asked calls).states, ∃ state image,
        ((start name).asked calls).module.global? entry.state = some state ∧
          ((start name).asked calls).module.global? entry.image = some image ∧
          state.isMutable = true ∧ image.isMutable = false ∧
          image.data = state.data.cleared ∧ entry.bytes = state.byteSize) ∧
      (AllFree calls (start name) → ((start name).asked calls).functionNames.Nodup) ∧
      ∀ call fault failed, Call.run call ((start name).asked calls) = .error fault failed →
        failed.module.functions = ((start name).asked calls).module.functions ∧
          failed.states = ((start name).asked calls).states ∧
          (∃ taken, taken <+: call.globals ∧ failed = ((start name).asked calls).taking taken) ∧
          ((∀ global ∈ call.globals, global.name ∉ ((start name).asked calls).globalNames) →
            failed = (start name).asked calls) := by
  have sound := (sound_start name).asked calls
  refine ⟨?_, nodup_functionNames (sound_start name) List.nodup_nil, ?_⟩
  · intro entry member
    obtain ⟨state, state_known, image, image_known, state_name, image_name, rest⟩ :=
      sound.states entry member
    refine ⟨state, image, ?_, ?_, rest⟩
    · rw [← state_name]
      exact global?_of_mem sound.apart state_known
    · rw [← image_name]
      exact global?_of_mem sound.apart image_known
  · intro call fault failed fails
    have left := (sound.run call).failure fault failed fails
    obtain ⟨taken, front, rfl⟩ := left.taken
    exact ⟨rfl, rfl, ⟨taken, front, rfl⟩, left.clean⟩

/-- A function with a state, and its reset function. -/
def delaying : List Call :=
  [.endFunction "predict" [] [.stateGlobal "delay" (Storage.zeros .i64 4)], .emitReset "reset"]

/-- A function of a name that is taken is refused, and nothing is left behind. -/
theorem asked_keeps_delaying :
    AllFree delaying (start "m") ∧ ((start "m").asked delaying).functionNames.Nodup ∧
      ∃ fault failed,
        Call.run (.endFunction "reset" [] []) ((start "m").asked delaying) =
          .error fault failed ∧ failed = (start "m").asked delaying := by
  have free : AllFree delaying (start "m") := by
    refine ⟨trivial, ?_, trivial⟩
    change "reset" ∉ functionNames _
    decide +kernel
  obtain ⟨-, names, failure⟩ := asked_keeps "m" delaying
  refine ⟨free, names free, _, _, rfl, ?_⟩
  exact (failure (.endFunction "reset" [] []) _ _ rfl).2.2.2 (List.forall_mem_nil _)

/-- A reset function gets the name of the function that is there, and a refused function leaves
behind the global that came before the one whose name was taken. -/
theorem reset_named_twice :
    ((start "m").asked [.endFunction "f" [] [], .emitReset "f"]).functionNames = ["f", "f"] ∧
      ∃ fault failed,
        Call.run
            (.endFunction "f" []
              [.global "a.b" (Storage.zeros .i64 1) false,
               .global "a" (Storage.zeros .i64 1) false])
            ((start "m").asked
              [.endFunction "f.a" [] [.global "b" (Storage.zeros .i64 1) false]]) =
          .error fault failed ∧
        failed.globalNames = ["f.a.1", "f.a.b.0"] ∧
          ((start "m").asked
              [.endFunction "f.a" [] [.global "b" (Storage.zeros .i64 1) false]]).globalNames =
            ["f.a.b.0"] :=
  ⟨by decide +kernel, _, _, rfl, by decide +kernel, by decide +kernel⟩

end ModuleBuilder
end TensorGraph.Code

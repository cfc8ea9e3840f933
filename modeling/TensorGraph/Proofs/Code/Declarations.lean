/-
What a function declares for its module.

A function brings along its globals and its states.  Only two requests to a
function builder declare something, and what they declare is kept whatever is
asked of the builder before and after: no two globals have one name, and every
state is a mutable global with an immutable image of zeros beside it.
-/

import TensorGraph.Proofs.Code.Building

namespace TensorGraph.Code

/-! ### Requests -/

/-- What can be asked of a function builder. -/
inductive Request where
  | setExported (exported : Bool)
  | newRegister (type : RegisterType)
  | appendBlock (label : String)
  | setInsertPoint (block : BlockId)
  | alloca (dtype : DType) (count : Nat)
  | global (hint : String) (data : Storage) (isMutable : Bool)
  | stateGlobal (hint : String) (data : Storage)
  | importGlobal (name : String) (dtype : DType)
  | globalAddress (name : String)
  | offset (base : Register) (index : Operand)
  | load (pointer : Register)
  | store (pointer : Register) (value : Operand)
  | move (destination source : Register) (bytes : Nat)
  | call (function : String) (arguments : List Operand)
  | binary (op : BinaryOp) (left right : Operand)
  | unary (op : UnaryOp) (operand : Operand)
  | compare (op : CompareOp) (left right : Operand)
  | cast (operand : Operand) (dtype : DType)
  | jump (target : BlockId)
  | branch (condition : Operand) (onTrue onFalse : BlockId) (hint? : Option LoopHint)
  | leave

/-- A request carried out for its effect. -/
def Request.perform : Request → Building Unit
  | setExported exported => Building.setExported exported
  | newRegister type => discard (Building.newRegister type)
  | appendBlock label => discard (Building.appendBlock label)
  | setInsertPoint block => Building.setInsertPoint block
  | alloca dtype count => discard (Building.alloca dtype count)
  | global hint data isMutable => discard (Building.global hint data isMutable)
  | stateGlobal hint data => discard (Building.stateGlobal hint data)
  | importGlobal name dtype => Building.importGlobal name dtype
  | globalAddress name => discard (Building.globalAddress name)
  | offset base index => discard (Building.offset base index)
  | load pointer => discard (Building.load pointer)
  | store pointer value => Building.store pointer value
  | move destination source bytes => Building.move destination source bytes
  | call function arguments => Building.call function arguments
  | binary op left right => discard (Building.binary op left right)
  | unary op operand => discard (Building.unary op operand)
  | compare op left right => discard (Building.compare op left right)
  | cast operand dtype => discard (Building.cast operand dtype)
  | jump target => Building.jump target
  | branch condition onTrue onFalse hint? => Building.branch condition onTrue onFalse hint?
  | leave => Building.leave

namespace FunctionBuilder

/-- A builder after some requests.  One that fails leaves behind what it did before. -/
def asked (requests : List Request) (builder : FunctionBuilder) : FunctionBuilder :=
  requests.foldl (fun builder request => Action.last (request.perform builder)) builder

/-- What a builder has declared: its name, its globals, its states and the number of names
that it gave out. -/
def declarations (builder : FunctionBuilder) :
    String × List Global × List StateGlobal × Nat :=
  (builder.function.name, builder.globals, builder.states, builder.nameCounter)

end FunctionBuilder

/-! ### Actions that declare nothing -/

/-- The declarations stay as they are, also when the action fails. -/
def DeclaresNothing {α : Type} (action : Building α) : Prop :=
  ∀ builder, (Action.last (action builder)).declarations = builder.declarations

namespace DeclaresNothing

variable {α β : Type}

theorem of_ok {action : Building α} (nothing : DeclaresNothing action)
    {builder after : FunctionBuilder} {answer : α} (done : action builder = .ok answer after) :
    after.declarations = builder.declarations := by
  have kept := nothing builder
  rw [done] at kept
  exact kept

theorem bind {first : Building α} {rest : α → Building β} (one : DeclaresNothing first)
    (two : ∀ value, DeclaresNothing (rest value)) : DeclaresNothing (first >>= rest) := by
  intro builder
  have begun := one builder
  cases found : first builder with
  | ok value middle =>
      rw [found] at begun
      rw [Action.bind_of_ok found]
      exact (two value middle).trans begun
  | error fault middle =>
      rw [found] at begun
      rw [Action.bind_of_error found]
      exact begun

theorem pure (value : α) : DeclaresNothing (Pure.pure value : Building α) :=
  fun _ => rfl

theorem get : DeclaresNothing (get : Building FunctionBuilder) :=
  fun _ => rfl

theorem throw (fault : Fault) : DeclaresNothing (throw fault : Building α) :=
  fun _ => rfl

theorem ofExcept (answer : Except Error α) : DeclaresNothing (Action.ofExcept answer) := by
  cases answer with
  | ok value => exact pure value
  | error cause => exact throw _

theorem discard {action : Building α} (nothing : DeclaresNothing action) :
    DeclaresNothing (discard action) := by
  intro builder
  have kept := nothing builder
  have mapped : Functor.discard action = (fun _ => ()) <$> action := rfl
  rw [mapped]
  cases found : action builder with
  | ok value middle =>
      rw [found] at kept
      rw [show ((fun _ => ()) <$> action) builder = .ok () middle from
        Action.map_ok.mpr ⟨value, found, rfl⟩]
      exact kept
  | error fault middle =>
      rw [found] at kept
      rw [Action.map_error.mpr found]
      exact kept

theorem modify {change : FunctionBuilder → FunctionBuilder}
    (kept : ∀ builder, (change builder).declarations = builder.declarations) :
    DeclaresNothing (modify change : Building Unit) :=
  kept

theorem modifyGet {change : FunctionBuilder → α × FunctionBuilder}
    (kept : ∀ builder, (change builder).2.declarations = builder.declarations) :
    DeclaresNothing (modifyGet change : Building α) :=
  kept

theorem query (question : FunctionBuilder → Except Error α) :
    DeclaresNothing (Building.query question) :=
  .bind .get fun _ => .ofExcept _

theorem sameTypes (left right : DType) : DeclaresNothing (Building.sameTypes left right) := by
  unfold Building.sameTypes
  split
  · exact .pure ()
  · exact .throw _

theorem newRegister (type : RegisterType) : DeclaresNothing (Building.newRegister type) :=
  .modifyGet fun _ => rfl

theorem onCurrent (closed : Block → String) (change : Block → Block) :
    DeclaresNothing (Building.onCurrent closed change) := by
  intro builder
  unfold Building.onCurrent
  rw [Action.bind_of_ok (Action.get_ok.mpr ⟨rfl, rfl⟩)]
  cases builder.function.block? builder.current with
  | none => rfl
  | some block =>
      dsimp only
      split
      · rfl
      · rfl

theorem push (instruction : Instruction) : DeclaresNothing (Building.push instruction) :=
  .onCurrent _ _

theorem terminate (terminator : Terminator) : DeclaresNothing (Building.terminate terminator) :=
  .onCurrent _ _

theorem pushPrologue (instruction : Instruction) :
    DeclaresNothing (Building.pushPrologue instruction) :=
  .modify fun _ => rfl

/-- A register that an instruction of the current block defines. -/
theorem defining (type : RegisterType) (instruction : Register → Instruction) :
    DeclaresNothing (do
      let target ← Building.newRegister type
      Building.push (instruction target)
      return target) :=
  .bind (.newRegister type) fun _ => .bind (.push _) fun _ => .pure _

theorem globalAddress (name : String) : DeclaresNothing (Building.globalAddress name) := by
  refine .bind .get fun builder => ?_
  split
  · exact .pure _
  · dsimp only
    split
    · exact .throw _
    · exact .bind (.newRegister _) fun _ => .bind (.pushPrologue _) fun _ =>
        .bind (.modify fun _ => rfl) fun _ => .pure _

theorem offset (base : Register) (index : Operand) :
    DeclaresNothing (Building.offset base index) := by
  refine .bind (.query _) fun dtype => .bind (.query _) fun indexType =>
    .bind (.sameTypes _ _) fun _ => ?_
  split
  · exact .pure _
  · exact .defining _ _

theorem move (destination source : Register) (bytes : Nat) :
    DeclaresNothing (Building.move destination source bytes) :=
  .bind (.query _) fun _ => .bind (.query _) fun _ => .bind (.sameTypes _ _) fun _ => .push _

/-- Closing a function declares nothing either. -/
theorem finish : DeclaresNothing Building.finish := by
  refine .bind .get fun builder => ?_
  dsimp only
  split
  · exact .bind (.terminate _) fun _ => .bind (.modify fun _ => rfl) fun _ => .bind .get fun _ =>
      .bind (.ofExcept _) fun _ => .pure _
  · exact .bind (.modify fun _ => rfl) fun _ => .bind .get fun _ => .bind (.ofExcept _) fun _ =>
      .pure _

end DeclaresNothing

/-- A request declares nothing, or it is one for a global or for a state. -/
theorem Request.declaresNothing {request : Request}
    (other : ∀ hint data, (∀ isMutable, request ≠ .global hint data isMutable) ∧
      request ≠ .stateGlobal hint data) : DeclaresNothing request.perform := by
  cases request with
  | setExported exported => exact .modify fun _ => rfl
  | newRegister type => exact .discard (.newRegister type)
  | appendBlock label => exact .discard (.modifyGet fun _ => rfl)
  | setInsertPoint block => exact .modify fun _ => rfl
  | alloca dtype count =>
      exact .discard (.bind (.newRegister _) fun _ => .bind (.pushPrologue _) fun _ => .pure _)
  | global hint data isMutable => exact absurd rfl ((other hint data).1 isMutable)
  | stateGlobal hint data => exact absurd rfl (other hint data).2
  | importGlobal name dtype => exact .modify fun _ => rfl
  | globalAddress name => exact .discard (.globalAddress name)
  | offset base index => exact .discard (.offset base index)
  | load pointer => exact .discard (.bind (.query _) fun _ => .defining _ _)
  | store pointer value =>
      exact .bind (.query _) fun _ => .bind (.query _) fun _ => .bind (.sameTypes _ _) fun _ =>
        .push _
  | move destination source bytes => exact .move destination source bytes
  | call function arguments => exact .push _
  | binary op left right =>
      exact .discard (.bind (.query _) fun _ => .bind (.query _) fun _ =>
        .bind (.sameTypes _ _) fun _ => .defining _ _)
  | unary op operand => exact .discard (.bind (.query _) fun _ => .defining _ _)
  | compare op left right =>
      exact .discard (.bind (.query _) fun _ => .bind (.query _) fun _ =>
        .bind (.sameTypes _ _) fun _ => .defining _ _)
  | cast operand dtype => exact .discard (.bind (.query _) fun _ => .defining _ _)
  | jump target => exact .terminate _
  | branch condition onTrue onFalse hint? =>
      exact .bind (.query _) fun _ => .bind (.sameTypes _ _) fun _ => .terminate _
  | leave => exact .terminate _

/-! ### What is declared -/

/-- A state and its image are among some globals: the state is mutable, the image is not, and
holds as many zeros of the same type. -/
def StateGlobal.KeptIn (globals : List Global) (entry : StateGlobal) : Prop :=
  ∃ state ∈ globals, ∃ image ∈ globals, state.name = entry.state ∧ image.name = entry.image ∧
    state.isMutable = true ∧ image.isMutable = false ∧ image.data = state.data.cleared ∧
      entry.bytes = state.byteSize

theorem StateGlobal.KeptIn.mono {globals more : List Global} {entry : StateGlobal}
    (kept : entry.KeptIn globals) (sub : globals ⊆ more) : entry.KeptIn more := by
  obtain ⟨state, state_known, image, image_known, rest⟩ := kept
  exact ⟨state, sub state_known, image, sub image_known, rest⟩

namespace FunctionBuilder

/-- The declarations of a builder fit together. -/
structure Declared (builder : FunctionBuilder) : Prop where
  named : ∀ global ∈ builder.globals, ∃ before count, count < builder.nameCounter ∧
    global.name = before ++ "." ++ toString count
  apart : (builder.globals.map Global.name).Nodup
  states : ∀ entry ∈ builder.states, entry.KeptIn builder.globals

theorem declared_start (name : String) (parameters : List RegisterType) :
    (start name parameters).Declared :=
  ⟨List.forall_mem_nil _, List.nodup_nil, List.forall_mem_nil _⟩

namespace Declared

variable {builder : FunctionBuilder}

theorem of_same {after : FunctionBuilder} (declared : builder.Declared)
    (same : after.declarations = builder.declarations) : after.Declared := by
  simp only [declarations, Prod.mk.injEq] at same
  obtain ⟨-, globals, states, counter⟩ := same
  refine ⟨?_, ?_, ?_⟩
  · rw [globals, counter]
    exact declared.named
  · rw [globals]
    exact declared.apart
  · rw [globals, states]
    exact declared.states

theorem mem_declaring (declared : builder.Declared) {hint : String} {data : Storage}
    {isMutable : Bool} {global : Global} :
    global ∈ (builder.declaring hint data isMutable).globals ↔
      global = { name := builder.nextName hint, data := data, isMutable := isMutable } ∨
        global ∈ builder.globals :=
  mem_insertGlobal (nextName_fresh declared.named hint)

theorem declaring (declared : builder.Declared) (hint : String) (data : Storage)
    (isMutable : Bool) : (builder.declaring hint data isMutable).Declared where
  named := by
    intro global member
    rcases declared.mem_declaring.mp member with rfl | earlier
    · exact ⟨_, builder.nameCounter, Nat.lt_succ_self _, rfl⟩
    · obtain ⟨before, count, below, spelled⟩ := declared.named global earlier
      exact ⟨before, count, Nat.lt_succ_of_lt below, spelled⟩
  apart := by
    have fresh := nextName_fresh declared.named hint
    refine (names_insertGlobal fresh).nodup_iff.mpr ?_
    exact List.nodup_cons.mpr ⟨fresh, declared.apart⟩
  states := fun entry member => (declared.states entry member).mono fun _ earlier =>
    declared.mem_declaring.mpr (.inr earlier)

theorem perform (declared : builder.Declared) (request : Request) :
    (Action.last (request.perform builder)).Declared := by
  cases request with
  | global hint data isMutable => exact declared.declaring hint data isMutable
  | stateGlobal hint data =>
      have seeded := declared.declaring hint data true
      have paired := seeded.declaring (hint ++ ".reset") data.cleared false
      refine ⟨paired.named, paired.apart, ?_⟩
      intro entry member
      rcases List.mem_append.mp member with earlier | new
      · exact paired.states entry earlier
      · obtain rfl := List.mem_singleton.mp new
        refine ⟨_, seeded.mem_declaring.mpr (.inr (declared.mem_declaring.mpr (.inl rfl))),
          _, seeded.mem_declaring.mpr (.inl rfl), rfl, rfl, rfl, rfl, rfl, rfl⟩
  | _ => exact declared.of_same (Request.declaresNothing (by simp) builder)

/-- The declarations fit together after any requests. -/
theorem asked (declared : builder.Declared) (requests : List Request) :
    (builder.asked requests).Declared := by
  induction requests generalizing builder with
  | nil => exact declared
  | cons request rest ih => exact ih (declared.perform request)

end Declared
end FunctionBuilder

private theorem verified_ok {state after : FunctionBuilder} {function : Function}
    (done : (do
      let builder ← get
      Action.ofExcept builder.function.verify
      return builder.function : Building Function) state = .ok function after) :
    function = after.function := by
  obtain ⟨_, _, got, done⟩ := Action.bind_ok.mp done
  obtain ⟨rfl, rfl⟩ := Action.get_ok.mp got
  obtain ⟨_, _, verified, done⟩ := Action.bind_ok.mp done
  obtain ⟨-, rfl⟩ := Action.ofExcept_ok.mp verified
  obtain ⟨rfl, rfl⟩ := Action.pure_ok.mp done
  rfl

/-- A finished function has the name of its builder, which still declares the same. -/
theorem Building.finish_declares {builder after : FunctionBuilder} {function : Function}
    (done : Building.finish builder = .ok function after) :
    function.name = builder.function.name ∧ after.globals = builder.globals ∧
      after.states = builder.states := by
  have same := DeclaresNothing.finish.of_ok done
  simp only [FunctionBuilder.declarations, Prod.mk.injEq] at same
  obtain ⟨name, globals, states, -⟩ := same
  refine ⟨?_, globals, states⟩
  rw [← name]
  congr 1
  unfold Building.finish at done
  obtain ⟨opened, _, -, done⟩ := Action.bind_ok.mp done
  dsimp only at done
  split at done
  · obtain ⟨_, _, -, done⟩ := Action.bind_ok.mp done
    obtain ⟨_, _, -, done⟩ := Action.bind_ok.mp done
    exact verified_ok done
  · obtain ⟨_, _, -, done⟩ := Action.bind_ok.mp done
    exact verified_ok done

end TensorGraph.Code

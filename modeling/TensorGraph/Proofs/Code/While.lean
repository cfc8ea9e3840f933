/-
Conditional loops.

A conditional loop is three blocks: the condition begins in the first, the body
in the second, and code goes on in the third.  Condition and body may end in
other blocks than they begin in.  Whatever they are made of, the finished
function runs them in turns, and goes on behind the loop where the condition is
false for the first time.
-/

import TensorGraph.Proofs.Code.Enclosed
import TensorGraph.Proofs.Code.Finish
import TensorGraph.Proofs.Machine.Activation

namespace TensorGraph.Code.FunctionBuilder

open Machine

/-! ### Stages -/

section Stages

variable (builder : FunctionBuilder)

/-- At the start of the condition. -/
def whileEntered (label : String) : FunctionBuilder :=
  ((((builder.appending (label ++ ".cond")).appending (label ++ ".body")).appending
    (label ++ ".after")).closing (.jump builder.nextBlock)).seeking builder.nextBlock

/-- At the start of the body; the first block of the loop is `start`. -/
def whileTested (start : BlockId) (result : Operand) : FunctionBuilder :=
  (builder.closing (.branch result (start + 1) (start + 2) none)).seeking (start + 1)

/-- Behind the loop. -/
def whileClosed (start : BlockId) : FunctionBuilder :=
  (builder.closing (.jump start)).seeking (start + 2)

end Stages

variable {builder tested body last : FunctionBuilder} {label : String} {result : Operand}

theorem built_whileEntered (numbered : builder.Numbered) (opened : builder.Opened)
    (label : String) :
    builder.Built (fun id => builder.nextBlock ≤ id ∧ id < builder.nextBlock + 3)
      (builder.whileEntered label) := by
  have below : builder.nextBlock > builder.current := numbered.current_lt opened
  have framed := (((Built.start numbered opened).appending (label ++ ".cond")).appending
    (label ++ ".body")).appending (label ++ ".after")
  refine (framed.jumping (.inl (.inl (.inl rfl))) (owns_new builder 0) ?_ _).congr ?_
  · exact Nat.lt_add_of_pos_right (show 0 < 3 by decide)
  · intro id
    change (((id = builder.current ∨ id = builder.nextBlock) ∨ id = builder.nextBlock + 1) ∨
      id = builder.nextBlock + 2) ∧ id ≠ builder.current ↔ _
    omega

theorem built_whileTested (numbered : builder.Numbered) (opened : builder.Opened)
    (condition : (builder.whileEntered label).Enclosed tested) (result : Operand) :
    builder.Built (fun id => id = builder.nextBlock + 1 ∨ id = builder.nextBlock + 2)
      (tested.whileTested builder.nextBlock result) := by
  have inside : builder.nextBlock + 3 ≤ tested.current ∨ builder.nextBlock = tested.current :=
    condition.current.imp_right Eq.symm
  have grown : builder.nextBlock + 3 ≤ tested.nextBlock := condition.grows.next
  have ended := (built_whileEntered numbered opened label).part
    ⟨Nat.le_refl _, Nat.lt_add_of_pos_right (by decide)⟩ condition
  refine (ended.forking (.inr rfl) (owns_new builder 1) (by omega) (owns_new builder 2) (by omega)
    result none _).congr ?_
  intro id
  change (((builder.nextBlock ≤ id ∧ id < builder.nextBlock + 3) ∧ id ≠ builder.nextBlock) ∨
    id = tested.current) ∧ id ≠ tested.current ↔ _
  omega

/-- A conditional loop around an enclosed condition and an enclosed body is enclosed. -/
theorem enclosed_while (numbered : builder.Numbered) (opened : builder.Opened)
    (condition : (builder.whileEntered label).Enclosed tested)
    (inner : (tested.whileTested builder.nextBlock result).Enclosed body) :
    builder.Enclosed (body.whileClosed builder.nextBlock) := by
  have inside : tested.nextBlock ≤ body.current ∨ builder.nextBlock + 1 = body.current :=
    inner.current.imp_right Eq.symm
  have grown : builder.nextBlock + 3 ≤ tested.nextBlock := condition.grows.next
  have grown' : tested.nextBlock ≤ body.nextBlock := inner.grows.next
  have ended := (built_whileTested numbered opened condition result).part (.inl rfl) inner
  refine (ended.jumping (.inr rfl) (owns_new builder 0)
    (show builder.nextBlock < body.nextBlock by omega) (builder.nextBlock + 2)).congr ?_
  intro id
  change (((id = builder.nextBlock + 1 ∨ id = builder.nextBlock + 2) ∧
    id ≠ builder.nextBlock + 1) ∨ id = body.current) ∧ id ≠ body.current ↔
      id = builder.nextBlock + 2
  omega

/-! ### The finished function -/

/-- A function has the blocks of a builder, and those that were closed are the same, but for the
prologue of the first one. -/
def Carries (builder : FunctionBuilder) (function : Function) : Prop :=
  ∀ id block, builder.blockAt id = some block →
    ∃ final, Frame.blockOf? function id = some final ∧
      ∀ terminator, block.terminator? = some terminator →
        final.terminator? = some terminator ∧
          (id ≠ 0 → final.instructions = block.instructions)

/-- A function has the code of some blocks, and of those that were closed also how they end. -/
def Holds (builder : FunctionBuilder) (function : Function) (owned : Nat → Prop) : Prop :=
  ∀ id, owned id → ∀ block, builder.blockAt id = some block →
    ∃ final, Frame.blockOf? function id = some final ∧
      final.instructions = block.instructions ∧
      ∀ terminator, block.terminator? = some terminator → final.terminator? = some terminator

theorem Grows.carries {function : Function} (grows : builder.Grows last)
    (carries : last.Carries function) : builder.Carries function := by
  intro id block found
  obtain ⟨later, found', extends'⟩ := grows.blocks id block found
  obtain ⟨final, known, ends⟩ := carries id later found'
  obtain ⟨more, added, closed⟩ := extends'.instructions
  refine ⟨final, known, fun terminator here => ?_⟩
  obtain ⟨rfl, here'⟩ := closed terminator here
  rw [List.append_nil] at added
  rw [← added]
  exact ends terminator here'

/-- The prologue changes no other block, and no terminator. -/
theorem carries_withPrologue (numbered : builder.Numbered) (prologue : List Instruction) :
    builder.Carries
      { builder.function with blocks := withPrologue prologue builder.function.blocks } := by
  have same : ∀ blocks : List Block,
      (withPrologue prologue blocks).map Block.id = blocks.map Block.id := by
    intro blocks
    cases blocks <;> rfl
  have distinct : ((withPrologue prologue builder.function.blocks).map Block.id).Nodup := by
    rw [same]
    exact numbered.distinct
  intro id block found
  obtain rfl : block.id = id := numbered.id_of_getElem found
  have there : (withPrologue prologue builder.function.blocks)[block.id]? = some
      { block with
        instructions := (if block.id = 0 then prologue else []) ++ block.instructions } := by
    rw [getElem?_withPrologue, show builder.function.blocks[block.id]? = some block from found]
    rfl
  have known := @Optimize.blockOf_of_mem { builder.function with
    blocks := withPrologue prologue builder.function.blocks } distinct _ (List.mem_of_getElem? there)
  refine ⟨_, known, fun terminator ends => ⟨ends, fun other => ?_⟩⟩
  rw [if_neg other, List.nil_append]

/-- The finished function carries what was built. -/
theorem carries_finish (numbered : last.Numbered) {function : Function} {done : FunctionBuilder}
    (finished : Building.finish last = .ok function done) : last.Carries function := by
  unfold Building.finish at finished
  obtain ⟨_, _, looked, finished⟩ := Action.bind_ok.mp finished
  obtain ⟨rfl, rfl⟩ := Action.get_ok.mp looked
  -- What follows the last terminator.
  have verified : ∀ {closed : FunctionBuilder}, closed.Numbered → last.Grows closed →
      (do
        modify fun builder : FunctionBuilder =>
          { builder with
            prologue := []
            function :=
              { builder.function with
                blocks := withPrologue builder.prologue builder.function.blocks } }
        let function := (← get).function
        Action.ofExcept function.verify
        return function : Building Function) closed = .ok function done →
      last.Carries function := by
    intro closed numbered' grows ended
    obtain ⟨_, _, changed, ended⟩ := Action.bind_ok.mp ended
    cases Action.modify_ok.mp changed
    obtain ⟨_, _, looked, ended⟩ := Action.bind_ok.mp ended
    obtain ⟨rfl, rfl⟩ := Action.get_ok.mp looked
    obtain ⟨_, _, _, ended⟩ := Action.bind_ok.mp ended
    obtain ⟨rfl, _⟩ := Action.pure_ok.mp ended
    exact grows.carries (carries_withPrologue numbered' closed.prologue)
  dsimp only at finished
  split at finished
  · obtain ⟨_, closed, ended, finished⟩ := Action.bind_ok.mp finished
    obtain ⟨opened, rfl⟩ := (Building.terminate_ok numbered).mp ended
    exact verified (numbered.closing .leave) (grows_closing numbered opened .leave) finished
  · exact verified numbered (Grows.refl last) finished

/-- The blocks of an enclosed part lead to each other until the part ends. -/
theorem Enclosed.confined {after : FunctionBuilder} {function : Function}
    (enclosed : builder.Enclosed after) (carries : after.Carries function) :
    Confined function (fun id => builder.Owns id ∧ id < after.nextBlock) after.current := by
  rintro id ⟨owned, below⟩ different final known terminator ends target member
  cases found : after.blockAt id with
  | none => exact absurd below (Nat.not_lt.mpr (enclosed.numbered.blockAt_eq_none.mp found))
  | some block =>
      obtain ⟨final', known', same⟩ := carries id block found
      cases known.symm.trans known'
      cases closed : block.terminator? with
      | none => exact absurd closed (enclosed.closed id owned different block found)
      | some terminator' =>
          cases ends.symm.trans (same terminator' closed).1
          exact enclosed.inward id owned block found terminator closed target member

/-- Once its last block is closed, a function has the code of an enclosed part. -/
theorem Enclosed.holds {after : FunctionBuilder} {function : Function} {terminator : Terminator}
    (enclosed : builder.Enclosed after) (carries : (after.closing terminator).Carries function)
    (later : ∀ id, builder.Owns id → id ≠ 0) :
    after.Holds function (fun id => builder.Owns id ∧ id < after.nextBlock) := by
  rintro id ⟨owned, _⟩ block found
  have closed := enclosed.numbered.blockAt_closing terminator id
  by_cases current : id = after.current
  · rw [if_pos current, found] at closed
    obtain ⟨final, known, same⟩ := carries id _ closed
    refine ⟨final, known, (same terminator rfl).2 (later id owned), fun terminator' ends => ?_⟩
    obtain ⟨_, _, known', open'⟩ := enclosed.waiting id current
    cases found.symm.trans known'
    cases open'.symm.trans ends
  · rw [if_neg current, found] at closed
    obtain ⟨final, known, same⟩ := carries id _ closed
    obtain ⟨terminator', ends⟩ := Option.ne_none_iff_exists'.mp
      (enclosed.closed id owned current block found)
    exact ⟨final, known, (same terminator' ends).2 (later id owned),
      fun terminator'' ends' => (same terminator'' ends').1⟩

theorem Carries.exists_block {function : Function} (carries : last.Carries function)
    (numbered : last.Numbered) {id : Nat} (below : id < last.nextBlock) :
    ∃ block, Frame.blockOf? function id = some block ∧ block.id = id := by
  cases found : last.blockAt id with
  | none => exact absurd below (Nat.not_lt.mpr (numbered.blockAt_eq_none.mp found))
  | some block =>
      obtain ⟨final, known, _⟩ := carries id block found
      exact ⟨final, known, (mem_of_blockOf known).2⟩

/-- A block that a builder closed ends that way in the function. -/
theorem Carries.ends {function : Function} {terminator : Terminator} (numbered : last.Numbered)
    (carries : (last.closing terminator).Carries function) {final : Block}
    (opened : last.Opened) (known : Frame.blockOf? function last.current = some final) :
    final.terminator? = some terminator := by
  obtain ⟨block, found, _⟩ := opened_iff.mp opened
  have closed := numbered.blockAt_closing terminator last.current
  rw [if_pos rfl, found] at closed
  obtain ⟨final', known', ends⟩ := carries _ _ closed
  cases known.symm.trans known'
  exact (ends terminator rfl).1

end TensorGraph.Code.FunctionBuilder

namespace TensorGraph.Code.WhileLoop

open FunctionBuilder Building Machine

variable {builder tested bodied closed : FunctionBuilder} {label : String}

theorem onBuilder_ok {α : Type} {action : Building α} {whileLoop : WhileLoop} {answer : α}
    {next : WhileLoop × FunctionBuilder} :
    onBuilder action (whileLoop, builder) = .ok answer next ↔
      next.1 = whileLoop ∧ action builder = .ok answer next.2 := by
  simp only [onBuilder, Action.within_ok]
  constructor
  · rintro ⟨changed, done, rfl⟩
    exact ⟨rfl, done⟩
  · rintro ⟨rfl, done⟩
    exact ⟨next.2, done, rfl⟩

/-- The loop while its body is open. -/
def running (label : String) (builder : FunctionBuilder) : WhileLoop :=
  { label := label
    phase := .bodyOpen
    blocks? := some
      { condition := builder.nextBlock
        body := builder.nextBlock + 1
        after := builder.nextBlock + 2 } }

private theorem enter_start (label : String) (builder : FunctionBuilder) :
    enter (WhileLoop.start label, builder) =
      (do
        onBuilder do
          Building.jump builder.nextBlock
          Building.setInsertPoint builder.nextBlock
        return { condition := builder.nextBlock
                 body := builder.nextBlock + 1
                 after := builder.nextBlock + 2 } : WhileBuilding WhileBlocks)
        ({ running label builder with phase := .initialized },
          ((builder.appending (label ++ ".cond")).appending (label ++ ".body")).appending
            (label ++ ".after")) :=
  rfl

theorem beginWith_ok (numbered : builder.Numbered) {condition : Building Operand}
    {next : WhileLoop × FunctionBuilder} {answer : Unit}
    (kept : ∀ result tested, condition (builder.whileEntered label) = .ok result tested →
      tested.Numbered)
    (begun : beginWith condition (WhileLoop.start label, builder) = .ok answer next) :
    next.1 = running label builder ∧ ∃ result tested,
      condition (builder.whileEntered label) = .ok result tested ∧ tested.Opened ∧
      next.2 = tested.whileTested builder.nextBlock result := by
  rw [beginWith, Action.bind_ok, enter_start] at begun
  obtain ⟨blocks, ⟨entered, middle⟩, entering, begun⟩ := begun
  obtain ⟨_, ⟨_, _⟩, jumped, returned⟩ := Action.bind_ok.mp entering
  obtain ⟨rfl, returned⟩ := Action.pure_ok.mp returned
  cases returned
  obtain ⟨rfl, jumped⟩ := onBuilder_ok.mp jumped
  obtain ⟨_, _, jumped, moved⟩ := Action.bind_ok.mp jumped
  have framed := ((numbered.appending (label ++ ".cond")).appending (label ++ ".body")).appending
    (label ++ ".after")
  obtain ⟨_, rfl⟩ := (terminate_ok framed).mp jumped
  cases setInsertPoint_ok.mp moved
  obtain ⟨result, ⟨_, tested⟩, evaluated, begun⟩ := Action.bind_ok.mp begun
  obtain ⟨rfl, evaluated⟩ := onBuilder_ok.mp evaluated
  obtain ⟨_, ⟨_, _⟩, branched, changed⟩ := Action.bind_ok.mp begun
  obtain ⟨rfl, branched⟩ := onBuilder_ok.mp branched
  obtain ⟨_, _, branched, moved⟩ := Action.bind_ok.mp branched
  obtain ⟨_, opened, rfl⟩ := (branch_ok (kept result tested evaluated)).mp branched
  cases setInsertPoint_ok.mp moved
  cases changed
  exact ⟨rfl, result, tested, evaluated, opened, rfl⟩

theorem finish_ok (numbered : bodied.Numbered) (opened : bodied.Opened)
    {next : WhileLoop × FunctionBuilder} {answer : Unit}
    (ended : WhileLoop.finish (running label builder, bodied) = .ok answer next) :
    next.2 = bodied.whileClosed builder.nextBlock := by
  simp only [WhileLoop.finish, Action.bind_ok, Action.get_ok] at ended
  obtain ⟨_, _, ⟨rfl, rfl⟩, ended⟩ := ended
  simp only [running] at ended
  obtain ⟨_, _, changed, ended⟩ := Action.bind_ok.mp ended
  cases changed
  obtain ⟨_, ended⟩ := onBuilder_ok.mp ended
  obtain ⟨_, _, looked, ended⟩ := Action.bind_ok.mp ended
  obtain ⟨rfl, rfl⟩ := Action.get_ok.mp looked
  rw [isTerminated_of_opened numbered opened] at ended
  simp only [Bool.not_false, if_true, Action.bind_ok] at ended
  obtain ⟨_, _, jumped, moved⟩ := ended
  obtain ⟨_, rfl⟩ := (terminate_ok numbered).mp jumped
  exact setInsertPoint_ok.mp moved

/-- The two ways to begin a conditional loop, and the code that computes the condition: any code
that is enclosed, or the flag is loaded. -/
inductive Begins (entered : FunctionBuilder) : WhileBuilding Unit → Building Operand → Prop where
  | callback (condition : Building Operand)
      (enclosed : ∀ result tested, condition entered = .ok result tested →
        entered.Enclosed tested) :
      Begins entered (beginWith condition) condition
  | flag (pointer : Register) :
      Begins entered (beginFlag pointer) (do return .register (← Building.load pointer))

theorem Begins.enclosed {entered : FunctionBuilder} {action : WhileBuilding Unit}
    {condition : Building Operand} (begins : Begins entered action condition)
    (numbered : entered.Numbered) (opened : entered.Opened) {result : Operand}
    (evaluated : condition entered = .ok result tested) : entered.Enclosed tested := by
  cases begins with
  | callback _ enclosed => exact enclosed result tested evaluated
  | flag pointer =>
      exact Encloses.load.bind (fun _ => .pure _) entered _ tested numbered opened evaluated

/-- What is built behind the test of the loop keeps the code before it. -/
private theorem grows_whileClosed {result : Operand}
    (inner : (tested.whileTested builder.nextBlock result).Enclosed bodied) :
    (tested.closing (.branch result (builder.nextBlock + 1) (builder.nextBlock + 2) none)).Grows
      (bodied.whileClosed builder.nextBlock) :=
  (grows_seeking _ _).trans <| inner.grows.trans <|
    (grows_closing inner.numbered inner.opened _).trans (grows_seeking _ _)

/-- The blocks of a loop in a function that carries them. -/
private theorem liesIn {result : Operand} {function : Function} (numbered : builder.Numbered)
    (opened : builder.Opened) (condition : (builder.whileEntered label).Enclosed tested)
    (inner : (tested.whileTested builder.nextBlock result).Enclosed bodied)
    (carries : (bodied.whileClosed builder.nextBlock).Carries function) :
    ∃ alternation : Alternation, alternation.condition.id = builder.nextBlock ∧
      alternation.body.id = builder.nextBlock + 1 ∧
      alternation.after.id = builder.nextBlock + 2 ∧ alternation.test = tested.current ∧
      alternation.back = bodied.current ∧ alternation.result = result ∧
      alternation.LiesIn function
        (fun id => (builder.whileEntered label).Owns id ∧ id < tested.nextBlock)
        (fun id => (tested.whileTested builder.nextBlock result).Owns id ∧
          id < bodied.nextBlock) ∧
      tested.Holds function (fun id => (builder.whileEntered label).Owns id ∧
        id < tested.nextBlock) ∧
      bodied.Holds function (fun id => (tested.whileTested builder.nextBlock result).Owns id ∧
        id < bodied.nextBlock) := by
  have closed := enclosed_while numbered opened condition inner
  have back : bodied.Grows (bodied.whileClosed builder.nextBlock) :=
    (grows_closing inner.numbered inner.opened _).trans (grows_seeking _ _)
  have branched : (tested.closing (.branch result (builder.nextBlock + 1)
      (builder.nextBlock + 2) none)).Carries function :=
    (grows_whileClosed inner).carries carries
  have turned : tested.Carries function :=
    (grows_closing condition.numbered condition.opened _).carries branched
  have jumped : (bodied.closing (.jump builder.nextBlock)).Carries function :=
    (grows_seeking _ _).carries carries
  have grown : builder.nextBlock + 3 ≤ tested.nextBlock := condition.grows.next
  have grown' : tested.nextBlock ≤ bodied.nextBlock := inner.grows.next
  have below : builder.nextBlock > builder.current := numbered.current_lt opened
  have blocks : ∀ more : Nat, more < 3 → ∃ block, Frame.blockOf? function (builder.nextBlock + more) =
      some block ∧ block.id = builder.nextBlock + more :=
    fun more within => carries.exists_block closed.numbered
      (show builder.nextBlock + more < bodied.nextBlock by omega)
  obtain ⟨first, found, named⟩ := blocks 0 (by decide)
  obtain ⟨second, found', named'⟩ := blocks 1 (by decide)
  obtain ⟨third, found'', named''⟩ := blocks 2 (by decide)
  refine ⟨⟨first, second, third, tested.current, bodied.current, result⟩, named, named', named'',
    rfl, rfl, rfl, ?_, condition.holds branched ?_, inner.holds jumped ?_⟩
  rotate_left
  · rintro id (above | same)
    · change builder.nextBlock + 3 ≤ id at above
      omega
    · change id = builder.nextBlock at same
      omega
  · rintro id (above | same)
    · change tested.nextBlock ≤ id at above
      omega
    · change id = builder.nextBlock + 1 at same
      omega
  constructor
  case condition => rw [named]; exact found
  case body => rw [named']; exact found'
  case after => rw [named'']; exact found''
  case entered => exact ⟨.inr named, by rw [named]; omega⟩
  case entered' => exact ⟨.inr named', by rw [named']; omega⟩
  case tests =>
    intro block known
    rw [named', named'']
    exact branched.ends condition.numbered condition.opened known
  case returns =>
    intro block known
    rw [named]
    exact jumped.ends inner.numbered inner.opened known
  case confined => exact condition.confined turned
  case confined' => exact inner.confined (back.carries carries)
  case apart =>
    rintro ⟨above | same, _⟩
    · change builder.nextBlock + 3 ≤ third.id at above
      rw [named''] at above
      omega
    · change third.id = builder.nextBlock at same
      rw [named''] at same
      exact absurd same (Nat.ne_of_gt (Nat.lt_add_of_pos_right (by decide)))
  case apart' =>
    rintro ⟨above | same, _⟩
    · change tested.nextBlock ≤ third.id at above
      rw [named''] at above
      omega
    · change third.id = builder.nextBlock + 1 at same
      rw [named''] at same
      exact absurd same (Nat.ne_of_gt (Nat.lt_succ_self _))

/-- The block where the loop was begun leads into the condition. -/
private theorem begun_ends {result : Operand} {function : Function} (numbered : builder.Numbered)
    (opened : builder.Opened) (condition : (builder.whileEntered label).Enclosed tested)
    (inner : (tested.whileTested builder.nextBlock result).Enclosed bodied)
    (carries : (bodied.whileClosed builder.nextBlock).Carries function) {block : Block}
    (known : Frame.blockOf? function builder.current = some block) :
    block.terminator? = some (.jump builder.nextBlock) := by
  have framed := (((Built.start numbered opened).appending (label ++ ".cond")).appending
    (label ++ ".body")).appending (label ++ ".after")
  have open' : (((builder.appending (label ++ ".cond")).appending (label ++ ".body")).appending
      (label ++ ".after")).Opened := framed.opened (.inl (.inl (.inl rfl)))
  have grows : ((((builder.appending (label ++ ".cond")).appending (label ++ ".body")).appending
      (label ++ ".after")).closing (.jump builder.nextBlock)).Grows
        (bodied.whileClosed builder.nextBlock) :=
    (grows_seeking _ _).trans <| condition.grows.trans <|
      (grows_closing condition.numbered condition.opened _).trans (grows_whileClosed inner)
  exact (grows.carries carries).ends framed.numbered open' known

/-- A conditional loop tests before every turn. However its condition and its body are built,
the finished function runs from the block where the loop was begun into the condition, takes
turns of condition and body as long as the condition is true, and arrives behind the loop exactly
when the condition is false for the first time, in the state that these turns and the last
evaluation of the condition lead to. -/
theorem alternates {opened last done : FunctionBuilder} {whileLoop ended : WhileLoop}
    {action : WhileBuilding Unit} {condition : Building Operand} {function : Function}
    (numbered : builder.Numbered) (open' : builder.Opened)
    (begins : Begins (builder.whileEntered label) action condition)
    (begun : action (WhileLoop.start label, builder) = .ok () (whileLoop, opened))
    (inner : opened.Enclosed bodied)
    (finishing : WhileLoop.finish (whileLoop, bodied) = .ok () (ended, closed))
    (later : closed.Grows last) (numbered' : last.Numbered)
    (finished : Building.finish last = .ok function done) :
    ∃ (alternation : Alternation) (tested : FunctionBuilder),
      condition (builder.whileEntered label) = .ok alternation.result tested ∧
      alternation.test = tested.current ∧ alternation.back = bodied.current ∧
      tested.Holds function (fun id => (builder.whileEntered label).Owns id ∧
        id < tested.nextBlock) ∧
      bodied.Holds function (fun id => opened.Owns id ∧ id < bodied.nextBlock) ∧
      whileLoop.blocks? = some
        { condition := alternation.condition.id
          body := alternation.body.id
          after := alternation.after.id } ∧
      (∀ block ∈ [alternation.condition, alternation.body, alternation.after],
        Frame.blockOf? function block.id = some block) ∧
      ∀ (module : Module) (state : State), state.frame.function = function →
        Frame.blockOf? function builder.current = some state.frame.block →
        state.frame.pending = [] →
        Moves module state (state.goto alternation.condition) ∧
        (∀ count turned, alternation.Turns module state.callers count state turned →
          Reaches module state turned) ∧
        ∀ final,
          (∃ count, Until module state.callers (AtBlock state.callers alternation.after.id) count
            state final) ↔
          ∃ count turned evaluated,
            alternation.Turns module state.callers count state turned ∧
            alternation.Evaluates module state.callers turned evaluated false ∧
            final = evaluated.goto alternation.after := by
  have begun' : beginWith condition (WhileLoop.start label, builder) =
      .ok () (whileLoop, opened) := by
    cases begins <;> exact begun
  have evaluated : ∀ result tested, condition (builder.whileEntered label) = .ok result tested →
      (builder.whileEntered label).Enclosed tested := by
    intro result tested
    have entered := built_whileEntered numbered open' label
    exact begins.enclosed entered.numbered
      (entered.opened ⟨Nat.le_refl _, Nat.lt_add_of_pos_right (by decide)⟩)
  obtain ⟨rfl, result, tested, called, _, rfl⟩ := beginWith_ok numbered
    (fun result tested called => (evaluated result tested called).numbered) begun'
  have around := evaluated result tested called
  obtain rfl := finish_ok inner.numbered inner.opened finishing
  have carries := later.carries (carries_finish numbered' finished)
  obtain ⟨alternation, named, named', named'', test, back, rfl, lies, holds, holds'⟩ :=
    liesIn numbered open' around inner carries
  refine ⟨alternation, tested, called, test, back, holds, holds', ?_, ?_, ?_⟩
  · rw [named, named', named'']
    rfl
  · simp only [List.forall_mem_cons]
    exact ⟨lies.condition, lies.body, lies.after, fun _ none => absurd none List.not_mem_nil⟩
  · intro module state same known idle
    have ready : Alternation.LiesIn.Ready alternation function state.callers state := by
      have jumps := begun_ends numbered open' around inner carries known
      refine ⟨rfl, same, ?_, ?_⟩
      · rw [Frame.position, idle, jumps, named]
      · have here : state.frame.block.id = builder.current := (mem_of_blockOf known).2
        have below : builder.nextBlock > builder.current := numbered.current_lt open'
        rw [here, named'']
        exact Nat.ne_of_lt (Nat.lt_add_right 2 below)
    exact ⟨(lies.begins ready).mpr rfl, fun count turned taken => (lies.turns ready taken).2.1,
      fun final => lies.arrives_iff ready⟩

namespace Counting

/-- A function of a counter in memory and of the limit up to which it counts. -/
def entry : FunctionBuilder :=
  FunctionBuilder.start "count" [.pointer .i64, .element .i64]

def condition : Building Operand := do
  let counter ← Building.load 0
  let below ← Building.compare .lt (.register counter) (.register 1)
  return .register below

def body : Building Unit := do
  let counter ← Building.load 0
  let next ← Building.binary .add (.register counter) (.constant (.i64 1))
  Building.store 0 (.register next)

theorem condition_encloses : Encloses condition :=
  Encloses.load.bind fun _ => Encloses.compare.bind fun _ => .pure _

theorem body_encloses : Encloses body :=
  Encloses.load.bind fun _ => Encloses.binary.bind fun _ => .store

/-- A loop that counts up to a limit takes turns. -/
theorem alternates_counting :
    ∃ (opened bodied closed done : FunctionBuilder) (whileLoop ended : WhileLoop)
      (function : Function),
      beginWith condition (WhileLoop.start "w", entry) = .ok () (whileLoop, opened) ∧
      body opened = .ok () bodied ∧
      WhileLoop.finish (whileLoop, bodied) = .ok () (ended, closed) ∧
      Building.finish closed = .ok function done ∧
      ∃ alternation : Alternation, alternation.result = .register 3 ∧
        ∀ (module : Module) (state : State), state.frame.function = function →
          Frame.blockOf? function 0 = some state.frame.block → state.frame.pending = [] →
          ∀ final,
            (∃ count, Until module state.callers (AtBlock state.callers alternation.after.id)
              count state final) ↔
            ∃ count turned evaluated,
              alternation.Turns module state.callers count state turned ∧
              alternation.Evaluates module state.callers turned evaluated false ∧
              final = evaluated.goto alternation.after := by
  obtain ⟨opened, bodied, closed, done, whileLoop, ended, function, begun, ran, finishing, finished,
      numbered, open', numbered'⟩ :
    ∃ (opened bodied closed done : FunctionBuilder) (whileLoop ended : WhileLoop)
      (function : Function),
      beginWith condition (WhileLoop.start "w", entry) = .ok () (whileLoop, opened) ∧
      body opened = .ok () bodied ∧
      WhileLoop.finish (whileLoop, bodied) = .ok () (ended, closed) ∧
      Building.finish closed = .ok function done ∧
      opened.Numbered ∧ opened.Opened ∧ closed.Numbered :=
    ⟨_, _, _, _, _, _, _, rfl, rfl, rfl, rfl, rfl, ⟨_, rfl, rfl⟩, rfl⟩
  have entered : entry.Numbered := rfl
  obtain ⟨tested, evaluated⟩ :
    ∃ tested, condition (entry.whileEntered "w") = .ok (.register 3) tested := ⟨_, rfl⟩
  obtain ⟨alternation, tested', called, _, _, _, _, _, _, arrives⟩ :=
    alternates entered ⟨_, rfl, rfl⟩
      (.callback condition fun result tested done => condition_encloses _ _ _
        (built_whileEntered entered ⟨_, rfl, rfl⟩ "w").numbered ⟨_, rfl, rfl⟩ done)
      begun (body_encloses _ _ _ numbered open' ran) finishing (Grows.refl closed) numbered'
      finished
  obtain ⟨result, rfl⟩ := EStateM.Result.ok.inj (called.symm.trans evaluated)
  refine ⟨opened, bodied, closed, done, whileLoop, ended, function, begun, ran, finishing,
    finished, alternation, result, fun module state same known idle final => ?_⟩
  exact (arrives module state same known idle).2.2 final

end Counting

end TensorGraph.Code.WhileLoop

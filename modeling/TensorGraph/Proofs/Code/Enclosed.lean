/-
Enclosed building.

What is built in the open block and in blocks of its own is entered at the one
and left at the block that stays open: every other block that it closes leads
back into it, or returns.  Appending, pushing, closing and moving on keep to
this, and so do branches and loops around parts that are enclosed themselves.
-/

import TensorGraph.Proofs.Code.Branch

namespace TensorGraph.Code.FunctionBuilder

/-- The block was open at `base`, or was appended later. -/
def Owns (base : FunctionBuilder) (id : Nat) : Prop :=
  base.nextBlock ≤ id ∨ id = base.current

/-- What was built since `base`, where the blocks that `waits` names are still open. -/
structure Built (base : FunctionBuilder) (waits : Nat → Prop) (now : FunctionBuilder) :
    Prop where
  numbered : now.Numbered
  grows : base.Grows now
  others : ∀ id < base.nextBlock, id ≠ base.current → now.blockAt id = base.blockAt id
  waiting : ∀ id, waits id → base.Owns id ∧
    ∃ block, now.blockAt id = some block ∧ block.terminator? = none
  closed : ∀ id, base.Owns id → ¬waits id → ∀ block, now.blockAt id = some block →
    block.terminator? ≠ none
  inward : ∀ id, base.Owns id → ∀ block, now.blockAt id = some block →
    ∀ terminator, block.terminator? = some terminator → ∀ target ∈ terminator.successors,
      base.Owns target ∧ target < now.nextBlock

/-- Only the block where code goes on is left open. -/
def Enclosed (builder after : FunctionBuilder) : Prop :=
  builder.Built (fun id => id = after.current) after

namespace Built

variable {base now after : FunctionBuilder} {waits waits' : Nat → Prop}

theorem congr (built : base.Built waits now) (same : ∀ id, waits id ↔ waits' id) :
    base.Built waits' now where
  numbered := built.numbered
  grows := built.grows
  others := built.others
  waiting := fun id waiting => built.waiting id ((same id).mpr waiting)
  closed := fun id owned done => built.closed id owned fun waiting => done ((same id).mp waiting)
  inward := built.inward

theorem start (numbered : base.Numbered) (opened : base.Opened) :
    base.Built (fun id => id = base.current) base := by
  obtain ⟨current, here, open'⟩ := opened
  have new : ∀ id, base.Owns id → id ≠ base.current → base.blockAt id = none := by
    rintro id (above | same) different
    · exact numbered.blockAt_eq_none.mpr above
    · exact absurd same different
  constructor
  case numbered => exact numbered
  case grows => exact Grows.refl base
  case others => exact fun _ _ _ => rfl
  case waiting =>
    rintro id rfl
    exact ⟨.inr rfl, current, here, open'⟩
  case closed =>
    intro id owned different block found
    rw [new id owned different] at found
    cases found
  case inward =>
    intro id owned block found terminator ends
    by_cases same : id = base.current
    · rw [same] at found
      cases (show base.blockAt base.current = some current from here).symm.trans found
      rw [open'] at ends
      cases ends
    · rw [new id owned same] at found
      cases found

theorem opened (built : base.Built waits now) (current : waits now.current) : now.Opened :=
  (built.waiting now.current current).2

/-- Blocks from before are not where code goes on. -/
theorem away (built : base.Built waits now) (current : waits now.current) {id : Nat}
    (below : id < base.nextBlock) (different : id ≠ base.current) : id ≠ now.current := by
  rintro rfl
  rcases (built.waiting now.current current).1 with above | same
  · exact absurd below (Nat.not_lt.mpr above)
  · exact different same

theorem below (built : base.Built waits now) {id : Nat} (waiting : waits id) :
    id < now.nextBlock := by
  obtain ⟨_, block, found, _⟩ := built.waiting id waiting
  by_contra above
  rw [built.numbered.blockAt_eq_none.mpr (Nat.not_lt.mp above)] at found
  cases found

/-- A step beside the blocks, or to another one of them. -/
theorem aside (built : base.Built waits now) (grows : now.Grows after)
    (blocks : after.function.blocks = now.function.blocks)
    (next : after.nextBlock = now.nextBlock) : base.Built waits after := by
  have same : ∀ id, after.blockAt id = now.blockAt id := fun id => by
    rw [blockAt, blocks, blockAt]
  constructor
  case numbered =>
    rw [Numbered, blocks, next]
    exact built.numbered
  case grows => exact built.grows.trans grows
  case others =>
    intro id below different
    rw [same, built.others id below different]
  case waiting =>
    intro id waiting
    rw [same]
    exact built.waiting id waiting
  case closed =>
    intro id owned done
    rw [same]
    exact built.closed id owned done
  case inward =>
    intro id owned
    rw [same, next]
    exact built.inward id owned

theorem seeking (built : base.Built waits now) (block : BlockId) :
    base.Built waits (now.seeking block) :=
  built.aside (grows_seeking now block) rfl rfl

theorem registering (built : base.Built waits now) (type : RegisterType) :
    base.Built waits (now.registering type) :=
  built.aside (grows_registering now type) rfl rfl

theorem allocating (built : base.Built waits now) (dtype : DType) (count : Nat) :
    base.Built waits (now.allocating dtype count) :=
  built.aside (grows_preparing now dtype rfl) rfl rfl

theorem appending (built : base.Built waits now) (label : String) :
    base.Built (fun id => waits id ∨ id = now.nextBlock) (now.appending label) := by
  have blocks := built.numbered.blockAt_appending label
  have grows := grows_appending now label
  constructor
  case numbered => exact built.numbered.appending label
  case grows => exact built.grows.trans grows
  case others =>
    intro id below different
    have old : id ≠ now.nextBlock := Nat.ne_of_lt (Nat.lt_of_lt_of_le below built.grows.next)
    rw [blocks, if_neg old, built.others id below different]
  case waiting =>
    rintro id (waiting | rfl)
    · have old : id ≠ now.nextBlock := Nat.ne_of_lt (built.below waiting)
      rw [blocks, if_neg old]
      exact built.waiting id waiting
    · rw [blocks, if_pos rfl]
      exact ⟨.inl built.grows.next, _, rfl, rfl⟩
  case closed =>
    intro id owned done block found
    rw [not_or] at done
    rw [blocks, if_neg done.2] at found
    exact built.closed id owned done.1 block found
  case inward =>
    intro id owned block found terminator ends target leads
    rw [blocks] at found
    split at found
    · cases found
      cases ends
    · obtain ⟨owned', below⟩ := built.inward id owned block found terminator ends target leads
      exact ⟨owned', Nat.lt_succ_of_lt below⟩

theorem pushing (built : base.Built waits now) (current : waits now.current)
    (instruction : Instruction) : base.Built waits (now.pushing instruction) := by
  have blocks := built.numbered.blockAt_pushing instruction
  -- Pushing leaves every terminator as it is.
  have kept : ∀ id block, (now.pushing instruction).blockAt id = some block →
      ∃ before, now.blockAt id = some before ∧ block.terminator? = before.terminator? := by
    intro id block found
    rw [blocks] at found
    split at found
    · obtain ⟨before, known, rfl⟩ := Option.map_eq_some_iff.mp found
      exact ⟨before, known, rfl⟩
    · exact ⟨block, found, rfl⟩
  constructor
  case numbered => exact built.numbered.pushing instruction
  case grows =>
    exact built.grows.trans (grows_pushing built.numbered (built.opened current) instruction)
  case others =>
    intro id below different
    rw [blocks, if_neg (built.away current below different), built.others id below different]
  case waiting =>
    intro id waiting
    obtain ⟨owned, block, found, open'⟩ := built.waiting id waiting
    refine ⟨owned, ?_⟩
    rw [blocks, found]
    split
    · exact ⟨_, rfl, open'⟩
    · exact ⟨block, rfl, open'⟩
  case closed =>
    intro id owned done block found
    obtain ⟨before, known, same⟩ := kept id block found
    rw [same]
    exact built.closed id owned done before known
  case inward =>
    intro id owned block found terminator ends
    obtain ⟨before, known, same⟩ := kept id block found
    rw [same] at ends
    exact built.inward id owned before known terminator ends

theorem closing (built : base.Built waits now) (current : waits now.current)
    {terminator : Terminator}
    (leads : ∀ target ∈ terminator.successors, base.Owns target ∧ target < now.nextBlock) :
    base.Built (fun id => waits id ∧ id ≠ now.current) (now.closing terminator) := by
  have blocks := built.numbered.blockAt_closing terminator
  constructor
  case numbered => exact built.numbered.closing terminator
  case grows =>
    exact built.grows.trans (grows_closing built.numbered (built.opened current) terminator)
  case others =>
    intro id below different
    rw [blocks, if_neg (built.away current below different), built.others id below different]
  case waiting =>
    rintro id ⟨waiting, away⟩
    rw [blocks, if_neg away]
    exact built.waiting id waiting
  case closed =>
    intro id owned done block found
    rw [blocks] at found
    split at found
    · obtain ⟨before, _, rfl⟩ := Option.map_eq_some_iff.mp found
      simp
    · rename_i away
      exact built.closed id owned (fun waiting => done ⟨waiting, away⟩) block found
  case inward =>
    intro id owned block found terminator' ends target member
    rw [blocks] at found
    split at found
    · obtain ⟨before, _, rfl⟩ := Option.map_eq_some_iff.mp found
      cases ends
      exact leads target member
    · exact built.inward id owned block found terminator' ends target member

/-- The block ends with a jump, and code goes on in another one. -/
theorem jumping (built : base.Built waits now) (current : waits now.current) {target : Nat}
    (owned : base.Owns target) (below : target < now.nextBlock) (next : BlockId) :
    base.Built (fun id => waits id ∧ id ≠ now.current)
      ((now.closing (.jump target)).seeking next) := by
  refine (built.closing current ?_).seeking next
  intro other member
  rw [List.mem_singleton.mp member]
  exact ⟨owned, below⟩

/-- The block ends with a branch, and code goes on in another one. -/
theorem forking (built : base.Built waits now) (current : waits now.current)
    {onTrue onFalse : Nat} (owned : base.Owns onTrue) (below : onTrue < now.nextBlock)
    (owned' : base.Owns onFalse) (below' : onFalse < now.nextBlock) (test : Operand)
    (hint? : Option LoopHint) (next : BlockId) :
    base.Built (fun id => waits id ∧ id ≠ now.current)
      ((now.closing (.branch test onTrue onFalse hint?)).seeking next) := by
  refine (built.closing current ?_).seeking next
  intro other member
  simp only [Terminator.successors, List.mem_cons, List.not_mem_nil, or_false] at member
  rcases member with rfl | rfl
  · exact ⟨owned, below⟩
  · exact ⟨owned', below'⟩

/-- What an inner part owns belongs to the part around it. -/
theorem owns (built : base.Built waits now) (current : waits now.current) {id : Nat}
    (owned : now.Owns id) : base.Owns id := by
  rcases owned with above | rfl
  · exact .inl (Nat.le_trans built.grows.next above)
  · exact (built.waiting now.current current).1

/-- A part that is enclosed. -/
theorem part (built : base.Built waits now) (current : waits now.current)
    (inner : now.Enclosed after) :
    base.Built (fun id => (waits id ∧ id ≠ now.current) ∨ id = after.current) after := by
  have outside : ∀ id < now.nextBlock, id ≠ now.current → after.blockAt id = now.blockAt id :=
    inner.others
  constructor
  case numbered => exact inner.numbered
  case grows => exact built.grows.trans inner.grows
  case others =>
    intro id below different
    rw [outside id (Nat.lt_of_lt_of_le below built.grows.next) (built.away current below different),
      built.others id below different]
  case waiting =>
    rintro id (⟨waiting, away⟩ | rfl)
    · rw [outside id (built.below waiting) away]
      exact built.waiting id waiting
    · obtain ⟨owned', open'⟩ := inner.waiting after.current rfl
      exact ⟨built.owns current owned', open'⟩
  case closed =>
    intro id owned done block found
    rw [not_or] at done
    by_cases inside : now.Owns id
    · exact inner.closed id inside done.2 block found
    · rw [Owns, not_or, Nat.not_le] at inside
      rw [outside id inside.1 inside.2] at found
      exact built.closed id owned (fun waiting => done.1 ⟨waiting, inside.2⟩) block found
  case inward =>
    intro id owned block found terminator ends target member
    by_cases inside : now.Owns id
    · obtain ⟨owned', below⟩ := inner.inward id inside block found terminator ends target member
      exact ⟨built.owns current owned', below⟩
    · rw [Owns, not_or, Nat.not_le] at inside
      rw [outside id inside.1 inside.2] at found
      obtain ⟨owned', below⟩ := built.inward id owned block found terminator ends target member
      exact ⟨owned', Nat.lt_of_lt_of_le below inner.grows.next⟩

end Built

namespace Enclosed

variable {builder after last : FunctionBuilder}

theorem refl (numbered : builder.Numbered) (opened : builder.Opened) : builder.Enclosed builder :=
  Built.start numbered opened

theorem trans (one : builder.Enclosed after) (two : after.Enclosed last) :
    builder.Enclosed last :=
  (Built.part one rfl two).congr fun id => by
    constructor
    · rintro (⟨here, away⟩ | same)
      · exact absurd here away
      · exact same
    · exact .inr

theorem opened (enclosed : builder.Enclosed after) : after.Opened :=
  Built.opened enclosed rfl

theorem current (enclosed : builder.Enclosed after) : builder.Owns after.current :=
  (enclosed.waiting after.current rfl).1

theorem balanced (enclosed : builder.Enclosed after) : builder.Balanced after where
  others := enclosed.others
  opened := enclosed.opened
  closed := fun id different owned => enclosed.closed id owned different
  current := enclosed.current.symm
  next := enclosed.grows.next

/-- Any instruction is an enclosed part, calls included. -/
theorem pushing (numbered : builder.Numbered) (opened : builder.Opened)
    (instruction : Instruction) : builder.Enclosed (builder.pushing instruction) :=
  Built.pushing (refl numbered opened) rfl instruction

/-- So is one that defines a register. -/
theorem defining (numbered : builder.Numbered) (opened : builder.Opened) (type : RegisterType)
    (instruction : Instruction) :
    builder.Enclosed ((builder.registering type).pushing instruction) :=
  Built.pushing (Built.registering (refl numbered opened) type) rfl instruction

end Enclosed

/-! ### Branches and loops -/

section Constructs

variable {builder body other tested : FunctionBuilder}

@[simp]
theorem nextBlock_appending (builder : FunctionBuilder) (label : String) :
    (builder.appending label).nextBlock = builder.nextBlock + 1 :=
  rfl

/-- A block appended since. -/
theorem owns_new (builder : FunctionBuilder) (more : Nat) :
    builder.Owns (builder.nextBlock + more) :=
  .inl (Nat.le_add_right _ more)

/-- The blocks of a branch wait for the answers. -/
private theorem built_branchOpened (numbered : builder.Numbered) (opened : builder.Opened)
    (trueLabel falseLabel mergeLabel : String) (test : Operand) :
    builder.Built (fun id => builder.nextBlock ≤ id ∧ id < builder.nextBlock + 3)
      (builder.branchOpened trueLabel falseLabel mergeLabel test) := by
  have below : builder.nextBlock > builder.current := numbered.current_lt opened
  have framed := (((Built.start numbered opened).appending trueLabel).appending
    falseLabel).appending mergeLabel
  refine (framed.forking (.inl (.inl (.inl rfl))) (owns_new builder 0) ?_ (owns_new builder 1) ?_
    test none builder.nextBlock).congr ?_
  · exact Nat.lt_add_of_pos_right (show 0 < 3 by decide)
  · exact Nat.add_lt_add_left (show 1 < 3 by decide) _
  · intro id
    change (((id = builder.current ∨ id = builder.nextBlock) ∨ id = builder.nextBlock + 1) ∨
      id = builder.nextBlock + 2) ∧ id ≠ builder.current ↔ _
    omega

/-- A branch around enclosed answers is enclosed. -/
theorem enclosed_branch (numbered : builder.Numbered) (opened : builder.Opened)
    {trueLabel falseLabel mergeLabel : String} {test : Operand}
    (first : (builder.branchOpened trueLabel falseLabel mergeLabel test).Enclosed body)
    (second : (body.branchTurned builder.nextBlock).Enclosed other) :
    builder.Enclosed (other.branchClosed builder.nextBlock) := by
  -- Where the first answer ends, and where the second one does.
  have inside : builder.nextBlock + 3 ≤ body.current ∨ builder.nextBlock = body.current :=
    first.current.imp_right Eq.symm
  have inside' : body.nextBlock ≤ other.current ∨ builder.nextBlock + 1 = other.current :=
    second.current.imp_right Eq.symm
  have grown : builder.nextBlock + 3 ≤ body.nextBlock := first.grows.next
  have grown' : body.nextBlock ≤ other.nextBlock := second.grows.next
  have begun := (built_branchOpened numbered opened trueLabel falseLabel mergeLabel test).part
    ⟨Nat.le_refl _, Nat.lt_add_of_pos_right (by decide)⟩ first
  have turned : builder.Built
      (fun id => id = builder.nextBlock + 1 ∨ id = builder.nextBlock + 2)
      (body.branchTurned builder.nextBlock) := by
    refine (begun.jumping (.inr rfl) (owns_new builder 2) (by omega)
      (builder.nextBlock + 1)).congr ?_
    intro id
    change (((builder.nextBlock ≤ id ∧ id < builder.nextBlock + 3) ∧ id ≠ builder.nextBlock) ∨
      id = body.current) ∧ id ≠ body.current ↔ _
    omega
  have ended := turned.part (.inl rfl) second
  refine (ended.jumping (.inr rfl) (owns_new builder 2) (by omega) (builder.nextBlock + 2)).congr ?_
  intro id
  change (((id = builder.nextBlock + 1 ∨ id = builder.nextBlock + 2) ∧
    id ≠ builder.nextBlock + 1) ∨ id = other.current) ∧ id ≠ other.current ↔
      id = builder.nextBlock + 2
  omega

/-- The blocks of a counted loop wait for its body. -/
private theorem built_loopOpened (numbered : builder.Numbered) (opened : builder.Opened)
    (label : String) (hint? : Option LoopHint) (first limit : Operand) :
    builder.Built (fun id => builder.nextBlock + 2 ≤ id ∧ id < builder.nextBlock + 5)
      (builder.loopOpened label hint? first limit) := by
  have below : builder.nextBlock > builder.current := numbered.current_lt opened
  have room : ∀ more < 5, builder.nextBlock + more < builder.nextBlock + 5 :=
    fun more within => Nat.add_lt_add_left within _
  have framed : builder.Built
      (fun id => id = builder.current ∨ builder.nextBlock ≤ id ∧ id < builder.nextBlock + 5)
      (builder.loopFrame label) := by
    have blocks := (((((Built.start numbered opened).appending (label ++ ".init")).appending
      (label ++ ".cond")).appending (label ++ ".body")).appending (label ++ ".inc")).appending
        (label ++ ".after")
    refine (blocks.allocating .i64 1).congr ?_
    intro id
    simp only [nextBlock_appending]
    omega
  have jumped : builder.Built (fun id => builder.nextBlock ≤ id ∧ id < builder.nextBlock + 5)
      (((builder.loopFrame label).closing (.jump builder.nextBlock)).seeking
        builder.nextBlock) := by
    refine (framed.jumping (.inl rfl) (owns_new builder 0) (room 0 (by decide)) _).congr ?_
    intro id
    change (id = builder.current ∨ builder.nextBlock ≤ id ∧ id < builder.nextBlock + 5) ∧
      id ≠ builder.current ↔ _
    omega
  have begun : builder.Built (fun id => builder.nextBlock + 1 ≤ id ∧ id < builder.nextBlock + 5)
      (builder.loopStart label first) := by
    have stored := jumped.pushing ⟨Nat.le_refl _, room 0 (by decide)⟩ (.store builder.size first)
    refine (stored.jumping ⟨Nat.le_refl _, room 0 (by decide)⟩ (owns_new builder 1)
      (room 1 (by decide)) (builder.nextBlock + 1)).congr ?_
    intro id
    change (builder.nextBlock ≤ id ∧ id < builder.nextBlock + 5) ∧ id ≠ builder.nextBlock ↔ _
    omega
  have here : builder.nextBlock + 1 ≤ builder.nextBlock + 1 ∧
      builder.nextBlock + 1 < builder.nextBlock + 5 := ⟨Nat.le_refl _, room 1 (by decide)⟩
  have loaded := (begun.registering (.element .i64)).pushing here
    (.load (builder.loopStart label first).size builder.size)
  have compared := (loaded.registering (.element .bool)).pushing here
    (.compare (builder.loopLoaded label first).size .lt
      (.register (builder.loopStart label first).size) limit)
  refine (compared.forking here (owns_new builder 2) (room 2 (by decide)) (owns_new builder 4)
    (room 4 (by decide)) (.register (builder.loopLoaded label first).size) hint?
    (builder.nextBlock + 2)).congr ?_
  intro id
  change (builder.nextBlock + 1 ≤ id ∧ id < builder.nextBlock + 5) ∧
    id ≠ builder.nextBlock + 1 ↔ _
  omega

/-- A counted loop around an enclosed body is enclosed. -/
theorem enclosed_loop (numbered : builder.Numbered) (opened : builder.Opened) {label : String}
    {hint? : Option LoopHint} {first limit : Operand}
    (inner : (builder.loopOpened label hint? first limit).Enclosed body) (counter : Register)
    (step : Operand) : builder.Enclosed (body.loopClosed builder.nextBlock counter step) := by
  have inside : builder.nextBlock + 5 ≤ body.current ∨ builder.nextBlock + 2 = body.current :=
    inner.current.imp_right Eq.symm
  have grown : builder.nextBlock + 5 ≤ body.nextBlock := inner.grows.next
  have ended := (built_loopOpened numbered opened label hint? first limit).part
    ⟨Nat.le_refl _, Nat.add_lt_add_left (by decide) _⟩ inner
  have back : builder.Built
      (fun id => id = builder.nextBlock + 3 ∨ id = builder.nextBlock + 4)
      (body.loopBack builder.nextBlock) := by
    refine (ended.jumping (.inr rfl) (owns_new builder 3) (by omega)
      (builder.nextBlock + 3)).congr ?_
    intro id
    change (((builder.nextBlock + 2 ≤ id ∧ id < builder.nextBlock + 5) ∧
      id ≠ builder.nextBlock + 2) ∨ id = body.current) ∧ id ≠ body.current ↔ _
    omega
  have loaded := (back.registering (.element .i64)).pushing (.inl rfl)
    (.load (body.loopBack builder.nextBlock).size counter)
  have added := (loaded.registering (.element .i64)).pushing (.inl rfl)
    (.binary (body.loopCounted builder.nextBlock counter).size .add
      (.register (body.loopBack builder.nextBlock).size) step)
  have stored := added.pushing (.inl rfl)
    (.store counter (.register (body.loopCounted builder.nextBlock counter).size))
  refine (stored.jumping (.inl rfl) (owns_new builder 1)
    (show builder.nextBlock + 1 < body.nextBlock by omega) (builder.nextBlock + 4)).congr ?_
  intro id
  change (id = builder.nextBlock + 3 ∨ id = builder.nextBlock + 4) ∧
    id ≠ builder.nextBlock + 3 ↔ id = builder.nextBlock + 4
  omega

end Constructs
end TensorGraph.Code.FunctionBuilder

namespace TensorGraph.Code.Building

open FunctionBuilder

/-! ### Enclosed code -/

/-- Where the action succeeds, what it builds is enclosed. -/
def Encloses {α : Type} (action : Building α) : Prop :=
  ∀ builder answer after, builder.Numbered → builder.Opened →
    action builder = .ok answer after → builder.Enclosed after

namespace Encloses

variable {α β : Type} {left right operand : Operand} {pointer : Register}

theorem pure (answer : α) : Encloses (Pure.pure answer : Building α) := by
  intro builder _ after numbered opened done
  obtain ⟨_, rfl⟩ := Action.pure_ok.mp done
  exact Enclosed.refl numbered opened

/-- One enclosed action after another. -/
theorem bind {action : Building α} {next : α → Building β} (first : Encloses action)
    (second : ∀ answer, Encloses (next answer)) : Encloses (action >>= next) := by
  intro builder _ after numbered opened done
  obtain ⟨answer, middle, begun, ended⟩ := Action.bind_ok.mp done
  have one := first builder answer middle numbered opened begun
  exact one.trans (second answer middle _ after one.numbered one.opened ended)

theorem load : Encloses (Building.load pointer) := by
  intro builder _ after numbered opened done
  obtain ⟨_, _, _, _, rfl⟩ := (load_ok numbered).mp done
  exact Enclosed.defining numbered opened _ _

theorem store : Encloses (Building.store pointer operand) := by
  intro builder _ after numbered opened done
  obtain ⟨_, _, _, _, rfl⟩ := (store_ok numbered).mp done
  exact Enclosed.pushing numbered opened _

theorem offset : Encloses (Building.offset pointer operand) := by
  intro builder _ after numbered opened done
  obtain ⟨_, _, _, ⟨_, _, rfl⟩ | ⟨_, _, _, rfl⟩⟩ := (offset_ok numbered).mp done
  · exact Enclosed.refl numbered opened
  · exact Enclosed.defining numbered opened _ _

theorem unary {op : UnaryOp} : Encloses (Building.unary op operand) := by
  intro builder _ after numbered opened done
  obtain ⟨_, _, _, _, rfl⟩ := (unary_ok numbered).mp done
  exact Enclosed.defining numbered opened _ _

theorem binary {op : BinaryOp} : Encloses (Building.binary op left right) := by
  intro builder _ after numbered opened done
  obtain ⟨_, _, _, _, _, rfl⟩ := (binary_ok numbered).mp done
  exact Enclosed.defining numbered opened _ _

theorem compare {op : CompareOp} : Encloses (Building.compare op left right) := by
  intro builder _ after numbered opened done
  obtain ⟨_, _, _, _, _, rfl⟩ := (compare_ok numbered).mp done
  exact Enclosed.defining numbered opened _ _

theorem cast {dtype : DType} : Encloses (Building.cast operand dtype) := by
  intro builder _ after numbered opened done
  obtain ⟨_, _, _, rfl⟩ := (cast_ok numbered).mp done
  exact Enclosed.defining numbered opened _ _

end Encloses
end TensorGraph.Code.Building

/-
What a counted loop is made of.

Opening a loop appends its five blocks and fills the first two; closing it fills
the fourth and goes on in the last.  Between the two stands the body, which
leaves all blocks of the loop but its own as they are.
-/

import TensorGraph.Code.Loop
import TensorGraph.Proofs.Code.Balanced

namespace TensorGraph.Code.FunctionBuilder

/-! ### Opening -/

section Opening

variable (builder : FunctionBuilder) (label : String)

/-- The blocks of the loop, with the memory of the counter. -/
def loopFrame : FunctionBuilder :=
  (((((builder.appending (label ++ ".init")).appending (label ++ ".cond")).appending
    (label ++ ".body")).appending (label ++ ".inc")).appending (label ++ ".after")).allocating
      .i64 1

/-- The counter set up. -/
def loopInit (first : Operand) : FunctionBuilder :=
  (((builder.loopFrame label).closing (.jump builder.nextBlock)).seeking
    builder.nextBlock).pushing (.store builder.size first)

/-- At the start of the comparison. -/
def loopStart (first : Operand) : FunctionBuilder :=
  ((builder.loopInit label first).closing (.jump (builder.nextBlock + 1))).seeking
    (builder.nextBlock + 1)

/-- The counter loaded. -/
def loopLoaded (first : Operand) : FunctionBuilder :=
  ((builder.loopStart label first).registering (.element .i64)).pushing
    (.load (builder.loopStart label first).size builder.size)

/-- The counter compared. -/
def loopTested (first limit : Operand) : FunctionBuilder :=
  ((builder.loopLoaded label first).registering (.element .bool)).pushing
    (.compare (builder.loopLoaded label first).size .lt
      (.register (builder.loopStart label first).size) limit)

/-- A loop with its body open. -/
def loopOpened (hint? : Option LoopHint) (first limit : Operand) : FunctionBuilder :=
  ((builder.loopTested label first limit).closing
    (.branch (.register (builder.loopLoaded label first).size) (builder.nextBlock + 2)
      (builder.nextBlock + 4) hint?)).seeking (builder.nextBlock + 2)

end Opening

/-! ### Closing -/

section Closing

variable (builder : FunctionBuilder) (first : BlockId) (counter : Register)

/-- After the body, where the counter moves on. -/
def loopBack : FunctionBuilder :=
  (builder.closing (.jump (first + 3))).seeking (first + 3)

def loopCounted : FunctionBuilder :=
  ((builder.loopBack first).registering (.element .i64)).pushing
    (.load (builder.loopBack first).size counter)

def loopNext (step : Operand) : FunctionBuilder :=
  ((builder.loopCounted first counter).registering (.element .i64)).pushing
    (.binary (builder.loopCounted first counter).size .add
      (.register (builder.loopBack first).size) step)

def loopStored (step : Operand) : FunctionBuilder :=
  (builder.loopNext first counter step).pushing
    (.store counter (.register (builder.loopCounted first counter).size))

/-- Behind the loop. -/
def loopClosed (step : Operand) : FunctionBuilder :=
  ((builder.loopStored first counter step).closing (.jump (first + 1))).seeking (first + 4)

end Closing

theorem steps_loopFrame (builder : FunctionBuilder) (label : String) :
    Steps builder (builder.loopFrame label) := by
  refine Relation.ReflTransGen.tail ?_ (Step.allocate _ .i64 1)
  refine Relation.ReflTransGen.tail ?_ (Step.append _ _)
  refine Relation.ReflTransGen.tail ?_ (Step.append _ _)
  refine Relation.ReflTransGen.tail ?_ (Step.append _ _)
  refine Relation.ReflTransGen.tail ?_ (Step.append _ _)
  exact Relation.ReflTransGen.single (Step.append _ _)

/-! ### The blocks of a loop -/

section Blocks

variable {builder : FunctionBuilder} {label : String} {first limit : Operand}
  {hint? : Option LoopHint}

/-- The blocks of the frame before anything is put into them. -/
theorem blockAt_loopFrame (numbered : builder.Numbered) (id : Nat) :
    (builder.loopFrame label).blockAt id =
      if id = builder.nextBlock + 4 then
        some (Block.empty (builder.nextBlock + 4) (label ++ ".after"))
      else if id = builder.nextBlock + 3 then
        some (Block.empty (builder.nextBlock + 3) (label ++ ".inc"))
      else if id = builder.nextBlock + 2 then
        some (Block.empty (builder.nextBlock + 2) (label ++ ".body"))
      else if id = builder.nextBlock + 1 then
        some (Block.empty (builder.nextBlock + 1) (label ++ ".cond"))
      else if id = builder.nextBlock then some (Block.empty builder.nextBlock (label ++ ".init"))
      else builder.blockAt id := by
  have numbered₁ := numbered.appending (label ++ ".init")
  have numbered₂ := numbered₁.appending (label ++ ".cond")
  have numbered₃ := numbered₂.appending (label ++ ".body")
  have numbered₄ := numbered₃.appending (label ++ ".inc")
  rw [loopFrame, blockAt_allocating, numbered₄.blockAt_appending, numbered₃.blockAt_appending,
    numbered₂.blockAt_appending, numbered₁.blockAt_appending, numbered.blockAt_appending]
  rfl

theorem numbered_loopFrame (numbered : builder.Numbered) (label : String) :
    (builder.loopFrame label).Numbered := by
  have numbered₁ := numbered.appending (label ++ ".init")
  have numbered₂ := numbered₁.appending (label ++ ".cond")
  have numbered₃ := numbered₂.appending (label ++ ".body")
  have numbered₄ := numbered₃.appending (label ++ ".inc")
  exact (numbered₄.appending (label ++ ".after")).allocating .i64 1

theorem numbered_loopStart (numbered : builder.Numbered) (label : String) (first : Operand) :
    (builder.loopStart label first).Numbered :=
  ((((numbered_loopFrame numbered label).closing _).seeking _).pushing _ |>.closing _).seeking _

theorem numbered_loopTested (numbered : builder.Numbered) (label : String)
    (first limit : Operand) : (builder.loopTested label first limit).Numbered :=
  ((((numbered_loopStart numbered label first).registering _).pushing _).registering _).pushing _

theorem size_loopStart : (builder.loopStart label first).size = builder.size + 1 := by
  simp [loopStart, loopInit, loopFrame]

theorem size_loopLoaded : (builder.loopLoaded label first).size = builder.size + 2 := by
  simp [loopLoaded, size_loopStart]

/-- The first block of the loop is complete when the comparison starts. -/
theorem blockAt_loopStart (numbered : builder.Numbered) (opened : builder.Opened)
    (id : Nat) :
    (builder.loopStart label first).blockAt id =
      if id = builder.nextBlock then
        some
          { id := builder.nextBlock
            label := label ++ ".init"
            instructions := [.store builder.size first]
            terminator? := some (.jump (builder.nextBlock + 1)) }
      else if id = builder.current then
        (builder.blockAt id).map fun block =>
          { block with terminator? := some (.jump builder.nextBlock) }
      else (builder.loopFrame label).blockAt id := by
  have below : (builder.current : Nat) < builder.nextBlock := numbered.current_lt opened
  have jumped := (numbered_loopFrame numbered label).closing (.jump builder.nextBlock)
  have stored := (jumped.seeking builder.nextBlock).pushing (.store builder.size first)
  have last := stored.blockAt_closing (.jump (builder.nextBlock + 1)) id
  have second := (jumped.seeking builder.nextBlock).blockAt_pushing (.store builder.size first) id
  have one := (numbered_loopFrame numbered label).blockAt_closing (.jump builder.nextBlock) id
  rw [blockAt_seeking] at second
  change (builder.loopStart label first).blockAt id = _ at last
  rw [last, second, one, blockAt_loopFrame numbered]
  change (if id = builder.nextBlock then
    Option.map _ (if id = builder.nextBlock then Option.map _ (if id = builder.current then _ else _)
      else (if id = builder.current then _ else _))
    else (if id = builder.nextBlock then _ else (if id = builder.current then _ else _))) = _
  by_cases first' : id = builder.nextBlock
  · simp only [first', if_true, if_neg (Nat.ne_of_gt below)]
    simp [Block.empty]
  · by_cases current : id = builder.current
    · simp only [current, if_true]
      have apart : ∀ more, builder.current ≠ builder.nextBlock + more := fun more =>
        Nat.ne_of_lt (Nat.lt_of_lt_of_le below (Nat.le_add_right _ more))
      simp only [if_neg (apart 4), if_neg (apart 3), if_neg (apart 2), if_neg (apart 1),
        if_neg (Nat.ne_of_lt below)]
    · simp only [if_neg first', if_neg current]

/-- The blocks of a loop whose body is open. -/
theorem blockAt_loopOpened (numbered : builder.Numbered) (opened : builder.Opened) (id : Nat) :
    (builder.loopOpened label hint? first limit).blockAt id =
      if id = builder.nextBlock + 1 then
        some
          { id := builder.nextBlock + 1
            label := label ++ ".cond"
            instructions :=
              [.load (builder.size + 1) builder.size,
               .compare (builder.size + 2) .lt (.register (builder.size + 1)) limit]
            terminator? := some (.branch (.register (builder.size + 2)) (builder.nextBlock + 2)
              (builder.nextBlock + 4) hint?) }
      else (builder.loopStart label first).blockAt id := by
  have started := numbered_loopStart numbered label first
  have loaded := (started.registering (.element .i64)).pushing
    (.load (builder.loopStart label first).size builder.size)
  have one := (started.registering (.element .i64)).blockAt_pushing
    (.load (builder.loopStart label first).size builder.size) id
  have two := (loaded.registering (.element .bool)).blockAt_pushing
    (.compare (builder.loopLoaded label first).size .lt
      (.register (builder.loopStart label first).size) limit) id
  have last := (numbered_loopTested numbered label first limit).blockAt_closing
    (.branch (.register (builder.loopLoaded label first).size) (builder.nextBlock + 2)
      (builder.nextBlock + 4) hint?) id
  rw [blockAt_registering] at one two
  change (builder.loopOpened label hint? first limit).blockAt id = _ at last
  change (builder.loopTested label first limit).blockAt id = _ at two
  rw [last, two, one]
  change (if id = builder.nextBlock + 1 then
    Option.map _ (if id = builder.nextBlock + 1 then
      Option.map _ (if id = builder.nextBlock + 1 then _ else _) else _) else
        (if id = builder.nextBlock + 1 then _ else (if id = builder.nextBlock + 1 then _ else _))) = _
  by_cases here : id = builder.nextBlock + 1
  · have below : (builder.current : Nat) < builder.nextBlock := numbered.current_lt opened
    have a₁ : builder.nextBlock + 1 ≠ builder.nextBlock := by omega
    have a₂ : builder.nextBlock + 1 ≠ builder.current :=
      Nat.ne_of_gt (Nat.lt_succ_of_lt below)
    simp only [here, if_true]
    rw [blockAt_loopStart numbered opened, if_neg a₁, if_neg a₂, blockAt_loopFrame numbered]
    simp [Block.empty, size_loopStart, size_loopLoaded]
  · simp only [if_neg here]

variable (label first limit hint?) in
/-- Three blocks of an open loop are still empty. -/
theorem blockAt_loopOpened_empty (numbered : builder.Numbered) (opened : builder.Opened)
    {more : Nat} (among : more = 2 ∨ more = 3 ∨ more = 4) :
    ∃ text, (builder.loopOpened label hint? first limit).blockAt (builder.nextBlock + more) =
      some (Block.empty (builder.nextBlock + more) text) := by
  have below : builder.current < builder.nextBlock := numbered.current_lt opened
  have away : builder.nextBlock + more ≠ builder.current :=
    Nat.ne_of_gt (Nat.lt_of_lt_of_le below (Nat.le_add_right _ more))
  have a₁ : builder.nextBlock + more ≠ builder.nextBlock + 1 := by omega
  have a₂ : builder.nextBlock + more ≠ builder.nextBlock := by omega
  rw [blockAt_loopOpened numbered opened, if_neg a₁, blockAt_loopStart numbered opened, if_neg a₂,
    if_neg away, blockAt_loopFrame numbered]
  rcases among with rfl | rfl | rfl <;> simp

variable (label first limit hint?) in
theorem opened_loopOpened (numbered : builder.Numbered) (opened : builder.Opened) :
    (builder.loopOpened label hint? first limit).Opened := by
  obtain ⟨text, empty⟩ := blockAt_loopOpened_empty label first limit hint? numbered opened
    (.inl rfl)
  exact opened_iff.mpr ⟨_, empty, rfl⟩

theorem states_loopOpened :
    (builder.loopOpened label hint? first limit).states = builder.states := by
  simp [loopOpened, loopTested, loopLoaded, loopStart, loopInit, loopFrame]

/-- The registers of an open loop: the place of the counter, its value, and the answer of
the comparison. -/
theorem types_loopOpened :
    (builder.loopOpened label hint? first limit).function.registerTypes =
      ((builder.function.registerTypes.push (.pointer .i64)).push (.element .i64)).push
        (.element .bool) := by
  simp [loopOpened, loopTested, loopLoaded, loopStart, loopInit, loopFrame]

theorem counter_loopOpened :
    (builder.loopOpened label hint? first limit).function.registerTypes[builder.size]? =
      some (.pointer .i64) := by
  rw [types_loopOpened, Array.getElem?_push, if_neg (by simp only [size, Array.size_push]; omega),
    Array.getElem?_push, if_neg (by simp only [size, Array.size_push]; omega),
    Array.getElem?_push]
  exact if_pos rfl

theorem states_loopClosed (body : FunctionBuilder) (start : BlockId) (counter : Register)
    (step : Operand) : (body.loopClosed start counter step).states = body.states := by
  simp [loopClosed, loopStored, loopNext, loopCounted, loopBack]

theorem blockAt_loopOpened_others (numbered : builder.Numbered) (opened : builder.Opened)
    {id : Nat} (within : id < builder.nextBlock) (different : id ≠ builder.current) :
    (builder.loopOpened label hint? first limit).blockAt id = builder.blockAt id := by
  have apart : ∀ more, id ≠ builder.nextBlock + more := fun more =>
    Nat.ne_of_lt (Nat.lt_of_lt_of_le within (Nat.le_add_right _ more))
  rw [blockAt_loopOpened numbered opened, if_neg (apart 1), blockAt_loopStart numbered opened,
    if_neg (Nat.ne_of_lt within), if_neg different, blockAt_loopFrame numbered]
  simp only [if_neg (apart 4), if_neg (apart 3), if_neg (apart 2), if_neg (apart 1),
    if_neg (Nat.ne_of_lt within)]

/-- The blocks that an open loop has filled are closed. -/
theorem closed_loopOpened (numbered : builder.Numbered) (opened : builder.Opened) {id : Nat}
    (filled : id = builder.nextBlock ∨ id = builder.nextBlock + 1 ∨ id = builder.current)
    {block : Block}
    (found : (builder.loopOpened label hint? first limit).blockAt id = some block) :
    block.terminator? ≠ none := by
  have below : builder.current < builder.nextBlock := numbered.current_lt opened
  rw [blockAt_loopOpened numbered opened, blockAt_loopStart numbered opened] at found
  rcases filled with rfl | rfl | rfl
  · rw [if_neg (Nat.ne_of_lt (Nat.lt_succ_self _)), if_pos rfl] at found
    cases found
    simp
  · rw [if_pos rfl] at found
    cases found
    simp
  · rw [if_neg (Nat.ne_of_lt (Nat.lt_succ_of_lt below)), if_neg (Nat.ne_of_lt below), if_pos rfl]
      at found
    obtain ⟨before, _, rfl⟩ := Option.map_eq_some_iff.mp found
    simp

/-- The blocks of a loop that is closed; `body` is the builder behind the body. -/
theorem blockAt_loopClosed {body : FunctionBuilder} (numbered : body.Numbered) {start : Nat}
    (away : body.current ≠ start + 3) (counter : Register) (step : Operand) (id : Nat) :
    (body.loopClosed start counter step).blockAt id =
      if id = start + 3 then
        (body.blockAt id).map fun block =>
          { block with
            instructions := block.instructions ++
              [.load body.size counter, .binary (body.size + 1) .add (.register body.size) step,
               .store counter (.register (body.size + 1))]
            terminator? := some (.jump (start + 1)) }
      else if id = body.current then
        (body.blockAt id).map fun block => { block with terminator? := some (.jump (start + 3)) }
      else body.blockAt id := by
  have jumped := numbered.closing (.jump (start + 3))
  have back : (body.loopBack start).Numbered := jumped.seeking (start + 3)
  have counted : (body.loopCounted start counter).Numbered :=
    (back.registering (.element .i64)).pushing _
  have next : (body.loopNext start counter step).Numbered :=
    (counted.registering (.element .i64)).pushing _
  have stored : (body.loopStored start counter step).Numbered := next.pushing _
  have one := numbered.blockAt_closing (.jump (start + 3)) id
  have two := (back.registering (.element .i64)).blockAt_pushing
    (.load (body.loopBack start).size counter) id
  have three := (counted.registering (.element .i64)).blockAt_pushing
    (.binary (body.loopCounted start counter).size .add (.register (body.loopBack start).size) step)
    id
  have four := next.blockAt_pushing
    (.store counter (.register (body.loopCounted start counter).size)) id
  have last := stored.blockAt_closing (.jump (start + 1)) id
  rw [blockAt_registering] at two three
  change (body.loopClosed start counter step).blockAt id = _ at last
  change (body.loopStored start counter step).blockAt id = _ at four
  change (body.loopNext start counter step).blockAt id = _ at three
  change (body.loopCounted start counter).blockAt id = if id = start + 3 then
    Option.map _ ((body.closing (.jump (start + 3))).blockAt id) else
      (body.closing (.jump (start + 3))).blockAt id at two
  rw [last, four, three, two, one]
  change (if id = start + 3 then Option.map _ (if id = start + 3 then Option.map _
      (if id = start + 3 then Option.map _ (if id = start + 3 then _ else _) else _) else _) else
    (if id = start + 3 then _ else (if id = start + 3 then _ else
      (if id = start + 3 then _ else _)))) = _
  have size : (body.loopBack start).size = body.size := rfl
  have size' : (body.loopCounted start counter).size = body.size + 1 := by
    simp [loopCounted, size]
  by_cases here : id = start + 3
  · have other : start + 3 ≠ body.current := Ne.symm away
    simp only [here, if_true, if_neg other, size, size']
    cases body.blockAt (start + 3) <;> simp
  · simp only [if_neg here]

/-- A loop around a balanced body is balanced. -/
theorem balanced_loop (formed : builder.Formed) (opened : builder.Opened)
    {body : FunctionBuilder} (formed' : body.Formed)
    (balanced : (builder.loopOpened label hint? first limit).Balanced body) (step : Operand) :
    builder.Balanced (body.loopClosed builder.nextBlock builder.size step) := by
  have numbered := formed.numbered
  have below : builder.current < builder.nextBlock := numbered.current_lt opened
  have room : (builder.loopOpened label hint? first limit).nextBlock = builder.nextBlock + 5 := rfl
  have inside : body.current = builder.nextBlock + 2 ∨ builder.nextBlock + 5 ≤ body.current :=
    balanced.current
  have away : ∀ id : Nat, id < builder.nextBlock + 5 → id ≠ builder.nextBlock + 2 →
      body.current ≠ id := by
    intro id within different same
    rcases inside with two | above
    · exact different (same.symm.trans two)
    · rw [same] at above
      omega
  have kept : ∀ id : Nat, id < builder.nextBlock + 5 → id ≠ builder.nextBlock + 2 →
      body.blockAt id = (builder.loopOpened label hint? first limit).blockAt id :=
    fun id within different => balanced.others id within different
  have blocks := blockAt_loopClosed formed'.numbered
    (away (builder.nextBlock + 3) (by omega) (by omega)) builder.size step
  have untouched : ∀ id : Nat, id < builder.nextBlock + 5 → id ≠ builder.nextBlock + 2 →
      id ≠ builder.nextBlock + 3 →
      (body.loopClosed builder.nextBlock builder.size step).blockAt id =
        (builder.loopOpened label hint? first limit).blockAt id := by
    intro id within two three
    rw [blocks, if_neg three, if_neg (Ne.symm (away id within two)), kept id within two]
  constructor
  case others =>
    intro id within different
    have small : id < builder.nextBlock := within
    rw [untouched id (by omega) (by omega) (by omega),
      blockAt_loopOpened_others numbered opened within different]
  case opened =>
    obtain ⟨text, empty⟩ := blockAt_loopOpened_empty label first limit hint? numbered opened
      (.inr (.inr rfl))
    exact ⟨_, (untouched (builder.nextBlock + 4) (by omega) (by omega) (by omega)).trans empty, rfl⟩
  case closed =>
    change ∀ id : Nat, _
    intro id different side block found
    have behind : id ≠ builder.nextBlock + 4 := different
    by_cases three : id = builder.nextBlock + 3
    · rw [blocks, if_pos three] at found
      obtain ⟨before, _, rfl⟩ := Option.map_eq_some_iff.mp found
      simp
    by_cases last : id = body.current
    · rw [blocks, if_neg three, if_pos last] at found
      obtain ⟨before, _, rfl⟩ := Option.map_eq_some_iff.mp found
      simp
    by_cases inBody : builder.nextBlock + 5 ≤ id ∨ id = builder.nextBlock + 2
    · rw [blocks, if_neg three, if_neg last] at found
      exact balanced.closed id last inBody block found
    · rw [not_or, Nat.not_le] at inBody
      rw [untouched id inBody.1 inBody.2 three] at found
      refine closed_loopOpened numbered opened ?_ found
      rcases side with above | same
      · have above' : builder.nextBlock ≤ id := above
        have : id < builder.nextBlock + 5 := inBody.1
        omega
      · exact .inr (.inr same)
  case current => exact .inr (Nat.le_add_right _ 4)
  case next =>
    have grown : builder.nextBlock + 5 ≤ body.nextBlock := balanced.next
    exact Nat.le_trans (Nat.le_add_right _ 5) grown

end Blocks

end TensorGraph.Code.FunctionBuilder

namespace TensorGraph.Code.ForLoop

open FunctionBuilder Action Building

variable {builder after : FunctionBuilder}

theorem onBuilder_ok {α : Type} {action : Building α} {forLoop : ForLoop} {answer : α}
    {next : ForLoop × FunctionBuilder} :
    onBuilder action (forLoop, builder) = .ok answer next ↔
      next.1 = forLoop ∧ action builder = .ok answer next.2 := by
  simp only [onBuilder, within_ok]
  constructor
  · rintro ⟨changed, done, rfl⟩
    exact ⟨rfl, done⟩
  · rintro ⟨rfl, done⟩
    exact ⟨next.2, done, rfl⟩

/-- The loop while its body is open. -/
def running (label : String) (hint : LoopHint) (step : Operand) (builder : FunctionBuilder) :
    ForLoop :=
  { label := label
    phase := .bodyOpen
    blocks? := some
      { init := builder.nextBlock
        condition := builder.nextBlock + 1
        body := builder.nextBlock + 2
        increment := builder.nextBlock + 3
        after := builder.nextBlock + 4 }
    counter? := some builder.size
    step := step
    hint := hint }

private theorem createBlocks_start (label : String) (hint : LoopHint)
    (builder : FunctionBuilder) :
    createBlocks (ForLoop.start label hint, builder) =
      .ok
        { init := builder.nextBlock
          condition := builder.nextBlock + 1
          body := builder.nextBlock + 2
          increment := builder.nextBlock + 3
          after := builder.nextBlock + 4 }
        ({ label := label
           phase := .initialized
           blocks? := some
             { init := builder.nextBlock
               condition := builder.nextBlock + 1
               body := builder.nextBlock + 2
               increment := builder.nextBlock + 3
               after := builder.nextBlock + 4 }
           counter? := none
           step := .constant (.i64 1)
           hint := hint },
         ((((builder.appending (label ++ ".init")).appending (label ++ ".cond")).appending
           (label ++ ".body")).appending (label ++ ".inc")).appending (label ++ ".after")) :=
  rfl

/-- A jump to a block of the function is a step. -/
theorem jump_step (formed : builder.Formed) {target : BlockId} (known : target < builder.nextBlock)
    {result : Unit} (done : jump target builder = .ok result after) :
    Step builder after ∧ after = builder.closing (.jump target) := by
  obtain ⟨opened, rfl⟩ := (terminate_ok formed.numbered).mp done
  refine ⟨Step.close builder (.jump target) opened ?_, rfl⟩
  intro other member
  rw [List.mem_singleton.mp member]
  exact known

/-- The instructions that set up and compare the counter. -/
private theorem entered_ok (formed : builder.Formed) {label : String}
    {first limit : Operand} {hint? : Option LoopHint} {result : Unit}
    (done : (do
      jump builder.nextBlock
      setInsertPoint builder.nextBlock
      store builder.size first
      jump (builder.nextBlock + 1)
      setInsertPoint (builder.nextBlock + 1)
      let current ← load builder.size
      let below ← Building.compare .lt (.register current) limit
      branch (.register below) (builder.nextBlock + 2) (builder.nextBlock + 4) hint?
      setInsertPoint (builder.nextBlock + 2) : Building Unit) (builder.loopFrame label) =
        .ok result after) :
    after = builder.loopOpened label hint? first limit ∧ Steps builder after := by
  have framed := steps_loopFrame builder label
  simp only [bind_ok] at done
  obtain ⟨_, _, jumped, _, _, moved, _, _, stored, _, _, jumped', _, _, moved', _, _, loaded,
    _, _, compared, _, _, branched, done⟩ := done
  have room : (builder.loopFrame label).nextBlock = builder.nextBlock + 5 := rfl
  have typed : (builder.loopFrame label).function.registerTypes[builder.size]? =
      some (.pointer .i64) := Array.getElem?_push_size
  have formed₁ := Steps.formed framed formed
  have known₁ : builder.nextBlock < (builder.loopFrame label).nextBlock := by omega
  obtain ⟨step₁, rfl⟩ := jump_step formed₁ known₁ jumped
  cases setInsertPoint_ok.mp moved
  have seek₁ := Step.seek ((builder.loopFrame label).closing (.jump builder.nextBlock))
    builder.nextBlock
  have formed₂ := seek₁.formed (step₁.formed formed₁)
  obtain ⟨_, _, _, opened₂, rfl⟩ := (store_ok formed₂.numbered).mp stored
  have step₂ := Step.write _ (.store builder.size first) opened₂ trivial rfl
  have formed₃ := step₂.formed formed₂
  have known₃ : builder.nextBlock + 1 < (builder.loopInit label first).nextBlock := by
    change builder.nextBlock + 1 < (builder.loopFrame label).nextBlock
    omega
  obtain ⟨step₃, rfl⟩ := jump_step formed₃ known₃ jumped'
  cases setInsertPoint_ok.mp moved'
  have seek₃ := Step.seek ((builder.loopInit label first).closing (.jump (builder.nextBlock + 1)))
    (builder.nextBlock + 1)
  have formed₄ := seek₃.formed (step₃.formed formed₃)
  obtain ⟨dtype, counted, opened₄, rfl, rfl⟩ := (load_ok formed₄.numbered).mp loaded
  cases typed.symm.trans (pointeeType_ok.mp counted)
  have step₄ := Step.define (builder.loopStart label first) (.element .i64)
    (.load (builder.loopStart label first).size builder.size) opened₄ trivial rfl
  have formed₅ := step₄.formed formed₄
  obtain ⟨_, _, _, opened₅, rfl, rfl⟩ := (compare_ok formed₅.numbered).mp compared
  have step₅ := Step.define (builder.loopLoaded label first) (.element .bool)
    (.compare (builder.loopLoaded label first).size .lt
      (.register (builder.loopStart label first).size) limit) opened₅ trivial rfl
  have formed₆ := step₅.formed formed₅
  obtain ⟨_, opened₆, rfl⟩ := (branch_ok formed₆.numbered).mp branched
  have step₆ := Step.close (builder.loopTested label first limit)
    (.branch (.register (builder.loopLoaded label first).size) (builder.nextBlock + 2)
      (builder.nextBlock + 4) hint?) opened₆ (by
        intro target member
        have next : (builder.loopTested label first limit).nextBlock = builder.nextBlock + 5 := rfl
        rw [next]
        simp only [Terminator.successors, List.mem_cons, List.not_mem_nil, or_false] at member
        rcases member with rfl | rfl <;> exact Nat.add_lt_add_left (by decide) _)
  cases setInsertPoint_ok.mp done
  refine ⟨rfl, framed.trans ?_⟩
  exact ((((((Relation.ReflTransGen.single step₁).tail seek₁).tail step₂).tail step₃).tail
    seek₃).tail step₄).tail step₅ |>.tail step₆ |>.tail (Step.seek _ _)

theorem beginValues_ok (formed : builder.Formed) {label : String} {hint : LoopHint}
    {first limit step : Operand} {counter : Register} {next : ForLoop × FunctionBuilder}
    (done : beginValues first limit step (ForLoop.start label hint, builder) = .ok counter next) :
    counter = builder.size ∧ next.1 = running label hint step builder ∧
      next.2 = builder.loopOpened label (if hint.isEmpty then none else some hint) first limit ∧
      Steps builder next.2 := by
  rw [beginValues, bind_ok] at done
  obtain ⟨blocks, middle, created, done⟩ := done
  rw [createBlocks_start] at created
  cases created
  simp only [bind_ok, onBuilder_ok, alloca_ok, change, modify_ok, get_ok, pure_ok] at done
  obtain ⟨_, ⟨_, _⟩, ⟨rfl, rfl, rfl⟩, _, _, rfl, _, _, ⟨rfl, rfl⟩, _, ⟨_, after⟩, entered, _, _,
    rfl, rfl, rfl⟩ := done
  obtain ⟨rfl, entered⟩ := onBuilder_ok.mp entered
  obtain ⟨same, steps⟩ := entered_ok formed entered
  exact ⟨rfl, rfl, same, steps⟩

theorem opened_ok (formed : builder.Formed) {label : String} {hint : LoopHint}
    {first limit step : Int64} {forLoop : ForLoop} {counter : Register}
    (done : opened label hint first limit step builder = .ok (forLoop, counter) after) :
    0 < step ∧ counter = builder.size ∧
      forLoop = running label hint (.constant (.i64 step)) builder ∧
      after = builder.loopOpened label (if hint.isEmpty then none else some hint)
        (.constant (.i64 first)) (.constant (.i64 limit)) ∧
      Steps builder after := by
  unfold opened at done
  split at done
  case h_2 failed => cases done
  case h_1 found forLoop' builder' begun =>
    cases done
    unfold beginRange at begun
    split at begun
    case isTrue small =>
      simp only [bind_ok] at begun
      obtain ⟨_, _, _, _, _, aborted, _⟩ := begun
      exact absurd aborted abort_ok
    case isFalse positive =>
      obtain ⟨same, running', opened', steps⟩ := beginValues_ok formed begun
      exact ⟨Int64.not_le.mp positive, same, running', opened', steps⟩

theorem close_ok (formed : builder.Formed) (opened : builder.Opened) {label : String}
    {hint : LoopHint} {step : Operand} {base : FunctionBuilder} {result : Unit}
    (below : base.nextBlock + 4 < builder.nextBlock)
    (typed : builder.function.registerTypes[base.size]? = some (.pointer .i64))
    (done : close (running label hint step base) builder = .ok result after) :
    after = builder.loopClosed base.nextBlock base.size step ∧ Steps builder after := by
  unfold close at done
  split at done
  case h_2 failed => cases done
  case h_1 loop' builder' finished =>
    cases done
    simp only [finish, bind_ok, get_ok] at finished
    obtain ⟨_, _, ⟨rfl, rfl⟩, finished⟩ := finished
    simp only [running, bind_ok, change, modify_ok] at finished
    obtain ⟨_, _, rfl, finished⟩ := finished
    obtain ⟨_, finished⟩ := onBuilder_ok.mp finished
    rw [bind_ok] at finished
    obtain ⟨_, _, looked, finished⟩ := finished
    obtain ⟨rfl, rfl⟩ := get_ok.mp looked
    rw [isTerminated_of_opened formed.numbered opened] at finished
    simp only [Bool.not_false, if_true, bind_ok] at finished
    obtain ⟨_, _, jumped, _, _, moved, _, _, loaded, _, _, added, _, _, stored, _, _, jumped',
      moved'⟩ := finished
    obtain ⟨step₁, rfl⟩ := jump_step formed (Nat.lt_of_succ_lt below) jumped
    cases setInsertPoint_ok.mp moved
    have seek₁ := Step.seek (builder.closing (.jump (base.nextBlock + 3))) (base.nextBlock + 3)
    have formed₂ := seek₁.formed (step₁.formed formed)
    obtain ⟨dtype, counted, opened₂, rfl, rfl⟩ := (load_ok formed₂.numbered).mp loaded
    cases typed.symm.trans (pointeeType_ok.mp counted)
    have step₂ := Step.define (builder.loopBack base.nextBlock) (.element .i64)
      (.load (builder.loopBack base.nextBlock).size base.size) opened₂ trivial rfl
    have formed₃ := step₂.formed formed₂
    obtain ⟨dtype, left, right, opened₃, rfl, rfl⟩ := (binary_ok formed₃.numbered).mp added
    have loadedType : (builder.loopCounted base.nextBlock base.size).function.registerTypes[
        (builder.loopBack base.nextBlock).size]? = some (.element .i64) := Array.getElem?_push_size
    cases loadedType.symm.trans (elementType_ok.mp left)
    have step₃ := Step.define (builder.loopCounted base.nextBlock base.size) (.element .i64)
      (.binary (builder.loopCounted base.nextBlock base.size).size .add
        (.register (builder.loopBack base.nextBlock).size) step) opened₃ trivial rfl
    have formed₄ := step₃.formed formed₃
    obtain ⟨_, _, _, opened₄, rfl⟩ := (store_ok formed₄.numbered).mp stored
    have step₄ := Step.write (builder.loopNext base.nextBlock base.size step)
      (.store base.size (.register (builder.loopCounted base.nextBlock base.size).size)) opened₄
      trivial rfl
    have formed₅ := step₄.formed formed₄
    have known : base.nextBlock + 1 < (builder.loopStored base.nextBlock base.size step).nextBlock :=
      Nat.lt_of_le_of_lt (Nat.add_le_add_left (by decide) _) below
    obtain ⟨step₅, rfl⟩ := jump_step formed₅ known jumped'
    cases setInsertPoint_ok.mp moved'
    refine ⟨rfl, ?_⟩
    exact ((((((Relation.ReflTransGen.single step₁).tail seek₁).tail step₂).tail step₃).tail
      step₄).tail step₅).tail (Step.seek _ _)

end TensorGraph.Code.ForLoop

/-
Loops and branches while emitting.

A loop or branch that was emitted is taken apart into the states between its
parts.  What its bodies let grow, the whole lets grow.
-/

import TensorGraph.Proofs.Emission.Emits

namespace TensorGraph

open Code FunctionBuilder

namespace EmissionState

variable {ρ : Type} {state after : EmissionState ρ}

/-! ### Loops -/

/-- The hint as the branch of a loop carries it. -/
def hint? (state : EmissionState ρ) : Option LoopHint :=
  if state.hint.isEmpty then none else some state.hint

/-- The state in the body of a loop. -/
def looping (state : EmissionState ρ) (label : String) (first limit : Int64) : EmissionState ρ :=
  { state with
    labels := state.labels + 1
    builder := state.builder.loopOpened label state.hint? (.constant (.i64 first))
      (.constant (.i64 limit))
    loopDepth := state.loopDepth + 1 }

/-- The state behind a loop whose body ended in `after`. -/
def looped (state after : EmissionState ρ) (step : Int64) : EmissionState ρ :=
  { after with
    builder := after.builder.loopClosed state.builder.nextBlock state.builder.size
      (.constant (.i64 step))
    loopDepth := state.loopDepth }

section Loop

variable {label : String} {first limit step : Int64}

-- These hold by definition, but the builders in both states are too deep to compare.
theorem constants_looping : (state.looping label first limit).constants = state.constants := by
  simp only [looping]

theorem states_looping : (state.looping label first limit).states = state.states := by
  simp only [looping]

theorem builder_looping : (state.looping label first limit).builder =
    state.builder.loopOpened label state.hint? (.constant (.i64 first))
      (.constant (.i64 limit)) := by
  simp only [looping]

theorem heap_looping : (state.looping label first limit).heap = state.heap := by
  simp only [looping]

theorem Sound.looping (sound : state.Sound)
    (steps : Steps state.builder (state.looping label first limit).builder) :
    (state.looping label first limit).Sound := by
  have begun := sound.onBuilder steps (opened_loopOpened label (.constant (.i64 first))
    (.constant (.i64 limit)) state.hint? sound.builder.numbered sound.opened) states_loopOpened
  exact ⟨begun.builder, begun.opened, begun.constants, begun.states, begun.zeros, begun.once,
    begun.apart, begun.noted, begun.images⟩

theorem Grows.looped (sound : state.Sound)
    (steps : Steps state.builder (state.looping label first limit).builder)
    (inner : (state.looping label first limit).Grows after)
    (closing : Steps after.builder (state.looped after step).builder) :
    state.Grows (state.looped after step) := by
  have balanced := balanced_loop sound.builder sound.opened inner.sound.builder inner.balanced
    (.constant (.i64 step))
  have ended := inner.sound.onBuilder closing balanced.opened (states_loopClosed _ _ _ _)
  have constants := inner.constants
  have states := inner.states
  rw [constants_looping] at constants
  rw [states_looping] at states
  exact ⟨⟨ended.builder, ended.opened, ended.constants, ended.states, ended.zeros, ended.once,
    ended.apart, ended.noted, ended.images⟩, (steps.trans inner.steps).trans closing, balanced,
    constants, states, rfl⟩

theorem Faithful.looping (faithful : state.Faithful) (sound : state.Sound)
    (steps : Steps state.builder (state.looping label first limit).builder) :
    (state.looping label first limit).Faithful :=
  have begun := faithful.onBuilder (Steps.grows steps sound.builder).globals
  ⟨begun.constants, begun.states⟩

theorem Keeps.looped (inner : (state.looping label first limit).Grows after)
    (kept : (state.looping label first limit).Keeps after)
    (closing : Steps after.builder (state.looped after step).builder) :
    state.Keeps (state.looped after step) :=
  have ended := kept.faithful.onBuilder (Steps.grows closing inner.sound.builder).globals
  have heap := kept.heap
  ⟨heap_looping ▸ heap, ended.constants, ended.states⟩

end Loop

/-! ### Branches -/

/-- The state in the first answer of a branch. -/
def branching (state : EmissionState ρ) (trueLabel falseLabel mergeLabel : String)
    (test : Operand) : EmissionState ρ :=
  { state with
    labels := state.labels + 1 + 1 + 1
    builder := state.builder.branchOpened trueLabel falseLabel mergeLabel test }

/-- The state in the second answer, when the first one ended in `after`. -/
def turned (state after : EmissionState ρ) : EmissionState ρ :=
  after.onBuilder (after.builder.branchTurned state.builder.nextBlock)

/-- The state behind a branch whose second answer ended in `after`. -/
def merged (state after : EmissionState ρ) : EmissionState ρ :=
  after.onBuilder (after.builder.branchClosed state.builder.nextBlock)

section Branch

variable {last : EmissionState ρ} {trueLabel falseLabel mergeLabel : String} {test : Operand}

theorem Sound.branching (sound : state.Sound)
    (steps : Steps state.builder (state.branching trueLabel falseLabel mergeLabel test).builder) :
    (state.branching trueLabel falseLabel mergeLabel test).Sound := by
  have begun := sound.onBuilder steps (opened_branchOpened trueLabel falseLabel mergeLabel test
    sound.builder.numbered sound.opened) rfl
  exact ⟨begun.builder, begun.opened, begun.constants, begun.states, begun.zeros, begun.once,
    begun.apart, begun.noted, begun.images⟩

theorem Sound.turned (sound : state.Sound)
    (inner : (state.branching trueLabel falseLabel mergeLabel test).Grows after)
    (steps : Steps after.builder (state.turned after).builder) : (state.turned after).Sound := by
  obtain ⟨text, empty⟩ := opened_branchTurned sound.builder sound.opened inner.sound.builder
    inner.balanced
  exact inner.sound.onBuilder steps ⟨_, empty, rfl⟩ rfl

theorem Grows.merged (sound : state.Sound)
    (opening : Steps state.builder (state.branching trueLabel falseLabel mergeLabel test).builder)
    (inner : (state.branching trueLabel falseLabel mergeLabel test).Grows after)
    (turning : Steps after.builder (state.turned after).builder)
    (inner' : (state.turned after).Grows last)
    (closing : Steps last.builder (state.merged last).builder) :
    state.Grows (state.merged last) := by
  have balanced := (balanced_branch sound.builder sound.opened inner.sound.builder
    inner'.sound.builder inner.balanced inner'.balanced).1
  exact ⟨inner'.sound.onBuilder closing balanced.opened rfl,
    (((opening.trans inner.steps).trans turning).trans inner'.steps).trans closing, balanced,
    fun entry member => inner'.constants entry (inner.constants entry member),
    fun entry member => inner'.states entry (inner.states entry member),
    inner'.depth.trans inner.depth⟩

end Branch
end EmissionState

namespace Emission

variable {ρ : Type} {state after : EmissionState ρ}

theorem label_ok {hint result : String} :
    (label hint : Emission ρ String) state = .ok result after ↔
      hint ++ toString (state.labels + 1) = result ∧
        { state with labels := state.labels + 1 } = after := by
  constructor
  · intro done
    cases done
    exact ⟨rfl, rfl⟩
  · rintro ⟨rfl, rfl⟩
    rfl

theorem bound_ok {limit : Nat} {result : Int64} :
    (bound limit : Emission ρ Int64) state = .ok result after ↔
      limit < Nat.pow 2 63 ∧ Int64.ofNat limit = result ∧ state = after := by
  unfold bound
  split
  case isTrue small =>
    rw [pure_ok]
    exact ⟨fun same => ⟨small, same⟩, And.right⟩
  case isFalse great =>
    exact ⟨fun done => (fail_ok done).elim, fun held => absurd held.1 great⟩

theorem closing_ok {forLoop : ForLoop} {body : Emission ρ Unit} {result : Unit}
    (done : closing forLoop body state = .ok result after) :
    ∃ inner, body { state with loopDepth := state.loopDepth + 1 } = .ok () inner ∧
      (building forLoop.close : Emission ρ Unit) { inner with loopDepth := state.loopDepth } =
        .ok result after := by
  unfold closing at done
  dsimp only at done
  cases ran : body { state with loopDepth := state.loopDepth + 1 } with
  | ok answer inner =>
      rw [ran] at done
      exact ⟨inner, rfl, done⟩
  | error fault inner =>
      rw [ran] at done
      cases fault with
      | abort message => cases done
      | error cause =>
          dsimp only at done
          split at done <;> cases done
      | unbound name =>
          dsimp only at done
          split at done <;> cases done

/-- A loop is nothing, its body once, or a loop of the code. -/
theorem forRange_ok (sound : state.Sound) {start stop step : Nat}
    {body : Scalar → Emission ρ Unit} {result : Unit}
    (done : forRange start stop step body state = .ok result after) :
    step ≠ 0 ∧
      ((stop ≤ start ∧ after = state) ∨
       (start < stop ∧ (stop - start + (step - 1)) / step = 1 ∧ ∃ index heap,
          Scalar.ofIndex start state.heap = .ok index heap ∧
          body index { state with heap := heap } = .ok () after) ∨
       (start < stop ∧ (stop - start + (step - 1)) / step ≠ 1 ∧
          start < Nat.pow 2 63 ∧ stop < Nat.pow 2 63 ∧ step < Nat.pow 2 63 ∧
          ∃ label index inner,
            Scalar.ofValue (Value.emitted .i64 state.builder.size (some Layout.scalar)) =
              .ok index ∧
            Steps state.builder
              (state.looping label (Int64.ofNat start) (Int64.ofNat stop)).builder ∧
            body index (state.looping label (Int64.ofNat start) (Int64.ofNat stop)) =
              .ok () inner ∧
            ((state.looping label (Int64.ofNat start) (Int64.ofNat stop)).Grows inner →
              after = state.looped inner (Int64.ofNat step) ∧
                Steps inner.builder (state.looped inner (Int64.ofNat step)).builder))) := by
  unfold forRange at done
  split at done
  case isTrue zero =>
    obtain ⟨_, thrown, _⟩ := onHeap_ok.mp done
    exact (Action.throw_ok thrown).elim
  case isFalse positive =>
    refine ⟨positive, ?_⟩
    split at done
    case isTrue none' => exact .inl ⟨none', (pure_ok.mp done).2.symm⟩
    case isFalse some' =>
      have below : start < stop := Nat.lt_of_not_le some'
      split at done
      case isTrue single =>
        obtain ⟨index, _, made, done⟩ := bind_ok.mp done
        obtain ⟨heap, acted, rfl⟩ := onHeap_ok.mp made
        exact .inr (.inl ⟨below, single, index, heap, acted, done⟩)
      case isFalse several =>
        refine .inr (.inr ⟨below, several, ?_⟩)
        obtain ⟨label, _, labelled, done⟩ := bind_ok.mp done
        obtain ⟨_, rfl⟩ := label_ok.mp labelled
        obtain ⟨_, _, bounded, done⟩ := bind_ok.mp done
        obtain ⟨smallStart, rfl, rfl⟩ := bound_ok.mp bounded
        obtain ⟨_, _, bounded, done⟩ := bind_ok.mp done
        obtain ⟨smallStop, rfl, rfl⟩ := bound_ok.mp bounded
        obtain ⟨_, _, bounded, done⟩ := bind_ok.mp done
        obtain ⟨smallStep, rfl, rfl⟩ := bound_ok.mp bounded
        obtain ⟨_, _, looked, done⟩ := bind_ok.mp done
        obtain ⟨rfl, rfl⟩ := state_ok.mp looked
        obtain ⟨⟨forLoop, counter⟩, _, begun, done⟩ := bind_ok.mp done
        obtain ⟨builder, built, rfl⟩ := building_ok.mp begun
        obtain ⟨_, rfl, rfl, rfl, steps⟩ := ForLoop.opened_ok sound.builder built
        obtain ⟨index, _, converted, done⟩ := bind_ok.mp done
        obtain ⟨made, rfl⟩ := ofExcept_ok.mp converted
        refine ⟨smallStart, smallStop, smallStep, label, index, ?_⟩
        obtain ⟨inner, ran, ended⟩ := closing_ok done
        have steps : Steps state.builder
            (state.looping label (Int64.ofNat start) (Int64.ofNat stop)).builder := by
          rw [EmissionState.builder_looping]
          exact steps
        have ran : body index (state.looping label (Int64.ofNat start) (Int64.ofNat stop)) =
            .ok () inner := by
          simpa only [EmissionState.onBuilder, EmissionState.looping, EmissionState.hint?] using ran
        refine ⟨inner, made, steps, ran, fun grows => ?_⟩
        obtain ⟨builder, closed, rfl⟩ := building_ok.mp ended
        have later := grows.builder (sound.looping steps)
        have room : state.builder.nextBlock + 5 ≤ inner.builder.nextBlock := later.next
        obtain ⟨rfl, steps'⟩ := ForLoop.close_ok grows.sound.builder grows.sound.opened
          (Nat.lt_of_lt_of_le (Nat.lt_succ_self _) room)
          (later.types _ _ counter_loopOpened) closed
        refine ⟨by simp only [EmissionState.onBuilder, EmissionState.looped], ?_⟩
        simpa only [EmissionState.looped] using steps'

/-- The open block of an answer goes on behind the branch. -/
theorem closeBranch_ok (sound : state.Sound) {merge : BlockId}
    (known : merge < state.builder.nextBlock) {result : Unit}
    (done : (closeBranch merge : Emission ρ Unit) state = .ok result after) :
    after = state.onBuilder (state.builder.closing (.jump merge)) ∧
      Step state.builder (state.builder.closing (.jump merge)) := by
  obtain ⟨builder, built, rfl⟩ := building_ok.mp done
  obtain ⟨_, _, looked, built⟩ := Action.bind_ok.mp built
  obtain ⟨rfl, rfl⟩ := Action.get_ok.mp looked
  rw [Building.isTerminated_of_opened sound.builder.numbered sound.opened] at built
  obtain ⟨step, rfl⟩ := ForLoop.jump_step sound.builder known built
  exact ⟨rfl, step⟩

/-- A branch is the answer that is known already, or a branch of the code. -/
theorem ifElse_ok (sound : state.Sound) {condition : Value} {onTrue onFalse : Emission ρ Unit}
    {result : Unit} (done : ifElse condition onTrue onFalse state = .ok result after) :
    (∃ literal, literal? condition state.heap = some literal ∧
      (if literal.isTrue then onTrue else onFalse) state = .ok () after) ∨
    (literal? condition state.heap = none ∧ ∃ test middle trueLabel falseLabel mergeLabel first,
      operand condition state = .ok test middle ∧ middle.builder.elementType test = .ok .bool ∧
      Steps middle.builder (middle.branching trueLabel falseLabel mergeLabel test).builder ∧
      onTrue (middle.branching trueLabel falseLabel mergeLabel test) = .ok () first ∧
      ((middle.branching trueLabel falseLabel mergeLabel test).Grows first →
        Steps first.builder (middle.turned first).builder ∧
        ∃ second, onFalse (middle.turned first) = .ok () second ∧
          ((middle.turned first).Grows second →
            after = middle.merged second ∧
              Steps second.builder (middle.merged second).builder))) := by
  obtain ⟨_, _, looked, done⟩ := bind_ok.mp done
  obtain ⟨rfl, rfl⟩ := known_ok.mp looked
  cases decided : literal? condition state.heap with
  | some literal =>
      rw [decided] at done
      exact .inl ⟨literal, rfl, done⟩
  | none =>
      rw [decided] at done
      refine .inr ⟨rfl, ?_⟩
      obtain ⟨test, middle, tested, done⟩ := bind_ok.mp done
      have grown := (operand_emits condition state test middle tested sound).1
      obtain ⟨trueLabel, _, labelled, done⟩ := bind_ok.mp done
      obtain ⟨_, rfl⟩ := label_ok.mp labelled
      obtain ⟨falseLabel, _, labelled, done⟩ := bind_ok.mp done
      obtain ⟨_, rfl⟩ := label_ok.mp labelled
      obtain ⟨mergeLabel, _, labelled, done⟩ := bind_ok.mp done
      obtain ⟨_, rfl⟩ := label_ok.mp labelled
      obtain ⟨_, _, appended, done⟩ := bind_ok.mp done
      obtain ⟨_, built, rfl⟩ := building_ok.mp appended
      obtain ⟨rfl, rfl⟩ := Building.appendBlock_ok.mp built
      obtain ⟨_, _, appended, done⟩ := bind_ok.mp done
      obtain ⟨_, built, rfl⟩ := building_ok.mp appended
      obtain ⟨rfl, rfl⟩ := Building.appendBlock_ok.mp built
      obtain ⟨_, _, appended, done⟩ := bind_ok.mp done
      obtain ⟨_, built, rfl⟩ := building_ok.mp appended
      obtain ⟨rfl, rfl⟩ := Building.appendBlock_ok.mp built
      obtain ⟨_, _, branched, done⟩ := bind_ok.mp done
      obtain ⟨_, built, rfl⟩ := building_ok.mp branched
      obtain ⟨_, _, branched, moved⟩ := Action.bind_ok.mp built
      have framed := steps_branchFrame middle.builder trueLabel falseLabel mergeLabel
      obtain ⟨typed, opened, rfl⟩ := (Building.branch_ok
        (numbered_branchFrame grown.sound.builder.numbered _ _ _)).mp branched
      cases Building.setInsertPoint_ok.mp moved
      have steps := steps_branchOpened opened test
      obtain ⟨_, first, ran, done⟩ := bind_ok.mp done
      have ran : onTrue (middle.branching trueLabel falseLabel mergeLabel test) =
          .ok () first := by
        simp only [EmissionState.onBuilder] at ran
        simp only [EmissionState.branching, branchOpened]
        exact ran
      refine ⟨test, middle, trueLabel, falseLabel, mergeLabel, first, tested, ?_, ?_, ran, ?_⟩
      · rw [Building.elementType_ok] at typed ⊢
        exact typed
      · simpa only [EmissionState.branching] using steps
      intro grows
      have begun : (middle.branching trueLabel falseLabel mergeLabel test).Sound :=
        grown.sound.branching (by simpa only [EmissionState.branching] using steps)
      have room : middle.builder.nextBlock + 3 ≤ first.builder.nextBlock :=
        (grows.builder begun).next
      have merge : middle.builder.nextBlock + 2 < first.builder.nextBlock :=
        Nat.lt_of_lt_of_le (Nat.lt_succ_self _) room
      obtain ⟨_, _, closed, done⟩ := bind_ok.mp done
      obtain ⟨rfl, closing⟩ := closeBranch_ok grows.sound merge closed
      obtain ⟨_, _, turned, done⟩ := bind_ok.mp done
      obtain ⟨_, built, rfl⟩ := building_ok.mp turned
      cases Building.setInsertPoint_ok.mp built
      refine ⟨(Relation.ReflTransGen.single closing).tail (Step.seek _ _), ?_⟩
      obtain ⟨_, second, ran', done⟩ := bind_ok.mp done
      refine ⟨second, ran', ?_⟩
      intro grows'
      have later : first.builder.nextBlock ≤ second.builder.nextBlock := grows'.balanced.next
      obtain ⟨_, _, closed, done⟩ := bind_ok.mp done
      obtain ⟨rfl, closing'⟩ := closeBranch_ok grows'.sound
        (Nat.lt_of_lt_of_le merge later) closed
      obtain ⟨_, built, rfl⟩ := building_ok.mp done
      cases Building.setInsertPoint_ok.mp built
      exact ⟨rfl, (Relation.ReflTransGen.single closing').tail (Step.seek _ _)⟩

end Emission
end TensorGraph

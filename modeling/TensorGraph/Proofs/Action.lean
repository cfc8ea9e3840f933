/-
Answers of actions.

An action that succeeds has succeeded in every part, and one that fails has
failed in one part, behind parts that succeeded.  The lemmas take an answer
apart, one step of the action after the other.
-/

import Mathlib
import TensorGraph.Error

namespace TensorGraph

theorem bind_eq_ok {α β : Type} {first : Except Error α} {rest : α → Except Error β}
    {result : β} :
    first >>= rest = .ok result ↔ ∃ value, first = .ok value ∧ rest value = .ok result := by
  cases first with
  | error cause => simp [bind, Except.bind]
  | ok value => simp [bind, Except.bind]

theorem forM_eq_ok {α : Type} {items : List α} {check : α → Except Error Unit} :
    items.forM check = .ok () ↔ ∀ item ∈ items, check item = .ok () := by
  induction items with
  | nil => simp [pure, Except.pure]
  | cons item rest ih =>
      rw [List.forall_mem_cons, ← ih]
      refine bind_eq_ok.trans ?_
      constructor
      · rintro ⟨_, first, others⟩
        exact ⟨first, others⟩
      · rintro ⟨first, others⟩
        exact ⟨(), first, others⟩

theorem mapM_eq_ok {α β : Type} {step : α → Except Error β} {result : α → β} {items : List α}
    (done : ∀ item ∈ items, step item = .ok (result item)) :
    items.mapM step = .ok (items.map result) := by
  induction items with
  | nil => rfl
  | cons item rest ih =>
      rw [List.mapM_cons, done item List.mem_cons_self,
        ih fun other member => done other (List.mem_cons_of_mem _ member)]
      rfl

theorem mapM_forall₂ {α β : Type} {step : α → Except Error β} {items : List α} {results : List β} :
    items.mapM step = .ok results ↔
      List.Forall₂ (fun item result => step item = .ok result) items results := by
  induction items generalizing results with
  | nil =>
      rw [List.forall₂_nil_left_iff]
      exact ⟨by rintro ⟨⟩; rfl, by rintro rfl; rfl⟩
  | cons item rest ih =>
      rw [List.mapM_cons, bind_eq_ok, List.forall₂_cons_left_iff]
      constructor
      · rintro ⟨result, first, others⟩
        obtain ⟨more, done, ⟨⟩⟩ := bind_eq_ok.mp others
        exact ⟨result, more, first, ih.mp done, rfl⟩
      · rintro ⟨result, more, first, others, rfl⟩
        exact ⟨result, first, bind_eq_ok.mpr ⟨more, ih.mpr others, rfl⟩⟩

namespace Action

variable {σ τ α β : Type} {state after : σ}

theorem bind_ok {first : Action σ α} {rest : α → Action σ β} {result : β} :
    (first >>= rest) state = .ok result after ↔
      ∃ value middle, first state = .ok value middle ∧ rest value middle = .ok result after := by
  simp only [bind, EStateM.bind]
  cases first state with
  | ok value middle =>
      constructor
      · exact fun done => ⟨value, middle, rfl, done⟩
      · rintro ⟨_, _, ⟨⟩, done⟩
        exact done
  | error fault middle => simp

theorem bind_of_ok {first : Action σ α} {rest : α → Action σ β} {value : α} {middle : σ}
    (done : first state = .ok value middle) : (first >>= rest) state = rest value middle := by
  simp only [bind, EStateM.bind, done]

theorem pure_ok {value result : α} :
    (pure value : Action σ α) state = .ok result after ↔ value = result ∧ state = after := by
  simp only [pure, EStateM.pure, EStateM.Result.ok.injEq]

theorem map_ok {change : α → β} {action : Action σ α} {result : β} :
    (change <$> action) state = .ok result after ↔
      ∃ value, action state = .ok value after ∧ change value = result := by
  simp only [Functor.map, EStateM.map]
  cases action state with
  | ok value middle =>
      simp only [EStateM.Result.ok.injEq]
      constructor
      · rintro ⟨rfl, rfl⟩
        exact ⟨value, ⟨rfl, rfl⟩, rfl⟩
      · rintro ⟨_, ⟨rfl, rfl⟩, rfl⟩
        exact ⟨rfl, rfl⟩
  | error fault middle => simp

theorem get_ok {result : σ} :
    (get : Action σ σ) state = .ok result after ↔ state = result ∧ state = after := by
  simp only [get, getThe, MonadStateOf.get, EStateM.get, EStateM.Result.ok.injEq]

theorem set_ok {value : σ} {result : PUnit} :
    (set value : Action σ PUnit) state = .ok result after ↔ value = after := by
  simp only [set, EStateM.set, EStateM.Result.ok.injEq, true_and]

theorem modify_ok {change : σ → σ} {result : PUnit} :
    (modify change : Action σ PUnit) state = .ok result after ↔ change state = after := by
  simp only [modify, modifyGet, MonadStateOf.modifyGet, EStateM.modifyGet,
    EStateM.Result.ok.injEq, true_and]

theorem modifyGet_ok {change : σ → α × σ} {result : α} :
    (modifyGet change : Action σ α) state = .ok result after ↔
      change state = (result, after) := by
  simp only [modifyGet, MonadStateOf.modifyGet, EStateM.modifyGet, EStateM.Result.ok.injEq,
    Prod.ext_iff]

theorem throw_ok {fault : Fault} {result : α} :
    ¬ (throw fault : Action σ α) state = .ok result after := by
  simp [throw, throwThe, MonadExceptOf.throw, EStateM.throw]

theorem fail_ok {cause : Error} {result : α} :
    ¬ (Action.fail cause : Action σ α) state = .ok result after :=
  throw_ok

theorem abort_ok {message : String} {result : α} :
    ¬ (Action.abort message : Action σ α) state = .ok result after :=
  throw_ok

theorem ofExcept_ok {answer : Except Error α} {result : α} :
    (Action.ofExcept answer : Action σ α) state = .ok result after ↔
      answer = .ok result ∧ state = after := by
  cases answer with
  | ok value => simp [Action.ofExcept, pure_ok]
  | error cause => simp [Action.ofExcept, throw_ok]

theorem within_ok {part : σ → τ} {replace : τ → σ → σ} {action : Action τ α} {result : α} :
    Action.within part replace action state = .ok result after ↔
      ∃ changed, action (part state) = .ok result changed ∧ replace changed state = after := by
  unfold Action.within
  cases action (part state) with
  | ok value changed =>
      simp only [EStateM.Result.ok.injEq]
      constructor
      · rintro ⟨rfl, rfl⟩
        exact ⟨changed, ⟨rfl, rfl⟩, rfl⟩
      · rintro ⟨_, ⟨rfl, rfl⟩, rfl⟩
        exact ⟨rfl, rfl⟩
  | error fault changed => simp

/-! ### Failures -/

variable {fault : Fault}

theorem bind_error {first : Action σ α} {rest : α → Action σ β} :
    (first >>= rest) state = .error fault after ↔
      first state = .error fault after ∨
        ∃ value middle, first state = .ok value middle ∧ rest value middle = .error fault after := by
  simp only [bind, EStateM.bind]
  cases first state with
  | ok value middle =>
      constructor
      · exact fun failed => .inr ⟨value, middle, rfl, failed⟩
      · rintro (⟨⟨⟩⟩ | ⟨_, _, ⟨⟩, failed⟩)
        exact failed
  | error fault' middle => simp

theorem bind_of_error {first : Action σ α} {rest : α → Action σ β} {middle : σ}
    (failed : first state = .error fault middle) :
    (first >>= rest) state = .error fault middle := by
  simp only [bind, EStateM.bind, failed]

theorem map_error {change : α → β} {action : Action σ α} :
    (change <$> action) state = .error fault after ↔ action state = .error fault after := by
  simp only [Functor.map, EStateM.map]
  cases action state with
  | ok value middle => simp
  | error fault' middle => simp

theorem ofExcept_error {answer : Except Error α} :
    (Action.ofExcept answer : Action σ α) state = .error fault after ↔
      ∃ cause, answer = .error cause ∧ fault = .error cause ∧ state = after := by
  cases answer with
  | ok value => simp [Action.ofExcept, pure, EStateM.pure]
  | error cause =>
      simp only [Action.ofExcept, throw, throwThe, MonadExceptOf.throw, EStateM.throw,
        EStateM.Result.error.injEq, Except.error.injEq, exists_eq_left']
      exact and_congr eq_comm Iff.rfl

end Action
end TensorGraph

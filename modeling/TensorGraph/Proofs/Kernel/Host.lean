/-
Answers of the host.

What a primitive of the host answers, read off the heap before and after it.
-/

import TensorGraph.Kernel.Host
import TensorGraph.Proofs.Action

namespace TensorGraph

/-- The cause is one of those that arithmetic gives: there is no quotient, or the type does
not have the operation. -/
def Error.isArithmetic : Error → Bool
  | .execution _ => true
  | .invalidArgument reason => reason.toList.take 3 == ['o', 'p', 'e']
  | _ => false

namespace Host

variable {ρ α β : Type} {state after : HostState ρ} {fault : Fault}

/-- The state with another heap. -/
def onto (state : HostState ρ) (heap : Heap) : HostState ρ :=
  { state with heap := heap }

theorem bind_ok {first : Host ρ α} {rest : α → Host ρ β} {result : β} :
    (first >>= rest) state = .ok result after ↔
      ∃ value middle, first state = .ok value middle ∧ rest value middle = .ok result after :=
  Action.bind_ok

theorem bind_error {first : Host ρ α} {rest : α → Host ρ β} :
    (first >>= rest) state = .error fault after ↔
      first state = .error fault after ∨
        ∃ value middle, first state = .ok value middle ∧ rest value middle = .error fault after :=
  Action.bind_error

theorem bind_of_ok {first : Host ρ α} {rest : α → Host ρ β} {value : α} {middle : HostState ρ}
    (done : first state = .ok value middle) : (first >>= rest) state = rest value middle :=
  Action.bind_of_ok done

theorem pure_ok {value result : α} :
    (pure value : Host ρ α) state = .ok result after ↔ value = result ∧ state = after :=
  Action.pure_ok

theorem map_ok {change : α → β} {action : Host ρ α} {result : β} :
    (change <$> action) state = .ok result after ↔
      ∃ value, action state = .ok value after ∧ change value = result :=
  Action.map_ok

theorem onHeap_eq (action : Action Heap α) (state : HostState ρ) :
    (onHeap action : Host ρ α) state =
      match action state.heap with
      | .ok answer heap => .ok answer (onto state heap)
      | .error fault heap => .error fault (onto state heap) := by
  cases state
  rfl

theorem onHeap_ok {action : Action Heap α} {result : α} :
    (onHeap action : Host ρ α) state = .ok result after ↔
      ∃ heap, action state.heap = .ok result heap ∧ onto state heap = after := by
  rw [onHeap_eq]
  cases action state.heap with
  | ok answer heap => simp [and_assoc]
  | error fault heap => simp

theorem onHeap_error {action : Action Heap α} :
    (onHeap action : Host ρ α) state = .error fault after ↔
      ∃ heap, action state.heap = .error fault heap ∧ onto state heap = after := by
  rw [onHeap_eq]
  cases action state.heap with
  | ok answer heap => simp
  | error fault heap => simp [and_assoc]

theorem onHeap_get (rest : Heap → Action Heap α) (state : HostState ρ) :
    (onHeap (do rest (← get)) : Host ρ α) state = onHeap (rest state.heap) state :=
  rfl

theorem ofExcept_ok {answer : Except Error α} {result : α} :
    (ofExcept answer : Host ρ α) state = .ok result after ↔
      answer = .ok result ∧ state = after := by
  rw [ofExcept, onHeap_ok]
  constructor
  · rintro ⟨heap, done, rfl⟩
    obtain ⟨same, rfl⟩ := Action.ofExcept_ok.mp done
    exact ⟨same, rfl⟩
  · rintro ⟨same, rfl⟩
    exact ⟨state.heap, Action.ofExcept_ok.mpr ⟨same, rfl⟩, rfl⟩

theorem ofExcept_error {answer : Except Error α} :
    (ofExcept answer : Host ρ α) state = .error fault after ↔
      ∃ cause, answer = .error cause ∧ fault = .error cause ∧ state = after := by
  rw [ofExcept, onHeap_error]
  constructor
  · rintro ⟨heap, failed, rfl⟩
    obtain ⟨cause, same, rfl, rfl⟩ := Action.ofExcept_error.mp failed
    exact ⟨cause, same, rfl, rfl⟩
  · rintro ⟨cause, same, rfl, rfl⟩
    exact ⟨state.heap, Action.ofExcept_error.mpr ⟨cause, same, rfl, rfl⟩, rfl⟩

theorem fail_ok {cause : Error} {result : α} :
    ¬ (fail cause : Host ρ α) state = .ok result after := by
  intro done
  cases (ofExcept_ok.mp done).1

theorem count_ok {operations : Nat} {result : Unit} :
    (count operations : Host ρ Unit) state = .ok result after ↔
      { state with operations := state.operations + operations } = after := by
  simp [count]

theorem count_error {operations : Nat} :
    ¬ (count operations : Host ρ Unit) state = .error fault after := by
  simp [count]

/-- A look at the heap. -/
theorem look_ok {view : Heap → Except Error α} {result : α} :
    (onHeap (do Action.ofExcept (view (← get))) : Host ρ α) state = .ok result after ↔
      view state.heap = .ok result ∧ state = after := by
  rw [onHeap_ok]
  constructor
  · rintro ⟨heap, done, rfl⟩
    obtain ⟨_, _, looked, done⟩ := Action.bind_ok.mp done
    obtain ⟨rfl, rfl⟩ := Action.get_ok.mp looked
    obtain ⟨same, rfl⟩ := Action.ofExcept_ok.mp done
    exact ⟨same, rfl⟩
  · rintro ⟨same, rfl⟩
    exact ⟨state.heap, Action.bind_ok.mpr ⟨_, _, Action.get_ok.mpr ⟨rfl, rfl⟩,
      Action.ofExcept_ok.mpr ⟨same, rfl⟩⟩, rfl⟩

theorem look_error {view : Heap → Except Error α} :
    (onHeap (do Action.ofExcept (view (← get))) : Host ρ α) state = .error fault after ↔
      ∃ cause, view state.heap = .error cause ∧ fault = .error cause ∧ state = after := by
  rw [onHeap_error]
  constructor
  · rintro ⟨heap, failed, rfl⟩
    rcases Action.bind_error.mp failed with failed | ⟨_, _, looked, failed⟩
    · cases failed
    · obtain ⟨rfl, rfl⟩ := Action.get_ok.mp looked
      obtain ⟨cause, same, rfl, rfl⟩ := Action.ofExcept_error.mp failed
      exact ⟨cause, same, rfl, rfl⟩
  · rintro ⟨cause, same, rfl, rfl⟩
    exact ⟨state.heap, Action.bind_error.mpr (.inr ⟨_, _, Action.get_ok.mpr ⟨rfl, rfl⟩,
      Action.ofExcept_error.mpr ⟨cause, same, rfl, rfl⟩⟩), rfl⟩

theorem readLiteral_ok {value : Value} {element : Literal} :
    (readLiteral value : Host ρ Literal) state = .ok element after ↔
      literal value state.heap = .ok element ∧ state = after :=
  look_ok

instance : LawfulMonad (Host ρ) :=
  inferInstanceAs (LawfulMonad (EStateM Fault (HostState ρ)))

theorem onHeap_pure (answer : α) : (onHeap (pure answer) : Host ρ α) = pure answer :=
  rfl

theorem onHeap_bind (first : Action Heap α) (rest : α → Action Heap β) :
    (onHeap (first >>= rest) : Host ρ β) = onHeap first >>= fun answer => onHeap (rest answer) := by
  funext state
  change _ = EStateM.bind (onHeap first) (fun answer => onHeap (rest answer)) state
  rw [onHeap_eq]
  simp only [EStateM.bind, bind, onHeap_eq]
  cases first state.heap <;> rfl

end Host
end TensorGraph

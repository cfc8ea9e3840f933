/-
Two strategies side by side.

A kernel cannot tell how it is run, so two runs of it go alike whenever the
primitives do.  A correspondence says what two values have in common at one
moment, what it means that two runs go alike, and that every primitive takes
alike values to alike runs.  The lemmas behind it carry this over to the scalar
operations; the modules that follow carry it over to every kernel.
-/

import TensorGraph.Proofs.Kernel.Host

namespace TensorGraph

theorem partner_of_mem {α β : Type} {related : α → β → Prop} {items : List α} {partners : List β}
    (all : List.Forall₂ related items partners) {partner : β} (member : partner ∈ partners) :
    ∃ item ∈ items, related item partner := by
  induction all with
  | nil => cases member
  | cons head _ ih =>
      rcases List.mem_cons.mp member with rfl | inside
      · exact ⟨_, List.mem_cons_self, head⟩
      · obtain ⟨item, here, same⟩ := ih inside
        exact ⟨item, List.mem_cons_of_mem _ here, same⟩

/-- The counter of a loop stays a number of sixty-four bits, also when it has passed the last
index. -/
def Kernel.Counts (start stop step : Nat) : Prop :=
  step = 1 ∨ start + (stop - start + (step - 1)) / step * step < Nat.pow 2 63

/-- Steps on host memory are put together like other steps. -/
class LawfulKernel (m : Type → Type) [Kernel m] : Prop extends LawfulMonad m where
  onHost_pure {α : Type} (answer : α) :
    Kernel.onHost (Pure.pure answer : Action Heap α) = (Pure.pure answer : m α)
  onHost_bind {α β : Type} (first : Action Heap α) (rest : α → Action Heap β) :
    Kernel.onHost (first >>= rest) =
      ((Kernel.onHost first >>= fun answer => Kernel.onHost (rest answer)) : m β)

structure Correspondence (m n : Type → Type) [Kernel m] [Kernel n] where
  /-- What the two runs have in common at one moment. -/
  World : Type
  Later : World → World → Prop
  /-- The two values stand for each other. -/
  Alike : World → Value → Value → Prop
  /-- The runs may write through the two values. -/
  Writable : World → Value → Value → Prop
  /-- The runs may take over the two values as state. -/
  Kept : World → Value → Value → Prop
  /-- The runs go alike, and at their end the answers are related. -/
  Relates {α β : Type} : World → m α → n β → (World → α → β → Prop) → Prop
  /-- The second run may not know an element that the first one knows. -/
  Forgets : Prop
  later_refl (world : World) : Later world world
  later_trans {world middle later : World} :
    Later world middle → Later middle later → Later world later
  alike_mono {world later : World} {left right : Value} :
    Alike world left right → Later world later → Alike later left right
  writable_mono {world later : World} {left right : Value} :
    Writable world left right → Later world later → Writable later left right
  kept_mono {world later : World} {left right : Value} :
    Kept world left right → Later world later → Kept later left right
  dtype {world : World} {left right : Value} : Alike world left right →
    right.dtype? = left.dtype?
  layout {world : World} {left right : Value} : Alike world left right →
    right.layout? = left.layout?
  defined {world : World} {left right : Value} : Alike world left right →
    right.isDefined = left.isDefined
  weaken {α β : Type} {world : World} {left : m α} {right : n β}
    {stronger post : World → α → β → Prop} : Relates world left right stronger →
    (∀ later answer answer', Later world later → stronger later answer answer' →
      post later answer answer') → Relates world left right post
  pure {α β : Type} {world : World} {post : World → α → β → Prop} {left : α} {right : β} :
    post world left right → Relates world (Pure.pure left) (Pure.pure right) post
  bind {α β γ δ : Type} {world : World} {left : m α} {right : n β} {rest : α → m γ}
    {rest' : β → n δ} {between : World → α → β → Prop} {post : World → γ → δ → Prop} :
    Relates world left right between →
    (∀ later answer answer', Later world later → between later answer answer' →
      Relates later (rest answer) (rest' answer') post) →
    Relates world (left >>= rest) (right >>= rest') post
  fail {α β : Type} {world : World} (cause : Error) {post : World → α → β → Prop} :
    Relates world (Kernel.fail cause) (Kernel.fail cause) post
  abort {α β : Type} {world : World} (message : String) {post : World → α → β → Prop} :
    Relates world (Kernel.abort message) (Kernel.abort message) post
  /-- The second run goes on where only the first one can see that it has to stop. -/
  refuse {α β : Type} [Nonempty α] {world : World} {result : Except Error α} {right : β}
    {post : World → α → β → Prop} : Forgets →
    (∀ cause, result = .error cause → cause.isArithmetic = false) →
    (∀ left, post world left right) →
    Relates world (Kernel.ofExcept result) (Pure.pure right) post
  withLayout {world : World} {left right : Value} (placed : Layout) : Alike world left right →
    Relates world (Kernel.read fun heap => left.withLayout placed heap)
      (Kernel.read fun heap => right.withLayout placed heap) fun later answer answer' =>
        Alike later answer answer' ∧ (Writable world left right → Writable later answer answer')
  flatten {world : World} {left right : Value} : Alike world left right →
    Relates world (Kernel.read left.flatten) (Kernel.read right.flatten)
      fun later answer answer' =>
        Alike later answer answer' ∧ (Writable world left right → Writable later answer answer')
  constant {world : World} (literal : Literal) :
    Relates world (Kernel.onHost (Scalar.ofLiteral literal))
      (Kernel.onHost (Scalar.ofLiteral literal)) fun later answer answer' =>
        Alike later answer.value answer'.value
  storage {world : World} (data : Storage) (placed : Layout) :
    Relates world (Kernel.onHost (Value.ofStorage data placed))
      (Kernel.onHost (Value.ofStorage data placed)) Alike
  allocate {world : World} (dtype : DType) (placed : Layout) :
    Relates world (Kernel.allocate dtype placed) (Kernel.allocate dtype placed)
      fun later answer answer' => Alike later answer answer' ∧ Writable later answer answer'
  state {world : World} (name : String) {left right : Value} : Kept world left right →
    Relates world (Kernel.state name left) (Kernel.state name right)
      fun later answer answer' => Alike later answer answer' ∧ Writable later answer answer'
  offset {world : World} {left right : Value} {indices indices' : List Scalar} :
    Alike world left right →
    List.Forall₂ (fun index index' : Scalar => Alike world index.value index'.value) indices
      indices' →
    Relates world (Kernel.offset left indices) (Kernel.offset right indices')
      fun later answer answer' =>
        Alike later answer answer' ∧ (Writable world left right → Writable later answer answer')
  known {world : World} {left right : Value} : Alike world left right →
    Relates world (Kernel.known left) (Kernel.known right) fun _ answer answer' =>
      answer = answer' ∨ (Forgets ∧ answer' = none)
  store {world : World} {target target' source source' : Value} : Alike world target target' →
    Writable world target target' → Alike world source source' →
    Relates world (Kernel.store target source) (Kernel.store target' source')
      fun _ _ _ => True
  move {world : World} {target target' source source' : Value}
    (targetOffset sourceOffset count : Nat) : Alike world target target' →
    Writable world target target' → Alike world source source' →
    Relates world (Kernel.move target targetOffset source sourceOffset count)
      (Kernel.move target' targetOffset source' sourceOffset count) fun _ _ _ => True
  binary {world : World} (op : BinaryOp) {left left' right right' : Value} :
    Alike world left left' → Alike world right right' →
    Relates world (Kernel.binary op left right) (Kernel.binary op left' right') Alike
  unary {world : World} (op : UnaryOp) {left right : Value} : Alike world left right →
    Relates world (Kernel.unary op left) (Kernel.unary op right) Alike
  compare {world : World} (op : CompareOp) {left left' right right' : Value} :
    Alike world left left' → Alike world right right' →
    Relates world (Kernel.compare op left right) (Kernel.compare op left' right') Alike
  cast {world : World} {left right : Value} (dtype : DType) : Alike world left right →
    Relates world (Kernel.cast left dtype) (Kernel.cast right dtype) Alike
  forRange {world : World} {start stop step : Nat} {body : Scalar → m Unit}
    {body' : Scalar → n Unit} : Kernel.Counts start stop step →
    (∀ later (index index' : Scalar), Later world later → Alike later index.value index'.value →
      Relates later (body index) (body' index') fun _ _ _ => True) →
    Relates world (Kernel.forRange start stop step body) (Kernel.forRange start stop step body')
      fun _ _ _ => True
  ifElse {world : World} {condition condition' : Value} {onTrue onFalse : m Unit}
    {onTrue' onFalse' : n Unit} : Alike world condition condition' →
    (∀ later, Later world later → Relates later onTrue onTrue' fun _ _ _ => True) →
    (∀ later, Later world later → Relates later onFalse onFalse' fun _ _ _ => True) →
    Relates world (Kernel.ifElse condition onTrue onFalse)
      (Kernel.ifElse condition' onTrue' onFalse') fun _ _ _ => True

attribute [grind →] Correspondence.later_trans Correspondence.alike_mono
  Correspondence.writable_mono

namespace Correspondence

variable {m n : Type → Type} [Kernel m] [Kernel n]

theorem map [LawfulMonad m] [LawfulMonad n] (C : Correspondence m n) {α β γ δ : Type}
    {world : C.World} {left : m α} {right : n β} (change : α → γ) (change' : β → δ)
    {between : C.World → α → β → Prop} {post : C.World → γ → δ → Prop}
    (alike : C.Relates world left right between)
    (implies : ∀ later answer answer', C.Later world later → between later answer answer' →
      post later (change answer) (change' answer')) :
    C.Relates world (change <$> left) (change' <$> right) post := by
  rw [← bind_pure_comp change left, ← bind_pure_comp change' right]
  exact C.bind alike fun later answer answer' growing holds =>
    C.pure (implies later answer answer' growing holds)

variable (C : Correspondence m n) {world : C.World}

/-- Nothing comes after a step that fails. -/
theorem stopped {α β γ δ : Type} {left : m α} {right : n β} {rest : α → m γ} {rest' : β → n δ}
    {post : C.World → γ → δ → Prop} (alike : C.Relates world left right fun _ _ _ => False) :
    C.Relates world (left >>= rest) (right >>= rest') post :=
  C.bind alike fun _ _ _ _ absurd => absurd.elim

/-- A step whose answers do not matter. -/
theorem andThen {α β γ δ : Type} {left : m α} {right : n β} {rest : α → m γ} {rest' : β → n δ}
    {post : C.World → γ → δ → Prop} (alike : C.Relates world left right fun _ _ _ => True)
    (others : ∀ later answer answer', C.Later world later → True →
      C.Relates later (rest answer) (rest' answer') post) :
    C.Relates world (left >>= rest) (right >>= rest') post :=
  C.bind alike others

/-! ### What alike values share -/

theorem dtype_eq {left right : Value} (alike : C.Alike world left right) :
    right.dtype = left.dtype := by
  unfold Value.dtype
  rw [C.dtype alike]

theorem layout_eq {left right : Value} (alike : C.Alike world left right) :
    right.layout = left.layout := by
  unfold Value.layout
  rw [C.layout alike]

theorem ready {left right : Value} (alike : C.Alike world left right) :
    right.ready = left.ready := by
  unfold Value.ready
  rw [C.defined alike, C.layout_eq alike]

theorem scalar_dtype {left right : Scalar} (alike : C.Alike world left.value right.value) :
    right.dtype = left.dtype := by
  have same := C.dtype alike
  rw [left.typed, right.typed] at same
  exact Option.some.inj same

theorem checkType {left left' right right' : Scalar}
    (alike : C.Alike world left.value left'.value)
    (alike' : C.Alike world right.value right'.value) :
    C.Relates world (Scalar.checkType left right) (Scalar.checkType left' right')
      fun _ _ _ => True := by
  unfold Scalar.checkType
  rw [C.scalar_dtype alike, C.scalar_dtype alike']
  split
  · exact C.pure trivial
  · exact C.fail _

theorem like {scalar scalar' : Scalar} (alike : C.Alike world scalar.value scalar'.value)
    (number : Float) :
    C.Relates world (scalar.like number : m Scalar) (scalar'.like number : n Scalar)
      fun later answer answer' => C.Alike later answer.value answer'.value := by
  unfold Scalar.like Scalar.constant
  rw [C.scalar_dtype alike]
  exact C.constant _

theorem index (position : Nat) :
    C.Relates world (Scalar.index position : m Scalar) (Scalar.index position : n Scalar)
      fun later answer answer' => C.Alike later answer.value answer'.value :=
  C.constant _

theorem scalar_assign {target target' source source' : Scalar}
    (alike : C.Alike world target.value target'.value)
    (writable : C.Writable world target.value target'.value)
    (alike' : C.Alike world source.value source'.value) :
    C.Relates world (target.assign source) (target'.assign source') fun _ _ _ => True :=
  C.bind (C.checkType alike alike') fun _ _ _ growing _ =>
    C.store (C.alike_mono alike growing) (C.writable_mono writable growing)
      (C.alike_mono alike' growing)

/-! ### Pure steps -/

variable [LawfulKernel m] [LawfulKernel n]

theorem ofExcept {α β : Type} {result : Except Error α} {result' : Except Error β}
    {post : C.World → α → β → Prop}
    (same : (∃ answer answer', result = .ok answer ∧ result' = .ok answer' ∧
      post world answer answer') ∨ ∃ cause, result = .error cause ∧ result' = .error cause) :
    C.Relates world (Kernel.ofExcept result) (Kernel.ofExcept result') post := by
  rcases same with ⟨answer, answer', rfl, rfl, holds⟩ | ⟨cause, rfl, rfl⟩
  · have left : (Kernel.ofExcept (.ok answer) : m α) = Pure.pure answer :=
      LawfulKernel.onHost_pure answer
    have right : (Kernel.ofExcept (.ok answer') : n β) = Pure.pure answer' :=
      LawfulKernel.onHost_pure answer'
    rw [left, right]
    exact C.pure holds
  · exact C.fail cause

/-- The two results are one. -/
theorem ofExcept_same {α : Type} (result : Except Error α) :
    C.Relates world (Kernel.ofExcept result) (Kernel.ofExcept result)
      fun _ answer answer' => answer = answer' := by
  refine C.ofExcept ?_
  cases result with
  | ok answer => exact .inl ⟨answer, answer, rfl, rfl, rfl⟩
  | error cause => exact .inr ⟨cause, rfl, rfl⟩

/-- A check before the rest of a kernel. -/
theorem check {γ δ : Type} {condition condition' : Prop} [Decidable condition]
    [Decidable condition'] (same : condition ↔ condition') {cause cause' : Error}
    (blame : cause = cause') {rest : Unit → m γ} {rest' : Unit → n δ}
    {post : C.World → γ → δ → Prop} (alike : C.Relates world (rest ()) (rest' ()) post) :
    C.Relates world (if condition then Kernel.fail cause >>= rest else rest ())
      (if condition' then Kernel.fail cause' >>= rest' else rest' ()) post := by
  subst blame
  by_cases holds : condition
  · rw [if_pos holds, if_pos (same.mp holds)]
    exact C.stopped (C.fail cause)
  · rw [if_neg holds, if_neg (fun holds' => holds (same.mpr holds'))]
    exact alike

/-! ### Scalars -/

/-- What the answer of `Scalar.ofValue` rests on. -/
private theorem ofValue_agrees {left right : Value} (dtype : right.dtype? = left.dtype?)
    (layout : right.layout? = left.layout?) (ready : right.ready = left.ready) :
    (∃ answer answer' : Scalar, Scalar.ofValue left = .ok answer ∧
      Scalar.ofValue right = .ok answer' ∧ answer.value = left ∧ answer'.value = right) ∨
      ∃ cause, Scalar.ofValue left = .error cause ∧ Scalar.ofValue right = .error cause := by
  unfold Scalar.ofValue
  rw [ready]
  cases left.ready with
  | error cause => exact .inr ⟨cause, rfl, rfl⟩
  | ok placed =>
      obtain ⟨dtype?, layout?, place⟩ := left
      obtain ⟨dtype?', layout?', place'⟩ := right
      subst dtype layout
      dsimp only
      split
      · cases dtype?' with
        | some known => exact .inl ⟨_, _, rfl, rfl, rfl, rfl⟩
        | none => exact .inr ⟨_, rfl, rfl⟩
      · exact .inr ⟨_, rfl, rfl⟩

theorem scalar {left right : Value} (alike : C.Alike world left right) :
    C.Relates world (Kernel.ofExcept (Scalar.ofValue left))
      (Kernel.ofExcept (Scalar.ofValue right)) fun _ answer answer' =>
        answer.value = left ∧ answer'.value = right := by
  apply C.ofExcept
  rcases ofValue_agrees (C.dtype alike) (C.layout alike) (C.ready alike) with
    ⟨answer, answer', done, done', same, same'⟩ | failed
  · exact .inl ⟨answer, answer', done, done', same, same'⟩
  · exact .inr failed

/-- A primitive whose answer is taken as a scalar. -/
theorem taken {left : m Value} {right : n Value}
    (alike : C.Relates world left right C.Alike) :
    C.Relates world (left >>= fun answer => Kernel.ofExcept (Scalar.ofValue answer))
      (right >>= fun answer => Kernel.ofExcept (Scalar.ofValue answer))
      fun later answer answer' => C.Alike later answer.value answer'.value := by
  refine C.bind alike fun later answer answer' _ holds => C.weaken (C.scalar holds) ?_
  rintro last result result' growing ⟨rfl, rfl⟩
  exact C.alike_mono holds growing

theorem scalar_binary (op : BinaryOp) {left left' right right' : Scalar}
    (alike : C.Alike world left.value left'.value)
    (alike' : C.Alike world right.value right'.value) :
    C.Relates world (left.binary op right) (left'.binary op right')
      fun later answer answer' => C.Alike later answer.value answer'.value :=
  C.bind (C.checkType alike alike') fun _ _ _ growing _ =>
    C.taken (C.binary op (C.alike_mono alike growing) (C.alike_mono alike' growing))

theorem scalar_unary (op : UnaryOp) {operand operand' : Scalar}
    (alike : C.Alike world operand.value operand'.value) :
    C.Relates world (operand.unary op) (operand'.unary op)
      fun later answer answer' => C.Alike later answer.value answer'.value :=
  C.taken (C.unary op alike)

theorem scalar_compare (op : CompareOp) {left left' right right' : Scalar}
    (alike : C.Alike world left.value left'.value)
    (alike' : C.Alike world right.value right'.value) :
    C.Relates world (left.compare op right) (left'.compare op right')
      fun later answer answer' => C.Alike later answer.value answer'.value :=
  C.bind (C.checkType alike alike') fun _ _ _ growing _ =>
    C.taken (C.compare op (C.alike_mono alike growing) (C.alike_mono alike' growing))

/-! ### Positions that are known -/

theorem position_refused {literal : Literal} {cause : Error}
    (refused : Scalar.position literal = .error cause) : cause.isArithmetic = false := by
  unfold Scalar.position at refused
  dsimp only at refused
  split at refused
  · cases refused
  · cases refused
    simp [Error.isArithmetic, String.toList_append]

/-- The second run knows the position that the first one knows, or forgets it. -/
theorem knownPosition {index index' : Scalar} (alike : C.Alike world index.value index'.value) :
    C.Relates world (index.knownPosition : m (Option Nat)) (index'.knownPosition : n (Option Nat))
      fun _ answer answer' => answer = answer' ∨ (C.Forgets ∧ answer' = none) := by
  unfold Scalar.knownPosition Scalar.known
  apply C.bind (C.known alike)
  rintro later literal? literal?' - (rfl | ⟨forgets, rfl⟩)
  · cases literal? with
    | none => exact C.pure (.inl rfl)
    | some literal =>
        apply C.map some some (C.ofExcept_same _)
        rintro last position position' - rfl
        exact .inl rfl
  · cases literal? with
    | none => exact C.pure (.inl rfl)
    | some literal =>
        have kept : (Pure.pure none : n (Option Nat)) = id <$> Pure.pure none := by
          rw [id_map]
        dsimp only
        rw [kept]
        have refused : C.Relates later (Kernel.ofExcept (Scalar.position literal) : m Nat)
            (Pure.pure none : n (Option Nat)) fun _ _ answer' => answer' = none :=
          C.refuse forgets (fun _ => position_refused) fun _ => rfl
        exact C.map some id refused fun _ _ _ _ none' => .inr ⟨forgets, none'⟩

theorem checkBelow {index index' : Scalar} (alike : C.Alike world index.value index'.value)
    (size : Nat) :
    C.Relates world (index.checkBelow size : m Unit) (index'.checkBelow size : n Unit)
      fun _ _ _ => True := by
  unfold Scalar.checkBelow
  apply C.bind (C.knownPosition alike)
  rintro later position? position?' - (rfl | ⟨forgets, rfl⟩)
  · cases position? with
    | none => exact C.pure trivial
    | some position =>
        dsimp only
        split
        · exact C.fail _
        · exact C.pure trivial
  · cases position? with
    | none => exact C.pure trivial
    | some position =>
        dsimp only
        split
        · change C.Relates later (Kernel.ofExcept (.error _)) (Pure.pure ()) _
          apply C.refuse forgets
          · rintro cause ⟨⟩
            rfl
          · exact fun _ => trivial
        · exact C.pure trivial

end Correspondence
end TensorGraph

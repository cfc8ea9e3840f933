/-
Tensors under a correspondence.

Visiting the coordinates of a layout is a nest of loops, so a body that goes
alike at alike coordinates goes alike over the whole region.  Alike values make
alike vectors and matrices, whose sizes are those of one layout.  So the checks
of the two runs have one outcome, and what is left of a kernel are its primitives.
-/

import TensorGraph.Kernel.Elementwise
import TensorGraph.Kernel.Matrix
import TensorGraph.Kernel.Window
import TensorGraph.Proofs.Kernel.Correspondence

namespace TensorGraph.Correspondence

variable {m n : Type → Type} [Kernel m] [Kernel n] (C : Correspondence m n) {world later : C.World}

/-- Coordinates that stand for each other, one by one. -/
def Coordinates (world : C.World) (left right : List Scalar) : Prop :=
  List.Forall₂ (fun index index' : Scalar => C.Alike world index.value index'.value) left right

/-- Views of two values: alike, and as writable as the values. -/
def Views (world : C.World) (left right : Value) (later : C.World) (view view' : Value) : Prop :=
  C.Alike later view view' ∧ (C.Writable world left right → C.Writable later view view')

theorem Coordinates.mono {C : Correspondence m n} {world later : C.World}
    {left right : List Scalar} (alike : C.Coordinates world left right)
    (growing : C.Later world later) : C.Coordinates later left right :=
  List.Forall₂.imp (fun _ _ same => C.alike_mono same growing) alike

theorem Coordinates.append {C : Correspondence m n} {world : C.World}
    {left right : List Scalar} {index index' : Scalar} (alike : C.Coordinates world left right)
    (same : C.Alike world index.value index'.value) :
    C.Coordinates world (left ++ [index]) (right ++ [index']) := by
  unfold Coordinates at alike ⊢
  induction alike with
  | nil => exact .cons same .nil
  | cons head _ ih => exact .cons head ih

/-- The values are their own views. -/
theorem Views.self {C : Correspondence m n} {world : C.World} {left right : Value}
    (alike : C.Alike world left right) : C.Views world left right world left right :=
  ⟨alike, id⟩

theorem Views.of_later {C : Correspondence m n} {world later last : C.World}
    {left right view view' : Value} (views : C.Views later left right last view view')
    (growing : C.Later world later) : C.Views world left right last view view' :=
  ⟨views.1, fun writable => views.2 (C.writable_mono writable growing)⟩

theorem Views.trans {C : Correspondence m n} {world middle last : C.World}
    {left right view view' part part' : Value} (views : C.Views world left right middle view view')
    (parts : C.Views middle view view' last part part') :
    C.Views world left right last part part' :=
  ⟨parts.1, fun writable => parts.2 (views.2 writable)⟩

/-- The body goes alike at alike coordinates. -/
def Bodies (world : C.World) (body : List Scalar → m Unit) (body' : List Scalar → n Unit) : Prop :=
  ∀ later coordinates coordinates', C.Later world later →
    C.Coordinates later coordinates coordinates' →
    C.Relates later (body coordinates) (body' coordinates') fun _ _ _ => True

theorem visit {body : List Scalar → m Unit} {body' : List Scalar → n Unit}
    (bodies : C.Bodies world body body') (sizes : List Nat) {outer outer' : List Scalar}
    (growing : C.Later world later) (alike : C.Coordinates later outer outer') :
    C.Relates later (Kernel.visit sizes outer body) (Kernel.visit sizes outer' body')
      fun _ _ _ => True := by
  induction sizes generalizing later outer outer' with
  | nil => exact bodies later outer outer' growing alike
  | cons size inner ih =>
      apply C.forRange (.inl rfl)
      intro last index index' growing' same
      exact ih (C.later_trans growing growing') ((alike.mono growing').append same)

theorem forEach {body : List Scalar → m Unit} {body' : List Scalar → n Unit} (placed : Layout)
    (bodies : C.Bodies world body body') :
    C.Relates world (Kernel.forEach placed body) (Kernel.forEach placed body')
      fun _ _ _ => True :=
  C.visit bodies placed.logicalSizes (C.later_refl world) .nil

theorem checkCompatible {target target' source source' : Value}
    (alike : C.Alike world target target') (alike' : C.Alike world source source') :
    Kernel.checkCompatible target' source' = Kernel.checkCompatible target source := by
  unfold Kernel.checkCompatible
  rw [C.ready alike, C.ready alike', C.dtype_eq alike, C.dtype_eq alike']

variable [LawfulKernel m] [LawfulKernel n]

theorem element {left right : Value} {coordinates coordinates' : List Scalar}
    (alike : C.Alike world left right) (same : C.Coordinates world coordinates coordinates') :
    C.Relates world (Kernel.element left coordinates) (Kernel.element right coordinates')
      fun later answer answer' => C.Views world left right later answer.value answer'.value := by
  apply C.bind (C.offset alike same)
  intro later base base' _ views
  apply C.bind (C.withLayout Layout.scalar views.1)
  intro last place place' _ views'
  apply C.weaken (C.scalar views'.1)
  rintro final answer answer' growing ⟨rfl, rfl⟩
  exact ⟨C.alike_mono views'.1 growing, fun writable =>
    C.writable_mono (views'.2 (views.2 writable)) growing⟩

/-- A cell of fresh memory. -/
theorem cell (dtype : DType) :
    C.Relates world (Kernel.cell dtype : m Scalar) (Kernel.cell dtype : n Scalar)
      fun later answer answer' => C.Alike later answer.value answer'.value ∧
        C.Writable later answer.value answer'.value := by
  apply C.bind (C.allocate dtype Layout.scalar)
  rintro one memory memory' - ⟨alike, writable⟩
  apply C.weaken (C.scalar alike)
  rintro two answer answer' growing ⟨rfl, rfl⟩
  exact ⟨C.alike_mono alike growing, C.writable_mono writable growing⟩

/-- The region is read off a value first. -/
theorem forEachOf {body : List Scalar → m Unit} {body' : List Scalar → n Unit}
    (result : Except Error Layout) (bodies : C.Bodies world body body') :
    C.Relates world (Kernel.ofExcept result >>= fun placed => Kernel.forEach placed body)
      (Kernel.ofExcept result >>= fun placed => Kernel.forEach placed body')
      fun _ _ _ => True := by
  apply C.bind (C.ofExcept_same result)
  rintro later placed placed' growing rfl
  exact C.forEach placed fun last coordinates coordinates' growing' =>
    bodies last coordinates coordinates' (C.later_trans growing growing')

theorem elementwise {target target' source source' : Value} (op : BinaryOp)
    (alike : C.Alike world target target') (writable : C.Writable world target target')
    (alike' : C.Alike world source source') :
    C.Relates world (Kernel.elementwise target source op) (Kernel.elementwise target' source' op)
      fun _ _ _ => True := by
  unfold Kernel.elementwise
  rw [C.checkCompatible alike alike', C.layout_eq alike]
  apply C.bind (C.ofExcept_same _)
  intro middle _ _ growing₀ _
  apply C.forEachOf
  intro later coordinates coordinates' growing same
  have growing := C.later_trans growing₀ growing
  apply C.bind (C.element (C.alike_mono alike growing) same)
  intro one old old' growing₁ views
  have writable := views.2 (C.writable_mono writable growing)
  apply C.bind (C.element (C.alike_mono alike' (C.later_trans growing growing₁))
    (same.mono growing₁))
  intro two other other' growing₂ views'
  have alike₂ := C.alike_mono views.1 growing₂
  apply C.bind (C.scalar_binary op alike₂ views'.1)
  intro three result result' growing₃ alike₃
  exact C.scalar_assign (C.alike_mono alike₂ growing₃)
    (C.writable_mono writable (C.later_trans growing₂ growing₃)) alike₃

theorem assign {target target' source source' : Value} (alike : C.Alike world target target')
    (writable : C.Writable world target target') (alike' : C.Alike world source source') :
    C.Relates world (Kernel.assign target source) (Kernel.assign target' source')
      fun _ _ _ => True := by
  unfold Kernel.assign
  rw [C.checkCompatible alike alike', C.layout_eq alike]
  apply C.bind (C.ofExcept_same _)
  intro middle _ _ growing₀ _
  apply C.forEachOf
  intro later coordinates coordinates' growing same
  have growing := C.later_trans growing₀ growing
  apply C.bind (C.element (C.alike_mono alike growing) same)
  intro one old old' growing₁ views
  have writable := views.2 (C.writable_mono writable growing)
  apply C.bind (C.element (C.alike_mono alike' (C.later_trans growing growing₁))
    (same.mono growing₁))
  intro two other other' growing₂ views'
  exact C.scalar_assign (C.alike_mono views.1 growing₂) (C.writable_mono writable growing₂) views'.1

theorem fill {target target' : Value} {scalar scalar' : Scalar}
    (alike : C.Alike world target target') (writable : C.Writable world target target')
    (alike' : C.Alike world scalar.value scalar'.value) :
    C.Relates world (Kernel.fill target scalar) (Kernel.fill target' scalar')
      fun _ _ _ => True := by
  unfold Kernel.fill
  rw [C.ready alike]
  apply C.forEachOf
  intro later coordinates coordinates' growing same
  apply C.bind (C.element (C.alike_mono alike growing) same)
  intro last old old' growing' views
  exact C.scalar_assign views.1 (views.2 (C.writable_mono writable growing))
    (C.alike_mono alike' (C.later_trans growing growing'))

end TensorGraph.Correspondence

namespace TensorGraph.Correspondence

variable {m n : Type → Type} [Kernel m] [Kernel n] (C : Correspondence m n)
  {world later : C.World}

/-! ### Vectors -/

theorem vector_dtype {left right : Vector} (alike : C.Alike world left.value right.value) :
    right.dtype = left.dtype := by
  have same := C.dtype alike
  rw [left.typed, right.typed] at same
  exact Option.some.inj same

theorem vector_axis {left right : Vector} (alike : C.Alike world left.value right.value) :
    right.axis = left.axis := by
  have same := congrArg (Option.map Layout.axes) (C.layout alike)
  rw [left.rankOne, right.rankOne] at same
  exact (List.cons.inj (Option.some.inj same)).1

theorem vector_size {left right : Vector} (alike : C.Alike world left.value right.value) :
    right.size = left.size :=
  congrArg Axis.size (C.vector_axis alike)

theorem vector_increment {left right : Vector} (alike : C.Alike world left.value right.value) :
    right.increment = left.increment :=
  congrArg Axis.increment (C.vector_axis alike)

/-- What the answer of `Vector.ofValue` rests on. -/
private theorem vector_agrees {left right : Value} (dtype : right.dtype? = left.dtype?)
    (layout : right.layout? = left.layout?) (ready : right.ready = left.ready) :
    (∃ answer answer' : Vector, Vector.ofValue left = .ok answer ∧
      Vector.ofValue right = .ok answer' ∧ answer.value = left ∧ answer'.value = right) ∨
      ∃ cause, Vector.ofValue left = .error cause ∧ Vector.ofValue right = .error cause := by
  unfold Vector.ofValue
  rw [ready]
  cases left.ready with
  | error cause => exact .inr ⟨cause, rfl, rfl⟩
  | ok placed =>
      obtain ⟨dtype?, layout?, place⟩ := left
      obtain ⟨dtype?', layout?', place'⟩ := right
      subst dtype layout
      dsimp only
      split
      · cases dtype?' with
        | some known =>
            dsimp only
            split
            · exact .inl ⟨_, _, rfl, rfl, rfl, rfl⟩
            · exact .inr ⟨_, rfl, rfl⟩
        | none => exact .inr ⟨_, rfl, rfl⟩
      · exact .inr ⟨_, rfl, rfl⟩

/-! ### Matrices -/

theorem matrix_dtype {left right : Matrix} (alike : C.Alike world left.value right.value) :
    right.dtype = left.dtype := by
  have same := C.dtype alike
  rw [left.typed, right.typed] at same
  exact Option.some.inj same

theorem matrix_layout {left right : Matrix} (alike : C.Alike world left.value right.value) :
    right.layout = left.layout := by
  have same := C.layout alike
  rw [left.placed, right.placed] at same
  exact Option.some.inj same

theorem matrix_rows {left right : Matrix} (alike : C.Alike world left.value right.value) :
    right.rows = left.rows := by
  unfold Matrix.rows Matrix.side
  rw [C.matrix_layout alike]

theorem matrix_columns {left right : Matrix} (alike : C.Alike world left.value right.value) :
    right.columns = left.columns := by
  unfold Matrix.columns Matrix.side
  rw [C.matrix_layout alike]

/-- What the answer of `Matrix.ofValue` rests on. -/
private theorem matrix_agrees {left right : Value} (dtype : right.dtype? = left.dtype?)
    (layout : right.layout? = left.layout?) (ready : right.ready = left.ready) :
    (∃ answer answer' : Matrix, Matrix.ofValue left = .ok answer ∧
      Matrix.ofValue right = .ok answer' ∧ answer.value = left ∧ answer'.value = right) ∨
      ∃ cause, Matrix.ofValue left = .error cause ∧ Matrix.ofValue right = .error cause := by
  unfold Matrix.ofValue
  rw [ready]
  cases left.ready with
  | error cause => exact .inr ⟨cause, rfl, rfl⟩
  | ok placed =>
      obtain ⟨dtype?, layout?, place⟩ := left
      obtain ⟨dtype?', layout?', place'⟩ := right
      subst dtype layout
      dsimp only
      split
      · cases dtype?' with
        | some known =>
            dsimp only
            split
            · exact .inl ⟨_, _, rfl, rfl, rfl, rfl⟩
            · exact .inr ⟨_, rfl, rfl⟩
        | none => exact .inr ⟨_, rfl, rfl⟩
      · exact .inr ⟨_, rfl, rfl⟩

/-! ### Windows -/

theorem checkPacked (name : String) {left right : Vector}
    (alike : C.Alike world left.value right.value) :
    C.Relates world (Kernel.checkPacked name left) (Kernel.checkPacked name right)
      fun _ _ _ => True := by
  unfold Kernel.checkPacked
  rw [C.vector_increment alike]
  split
  · exact C.fail _
  · exact C.pure trivial

/-! ### Operations -/

variable [LawfulKernel m] [LawfulKernel n]

theorem vector {first first' left right : Value} (views : C.Views later first first' world left right) :
    C.Relates world (Kernel.ofExcept (Vector.ofValue left))
      (Kernel.ofExcept (Vector.ofValue right)) fun last answer answer' =>
        C.Views later first first' last answer.value answer'.value := by
  apply C.ofExcept
  rcases vector_agrees (C.dtype views.1) (C.layout views.1) (C.ready views.1) with
    ⟨answer, answer', done, done', same, same'⟩ | failed
  · refine .inl ⟨answer, answer', done, done', ?_⟩
    rw [same, same']
    exact views
  · exact .inr failed

theorem vector_element {left right : Vector} {index index' : Scalar}
    (alike : C.Alike world left.value right.value)
    (same : C.Alike world index.value index'.value) :
    C.Relates world (left.element index) (right.element index')
      fun later answer answer' =>
        C.Views world left.value right.value later answer.value answer'.value := by
  unfold Vector.element
  rw [C.vector_size alike]
  apply C.bind (C.checkBelow same left.size)
  intro later _ _ growing _
  apply C.weaken (C.element (C.alike_mono alike growing)
    (.cons (C.alike_mono same growing) .nil))
  exact fun _ _ _ _ views => views.of_later growing

theorem dot {left left' right right' : Vector} (alike : C.Alike world left.value left'.value)
    (alike' : C.Alike world right.value right'.value) :
    C.Relates world (left.dot right) (left'.dot right')
      fun later answer answer' => C.Alike later answer.value answer'.value := by
  unfold Vector.dot
  rw [C.checkCompatible alike alike', C.vector_dtype alike, C.vector_size alike]
  apply C.bind (C.ofExcept_same _)
  intro one _ _ growing₁ _
  apply C.bind (C.cell left.dtype)
  rintro three total total' growing₃ ⟨fresh, writable⟩
  apply C.bind (C.constant _)
  intro four zero zero' growing₄ alike₄
  apply C.bind (C.scalar_assign (by grind) (by grind) alike₄)
  intro five _ _ growing₅ _
  refine C.andThen (C.forRange (.inl rfl) ?_) ?_
  · intro later index index' growing same
    apply C.bind (C.element (by grind) (.cons same .nil))
    intro six first first' growing₆ views
    apply C.bind (C.element (by grind) (.cons (C.alike_mono same growing₆) .nil))
    intro seven second second' growing₇ views'
    apply C.bind (C.scalar_binary .mul (C.alike_mono views.1 growing₇) views'.1)
    intro eight product product' growing₈ alike₈
    apply C.bind (C.scalar_binary .add (by grind) alike₈)
    intro nine sum sum' growing₉ alike₉
    exact C.scalar_assign (by grind) (by grind) alike₉
  · intro later _ _ growing _
    exact C.pure (by grind)

theorem combine (op : BinaryOp) {target target' source source' : Vector}
    (alike : C.Alike world target.value target'.value)
    (writable : C.Writable world target.value target'.value)
    (alike' : C.Alike world source.value source'.value) :
    C.Relates world (Vector.combine op target source) (Vector.combine op target' source')
      fun _ _ _ => True :=
  C.elementwise op alike writable alike'

theorem matrix {left right : Value} (alike : C.Alike world left right) :
    C.Relates world (Kernel.ofExcept (Matrix.ofValue left))
      (Kernel.ofExcept (Matrix.ofValue right)) fun _ answer answer' =>
        answer.value = left ∧ answer'.value = right := by
  apply C.ofExcept
  rcases matrix_agrees (C.dtype alike) (C.layout alike) (C.ready alike) with
    ⟨answer, answer', done, done', same, same'⟩ | failed
  · exact .inl ⟨answer, answer', done, done', same, same'⟩
  · exact .inr failed

/-- A row or a column. -/
theorem line {left right : Matrix} {index index' : Scalar} (logical size : Nat)
    (alike : C.Alike world left.value right.value)
    (same : C.Alike world index.value index'.value) :
    C.Relates world (left.line logical size index) (right.line logical size index')
      fun later answer answer' => C.Alike later answer.value answer'.value := by
  unfold Matrix.line
  rw [C.matrix_layout alike]
  apply C.bind (C.checkBelow same size)
  intro one _ _ growing₁ _
  apply C.bind (C.ofExcept_same _)
  rintro two sliced _ growing₂ rfl
  apply C.bind (C.index 0)
  intro three zero zero' growing₃ alike₃
  have same₃ : C.Alike three index.value index'.value := by grind
  refine C.bind (?_ : C.Relates three _ _ C.Alike) ?_
  · apply C.weaken (C.offset (by grind) ?_) fun _ _ _ _ views => views.1
    split
    · exact .cons same₃ (.cons alike₃ .nil)
    · exact .cons alike₃ (.cons same₃ .nil)
  · intro four base base' _ alike₄
    apply C.bind (C.withLayout sliced alike₄)
    intro five place place' _ views
    exact C.weaken (C.vector (.self views.1)) fun _ _ _ _ views' => views'.1

theorem multiply {matrix matrix' : Matrix} {source source' target target' : Vector}
    (weights : C.Alike world matrix.value matrix'.value)
    (alike : C.Alike world source.value source'.value)
    (alike' : C.Alike world target.value target'.value)
    (writable : C.Writable world target.value target'.value) :
    C.Relates world (matrix.multiply source target) (matrix'.multiply source' target')
      fun _ _ _ => True := by
  unfold Matrix.multiply
  rw [C.matrix_rows weights, C.matrix_columns weights, C.matrix_dtype weights,
    C.vector_size alike, C.vector_size alike', C.vector_dtype alike, C.vector_dtype alike']
  apply C.check Iff.rfl rfl
  apply C.check Iff.rfl rfl
  apply C.check Iff.rfl rfl
  apply C.forRange (.inl rfl)
  intro later index index' growing same
  unfold Matrix.row
  rw [C.matrix_rows weights]
  apply C.bind (C.line 0 matrix.rows (by grind) same)
  intro one row row' growing₁ alike₁
  apply C.bind (C.dot alike₁ (by grind))
  intro two product product' growing₂ alike₂
  apply C.bind (C.vector_element (by grind) (by grind))
  intro three place place' growing₃ views
  exact C.scalar_assign views.1 (views.2 (by grind)) (by grind)

theorem firstPosition {left right : Vector} (alike : C.Alike world left.value right.value) :
    C.Relates world (Kernel.firstPosition left) (Kernel.firstPosition right)
      fun _ answer answer' => answer = answer' := by
  unfold Kernel.firstPosition
  rw [C.layout_eq alike]
  exact C.ofExcept_same _

theorem shift {buffer buffer' newest newest' dropped dropped' : Vector}
    (alike : C.Alike world buffer.value buffer'.value)
    (writable : C.Writable world buffer.value buffer'.value)
    (alike' : C.Alike world newest.value newest'.value)
    (out : C.Alike world dropped.value dropped'.value)
    (writable' : C.Writable world dropped.value dropped'.value) :
    C.Relates world (Kernel.shift buffer newest (some dropped))
      (Kernel.shift buffer' newest' (some dropped')) fun _ _ _ => True := by
  unfold Kernel.shift
  rw [C.vector_size alike, C.vector_size alike', C.vector_dtype alike, C.vector_dtype alike']
  dsimp only
  rw [C.vector_size out, C.vector_dtype out]
  split
  · exact C.stopped (C.abort _)
  apply C.check Iff.rfl rfl
  apply C.bind (C.checkPacked "buffer" alike)
  intro one _ _ growing₁ _
  apply C.bind (C.checkPacked "new data" (by grind))
  intro two _ _ growing₂ _
  apply C.bind (C.firstPosition (by grind))
  rintro three start _ growing₃ rfl
  apply C.bind (C.firstPosition (by grind))
  rintro four begin _ growing₄ rfl
  apply C.check Iff.rfl rfl
  apply C.check Iff.rfl rfl
  apply C.bind (C.checkPacked "shifted-out buffer" (by grind))
  intro five _ _ growing₅ _
  apply C.bind (C.firstPosition (by grind))
  rintro six place _ growing₆ rfl
  apply C.bind (C.move _ _ _ (by grind) (by grind) (by grind))
  intro seven _ _ growing₇ _
  apply C.bind (C.move _ _ _ (by grind) (by grind) (by grind))
  intro eight _ _ growing₈ _
  exact C.move _ _ _ (by grind) (by grind) (by grind)

end TensorGraph.Correspondence

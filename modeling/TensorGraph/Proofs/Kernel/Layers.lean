/-
Layers under a correspondence.

Every layer reads its parameters and its input and writes only its output, its
memory, or memory of its own.  So it goes alike on alike values, as long as the
runs may write those.
-/

import TensorGraph.Kernel.Layer.Channel
import TensorGraph.Kernel.Layer.Convolution
import TensorGraph.Kernel.Layer.Lstm
import TensorGraph.Kernel.Layer.Pooling
import TensorGraph.Kernel.Layer.Region
import TensorGraph.Proofs.Kernel.Tensors

namespace TensorGraph.Correspondence

variable {m n : Type → Type} [Kernel m] [Kernel n] [LawfulKernel m] [LawfulKernel n]
  (C : Correspondence m n) {world later : C.World}

/-! ### Functions of one scalar -/

theorem logistic {x x' : Scalar} (alike : C.Alike world x.value x'.value) :
    C.Relates world (ActivationFunction.logistic x) (ActivationFunction.logistic x')
      fun later answer answer' => C.Alike later answer.value answer'.value := by
  unfold ActivationFunction.logistic
  apply C.bind (C.scalar_unary .neg alike)
  intro one negated negated' growing₁ alike₁
  apply C.bind (C.scalar_unary .exp alike₁)
  intro two power power' growing₂ alike₂
  apply C.bind (C.like (by grind) 1.0)
  intro three unit unit' growing₃ alike₃
  apply C.bind (C.scalar_binary .add alike₃ (by grind))
  intro four sum sum' growing₄ alike₄
  exact C.scalar_binary .div (by grind) alike₄

/-- One step of arithmetic with a constant of the same type. -/
private theorem withConstant (op : BinaryOp) (number : Float) {x x' : Scalar}
    (alike : C.Alike world x.value x'.value) :
    C.Relates world (do x.binary op (← x.like number)) (do x'.binary op (← x'.like number))
      fun later answer answer' => C.Alike later answer.value answer'.value := by
  apply C.bind (C.like alike number)
  intro later constant constant' growing same
  exact C.scalar_binary op (C.alike_mono alike growing) same

theorem apply (function : ActivationFunction) {x x' : Scalar}
    (alike : C.Alike world x.value x'.value) :
    C.Relates world (function.apply x) (function.apply x')
      fun later answer answer' => C.Alike later answer.value answer'.value := by
  cases function with
  | relu => exact C.withConstant .max 0.0 alike
  | leakyRelu alpha =>
      apply C.bind (C.like alike alpha)
      intro one factor factor' growing₁ alike₁
      apply C.bind (C.scalar_binary .mul (by grind) alike₁)
      intro two scaled scaled' growing₂ alike₂
      exact C.scalar_binary _ (by grind) alike₂
  | sigmoid => exact C.logistic alike
  | tanh => exact C.scalar_unary .tanh alike
  | hardSigmoid =>
      apply C.bind (C.like alike 0.2)
      intro one factor factor' growing₁ alike₁
      apply C.bind (C.scalar_binary .mul (by grind) alike₁)
      intro two scaled scaled' growing₂ alike₂
      apply C.bind (C.like (by grind) 0.5)
      intro three half half' growing₃ alike₃
      apply C.bind (C.scalar_binary .add (by grind) alike₃)
      intro four shifted shifted' growing₄ alike₄
      apply C.bind (C.like (by grind) 0.0)
      intro five zero zero' growing₅ alike₅
      apply C.bind (C.scalar_binary .max (by grind) alike₅)
      intro six raised raised' growing₆ alike₆
      apply C.bind (C.like (by grind) 1.0)
      intro seven unit unit' growing₇ alike₇
      exact C.scalar_binary .min (by grind) alike₇

theorem activate (function : ActivationFunction) {input input' output output' : Value}
    (alike : C.Alike world input input') (alike' : C.Alike world output output')
    (writable : C.Writable world output output') :
    C.Relates world (Kernel.activate function input output)
      (Kernel.activate function input' output') fun _ _ _ => True := by
  unfold Kernel.activate
  rw [C.layout_eq alike']
  apply C.forEachOf
  intro later coordinates coordinates' growing same
  apply C.bind (C.element (by grind) same)
  intro one x x' growing₁ views
  apply C.bind (C.apply function views.1)
  intro two y y' growing₂ alike₂
  apply C.bind (C.element (by grind) ((same.mono growing₁).mono growing₂))
  intro three place place' growing₃ views'
  exact C.scalar_assign views'.1 (views'.2 (by grind)) (by grind)

/-! ### Channels -/

theorem channelOf {coordinates coordinates' : List Scalar}
    (same : C.Coordinates world coordinates coordinates') :
    C.Relates world (Kernel.channelOf coordinates) (Kernel.channelOf coordinates')
      fun later answer answer' => C.Alike later answer.value answer'.value := by
  unfold Kernel.channelOf
  have reversed := List.forall₂_reverse_iff.mpr same
  rw [← List.head?_reverse, ← List.head?_reverse]
  generalize coordinates.reverse = backwards at *
  generalize coordinates'.reverse = backwards' at *
  cases reversed with
  | nil => exact C.index 0
  | cons alike _ => exact C.pure alike

theorem perChannel (op : BinaryOp) {parameter parameter' input input' output output' : Value}
    (known : C.Alike world parameter parameter') (alike : C.Alike world input input')
    (alike' : C.Alike world output output') (writable : C.Writable world output output') :
    C.Relates world (Kernel.perChannel op parameter input output)
      (Kernel.perChannel op parameter' input' output') fun _ _ _ => True := by
  unfold Kernel.perChannel
  rw [C.layout_eq alike']
  apply C.forEachOf
  intro later coordinates coordinates' growing same
  apply C.bind (C.channelOf same)
  intro one channel channel' growing₁ alike₁
  apply C.bind (C.element (by grind) (.cons alike₁ .nil))
  intro two factor factor' growing₂ views₂
  apply C.bind (C.element (by grind) ((same.mono growing₁).mono growing₂))
  intro three x x' growing₃ views₃
  apply C.bind (C.scalar_binary op views₃.1 (C.alike_mono views₂.1 growing₃))
  intro four y y' growing₄ alike₄
  apply C.bind (C.element (by grind)
    ((((same.mono growing₁).mono growing₂).mono growing₃).mono growing₄))
  intro five place place' growing₅ views₅
  exact C.scalar_assign views₅.1 (views₅.2 (by grind)) (by grind)

theorem normalize {mean mean' scale scale' input input' output output' : Value}
    (centers : C.Alike world mean mean') (factors : C.Alike world scale scale')
    (alike : C.Alike world input input') (alike' : C.Alike world output output')
    (writable : C.Writable world output output') :
    C.Relates world (Kernel.normalize mean scale input output)
      (Kernel.normalize mean' scale' input' output') fun _ _ _ => True := by
  unfold Kernel.normalize
  rw [C.layout_eq alike']
  apply C.forEachOf
  intro later coordinates coordinates' growing same
  apply C.bind (C.channelOf same)
  intro one channel channel' growing₁ alike₁
  have same := same.mono growing₁
  apply C.bind (C.element (by grind) (.cons alike₁ .nil))
  intro two center center' growing₂ views₂
  have same := same.mono growing₂
  apply C.bind (C.element (by grind) (.cons (C.alike_mono alike₁ growing₂) .nil))
  intro three factor factor' growing₃ views₃
  have same := same.mono growing₃
  apply C.bind (C.element (by grind) same)
  intro four x x' growing₄ views₄
  have same := same.mono growing₄
  have known : C.Alike three center.value center'.value := C.alike_mono views₂.1 growing₃
  apply C.bind (C.scalar_binary .sub views₄.1 (by grind))
  intro five centered centered' growing₅ alike₅
  have known' : C.Alike four factor.value factor'.value := C.alike_mono views₃.1 growing₄
  apply C.bind (C.scalar_binary .mul alike₅ (by grind))
  intro six y y' growing₆ alike₆
  apply C.bind (C.element (by grind) ((same.mono growing₅).mono growing₆))
  intro seven place place' growing₇ views₇
  exact C.scalar_assign views₇.1 (views₇.2 (by grind)) (by grind)

/-! ### Reductions over windows -/

theorem convolveTerm {weights weights' full full' : Value}
    {filter filter' row row' column column' total total' : Scalar}
    (known : C.Alike world weights weights') (whole : C.Alike world full full')
    (filters : C.Alike world filter.value filter'.value)
    (rows : C.Alike world row.value row'.value)
    (columns : C.Alike world column.value column'.value)
    (sums : C.Alike world total.value total'.value)
    (writable : C.Writable world total.value total'.value) :
    C.Bodies world (Kernel.convolveTerm weights full filter row column total)
      (Kernel.convolveTerm weights' full' filter' row' column' total') := by
  intro later offsets offsets' growing same
  rcases same with _ | ⟨down, _ | ⟨across, _ | ⟨channels, _ | ⟨_, _⟩⟩⟩⟩
  · exact C.pure trivial
  · exact C.pure trivial
  · exact C.pure trivial
  · unfold Kernel.convolveTerm Kernel.position
    apply C.bind (C.scalar_binary .add (by grind) down)
    intro one r r' growing₁ alike₁
    apply C.bind (C.scalar_binary .add (by grind) (by grind))
    intro two c c' growing₂ alike₂
    apply C.bind (C.element (by grind)
      (.cons (by grind) (.cons alike₂ (.cons (by grind) .nil))))
    intro three x x' growing₃ views₃
    apply C.bind (C.element (by grind)
      (.cons (by grind) (.cons (by grind) (.cons (by grind) (.cons (by grind) .nil)))))
    intro four weight weight' growing₄ views₄
    apply C.bind (C.scalar_binary .mul (C.alike_mono views₃.1 growing₄) views₄.1)
    intro five product product' growing₅ alike₅
    apply C.bind (C.scalar_binary .add (by grind) alike₅)
    intro six sum sum' growing₆ alike₆
    exact C.scalar_assign (by grind) (by grind) alike₆
  · exact C.pure trivial

theorem convolveAt (shape : Kernel.ConvolutionShape) (dtype : DType) {stride stride' : Scalar}
    {weights weights' full full' output output' : Value}
    (strides : C.Alike world stride.value stride'.value)
    (known : C.Alike world weights weights') (whole : C.Alike world full full')
    (alike : C.Alike world output output') (writable : C.Writable world output output') :
    C.Bodies world (Kernel.convolveAt shape dtype stride weights full output)
      (Kernel.convolveAt shape dtype stride' weights' full' output') := by
  intro later coordinates coordinates' growing same
  have places := same
  rcases same with _ | ⟨down, _ | ⟨across, _ | ⟨filters, _ | ⟨_, _⟩⟩⟩⟩
  · exact C.pure trivial
  · exact C.pure trivial
  · exact C.pure trivial
  · unfold Kernel.convolveAt
    apply C.bind (C.cell dtype)
    rintro one total total' growing₁ ⟨sums, free⟩
    apply C.bind (C.constant _)
    intro two zero zero' growing₂ alike₂
    apply C.bind (C.scalar_assign (by grind) (by grind) alike₂)
    intro three _ _ growing₃ _
    apply C.bind (C.scalar_binary .mul (by grind) (by grind))
    intro four row row' growing₄ alike₄
    apply C.bind (C.scalar_binary .mul (by grind) (by grind))
    intro five column column' growing₅ alike₅
    apply C.bind (C.forEach _ (C.convolveTerm (by grind) (by grind) (by grind) (by grind) alike₅
      (by grind) (by grind)))
    intro six _ _ growing₆ _
    apply C.bind (C.element (by grind) (places.mono (by grind)))
    intro seven place place' growing₇ views
    exact C.scalar_assign views.1 (views.2 (by grind)) (by grind)
  · exact C.pure trivial

theorem convolve (shape : Kernel.ConvolutionShape)
    {weights weights' input input' output output' : Value}
    (known : C.Alike world weights weights') (alike : C.Alike world input input')
    (alike' : C.Alike world output output') (writable : C.Writable world output output') :
    C.Relates world (Kernel.convolve shape weights input output)
      (Kernel.convolve shape weights' input' output') fun _ _ _ => True := by
  unfold Kernel.convolve
  rw [C.dtype_eq alike, C.layout_eq alike']
  apply C.bind (C.ofExcept_same _)
  rintro one dtype _ growing₁ rfl
  apply C.bind (C.ofExcept_same _)
  rintro two interior _ growing₂ rfl
  apply C.bind (C.allocate dtype interior)
  rintro three bordered bordered' growing₃ ⟨fresh, free⟩
  apply C.bind (C.assign fresh free (by grind))
  intro four _ _ growing₄ _
  apply C.bind (C.withLayout _ (C.alike_mono fresh growing₄))
  rintro five full full' growing₅ ⟨whole, -⟩
  apply C.bind (C.index shape.stride)
  intro six stride stride' growing₆ strides
  exact C.forEachOf _ (C.convolveAt shape dtype strides (by grind) (by grind) (by grind)
    (by grind))

theorem poolTerm (kind : PoolingKind) {input input' : Value}
    {row row' column column' channel channel' reduced reduced' : Scalar}
    (alike : C.Alike world input input') (rows : C.Alike world row.value row'.value)
    (columns : C.Alike world column.value column'.value)
    (channels : C.Alike world channel.value channel'.value)
    (sums : C.Alike world reduced.value reduced'.value)
    (writable : C.Writable world reduced.value reduced'.value) :
    C.Bodies world (Kernel.poolTerm kind input row column channel reduced)
      (Kernel.poolTerm kind input' row' column' channel' reduced') := by
  intro later offsets offsets' growing same
  rcases same with _ | ⟨down, _ | ⟨across, _ | ⟨_, _⟩⟩⟩
  · exact C.pure trivial
  · exact C.pure trivial
  · unfold Kernel.poolTerm
    apply C.bind (C.scalar_binary .add (by grind) down)
    intro one r r' growing₁ alike₁
    apply C.bind (C.scalar_binary .add (by grind) (by grind))
    intro two c c' growing₂ alike₂
    apply C.bind (C.element (by grind)
      (.cons (by grind) (.cons alike₂ (.cons (by grind) .nil))))
    intro three x x' growing₃ views₃
    apply C.bind (C.scalar_binary _ (by grind) views₃.1)
    intro four result result' growing₄ alike₄
    exact C.scalar_assign (by grind) (by grind) alike₄
  · exact C.pure trivial

theorem poolResult (kind : PoolingKind) (window : Nat) {reduced reduced' : Scalar}
    (alike : C.Alike world reduced.value reduced'.value) :
    C.Relates world (Kernel.poolResult kind window reduced)
      (Kernel.poolResult kind window reduced')
      fun later answer answer' => C.Alike later answer.value answer'.value := by
  cases kind with
  | max => exact C.pure alike
  | mean => exact C.withConstant .div _ alike

theorem poolAt (kind : PoolingKind) (window : Nat) (dtype : DType) {step step' : Scalar}
    {input input' output output' : Value} (steps : C.Alike world step.value step'.value)
    (alike : C.Alike world input input') (alike' : C.Alike world output output')
    (writable : C.Writable world output output') :
    C.Bodies world (Kernel.poolAt kind window dtype step input output)
      (Kernel.poolAt kind window dtype step' input' output') := by
  intro later coordinates coordinates' growing same
  have places := same
  rcases same with _ | ⟨down, _ | ⟨across, _ | ⟨channels, _ | ⟨_, _⟩⟩⟩⟩
  · exact C.pure trivial
  · exact C.pure trivial
  · exact C.pure trivial
  · unfold Kernel.poolAt
    apply C.bind (C.cell dtype)
    rintro one reduced reduced' growing₁ ⟨sums, free⟩
    apply C.bind (C.like sums _)
    intro two first first' growing₂ alike₂
    apply C.bind (C.scalar_assign (by grind) (by grind) alike₂)
    intro three _ _ growing₃ _
    apply C.bind (C.scalar_binary .mul (by grind) (by grind))
    intro four row row' growing₄ alike₄
    apply C.bind (C.scalar_binary .mul (by grind) (by grind))
    intro five column column' growing₅ alike₅
    apply C.bind (C.forEach _ (C.poolTerm kind (by grind) (by grind) alike₅ (by grind)
      (by grind) (by grind)))
    intro six _ _ growing₆ _
    apply C.bind (C.poolResult kind window (by grind))
    intro seven result result' growing₇ alike₇
    apply C.bind (C.element (by grind) (places.mono (by grind)))
    intro eight place place' growing₈ views
    exact C.scalar_assign views.1 (views.2 (by grind)) (by grind)
  · exact C.pure trivial

theorem pool (kind : PoolingKind) (window stride : Nat) {input input' output output' : Value}
    (alike : C.Alike world input input') (alike' : C.Alike world output output')
    (writable : C.Writable world output output') :
    C.Relates world (Kernel.pool kind window stride input output)
      (Kernel.pool kind window stride input' output') fun _ _ _ => True := by
  unfold Kernel.pool
  rw [C.dtype_eq alike, C.layout_eq alike']
  apply C.bind (C.ofExcept_same _)
  rintro one dtype _ growing₁ rfl
  apply C.bind (C.index stride)
  intro two step step' growing₂ steps
  exact C.forEachOf _ (C.poolAt kind window dtype steps (by grind) (by grind) (by grind))

/-! ### Exponentials -/

theorem raise {input input' : Vector} {greatest greatest' index index' : Scalar}
    (alike : C.Alike world input.value input'.value)
    (alike' : C.Alike world greatest.value greatest'.value)
    (writable : C.Writable world greatest.value greatest'.value)
    (same : C.Alike world index.value index'.value) :
    C.Relates world (Kernel.raise input greatest index) (Kernel.raise input' greatest' index')
      fun _ _ _ => True := by
  unfold Kernel.raise
  apply C.bind (C.vector_element alike same)
  intro one x x' growing₁ views
  apply C.bind (C.scalar_binary .max (by grind) views.1)
  intro two result result' growing₂ alike₂
  exact C.scalar_assign (by grind) (by grind) alike₂

theorem exponentiate {input input' output output' : Vector}
    {greatest greatest' total total' index index' : Scalar}
    (alike : C.Alike world input.value input'.value)
    (alike' : C.Alike world output.value output'.value)
    (writable : C.Writable world output.value output'.value)
    (known : C.Alike world greatest.value greatest'.value)
    (sums : C.Alike world total.value total'.value)
    (free : C.Writable world total.value total'.value)
    (same : C.Alike world index.value index'.value) :
    C.Relates world (Kernel.exponentiate input output greatest total index)
      (Kernel.exponentiate input' output' greatest' total' index') fun _ _ _ => True := by
  unfold Kernel.exponentiate
  apply C.bind (C.vector_element alike same)
  intro one x x' growing₁ views
  apply C.bind (C.scalar_binary .sub views.1 (by grind))
  intro two difference difference' growing₂ alike₂
  apply C.bind (C.scalar_unary .exp alike₂)
  intro three power power' growing₃ alike₃
  apply C.bind (C.vector_element (by grind) (by grind))
  intro four place place' growing₄ views'
  apply C.bind (C.scalar_assign views'.1 (views'.2 (by grind)) (by grind))
  intro five _ _ growing₅ _
  apply C.bind (C.scalar_binary .add (by grind) (by grind))
  intro six sum sum' growing₆ alike₆
  exact C.scalar_assign (by grind) (by grind) alike₆

theorem softmax {input input' output output' : Vector}
    (alike : C.Alike world input.value input'.value)
    (alike' : C.Alike world output.value output'.value)
    (writable : C.Writable world output.value output'.value) :
    C.Relates world (Kernel.softmax input output) (Kernel.softmax input' output')
      fun _ _ _ => True := by
  unfold Kernel.softmax
  rw [C.vector_dtype alike, C.vector_size alike, C.vector_size alike']
  apply C.bind (C.cell input.dtype)
  rintro one greatest greatest' growing₁ ⟨greatest₁, free₁⟩
  apply C.bind (C.cell input.dtype)
  rintro two total total' growing₂ ⟨total₂, free₂⟩
  apply C.bind (C.like (C.alike_mono greatest₁ growing₂) _)
  intro three lowest lowest' growing₃ alike₃
  apply C.bind (C.scalar_assign (by grind) (by grind) alike₃)
  intro four _ _ growing₄ _
  apply C.bind (C.like (by grind) _)
  intro five zero zero' growing₅ alike₅
  apply C.bind (C.scalar_assign (by grind) (by grind) alike₅)
  intro six _ _ growing₆ _
  have greatest₆ : C.Alike six greatest.value greatest'.value := by grind
  have raised₆ : C.Writable six greatest.value greatest'.value := by grind
  have total₆ : C.Alike six total.value total'.value := by grind
  have summed₆ : C.Writable six total.value total'.value := by grind
  have alike : C.Alike six input.value input'.value := by grind
  have alike' : C.Alike six output.value output'.value := by grind
  have writable : C.Writable six output.value output'.value := by grind
  apply C.bind (C.forRange (.inl rfl) fun later index index' growing same =>
    C.raise (by grind) (by grind) (by grind) same)
  intro seven _ _ growing₇ _
  apply C.bind (C.forRange (.inl rfl) fun later index index' growing same =>
    C.exponentiate (by grind) (by grind) (by grind) (by grind) (by grind) (by grind) same)
  intro eight _ _ growing₈ _
  apply C.forRange (.inl rfl)
  intro later index index' growing same
  apply C.bind (C.vector_element (by grind) same)
  intro nine power power' growing₉ views
  apply C.bind (C.scalar_binary .div views.1 (by grind))
  intro ten quotient quotient' growing₁₀ alike₁₀
  exact C.scalar_assign (C.alike_mono views.1 growing₁₀)
    (C.writable_mono (views.2 (by grind)) growing₁₀) alike₁₀

theorem each {α : Type} {action : α → m Unit} {action' : α → n Unit}
    (alike : ∀ item later, C.Later world later →
      C.Relates later (action item) (action' item) fun _ _ _ => True)
    (items : List α) (growing : C.Later world later) :
    C.Relates later (Kernel.each items action) (Kernel.each items action') fun _ _ _ => True := by
  induction items generalizing later with
  | nil => exact C.pure trivial
  | cons item rest ih =>
      apply C.bind (alike item later growing)
      intro last _ _ growing' _
      exact ih (C.later_trans growing growing')

/-! ### Regions -/

/-- A channel of a cell. -/
private theorem channel (position : Nat) {output output' : Value}
    {row row' column column' : Scalar} (alike : C.Alike world output output')
    (rows : C.Alike world row.value row'.value)
    (columns : C.Alike world column.value column'.value) :
    C.Relates world (do Kernel.element output [row, column, ← Scalar.index position])
      (do Kernel.element output' [row', column', ← Scalar.index position])
      fun later answer answer' =>
        C.Views world output output' later answer.value answer'.value := by
  apply C.bind (C.index position)
  intro one place place' growing alike₁
  apply C.weaken (C.element (by grind)
    (.cons (by grind) (.cons (by grind) (.cons alike₁ .nil))))
  exact fun _ _ _ _ views => views.of_later growing

theorem decodeAnchor (classes first : Nat) {output output' : Value}
    {row row' column column' : Scalar} (alike : C.Alike world output output')
    (writable : C.Writable world output output')
    (rows : C.Alike world row.value row'.value)
    (columns : C.Alike world column.value column'.value) :
    C.Relates world (Kernel.decodeAnchor classes first output row column)
      (Kernel.decodeAnchor classes first output' row' column') fun _ _ _ => True := by
  unfold Kernel.decodeAnchor
  refine C.andThen
    (C.each (fun position later growing => ?_) _ (C.later_refl world)) ?_
  · apply C.bind (C.channel _ (by grind) (by grind) (by grind))
    intro one score score' growing₁ views
    apply C.bind (C.logistic views.1)
    intro two result result' growing₂ alike₂
    exact C.scalar_assign (C.alike_mono views.1 growing₂)
      (C.writable_mono (views.2 (by grind)) growing₂) alike₂
  intro one _ _ growing₁ _
  refine C.andThen
    (C.each (fun position later growing => ?_) _ (C.later_refl one)) ?_
  · apply C.bind (C.channel _ (by grind) (by grind) (by grind))
    intro two score score' growing₂ views
    apply C.bind (C.scalar_unary .exp views.1)
    intro three result result' growing₃ alike₃
    exact C.scalar_assign (C.alike_mono views.1 growing₃)
      (C.writable_mono (views.2 (by grind)) growing₃) alike₃
  intro two _ _ growing₂ _
  split
  · apply C.bind (C.index _)
    intro three place place' growing₃ alike₃
    apply C.bind (C.offset (by grind) (.cons (by grind) (.cons (by grind) (.cons alike₃ .nil))))
    intro four start start' growing₄ views
    apply C.bind (C.withLayout _ views.1)
    intro five run run' growing₅ views'
    apply C.bind (C.vector (.self views'.1))
    intro six scores scores' growing₆ views₆
    exact C.softmax views₆.1 views₆.1 (views₆.2 (views'.2 (views.2 (by grind))))
  · exact C.pure trivial

theorem decodeRegions (anchors classes : Nat) {input input' output output' : Value}
    (alike : C.Alike world input input') (alike' : C.Alike world output output')
    (writable : C.Writable world output output') :
    C.Relates world (Kernel.decodeRegions anchors classes input output)
      (Kernel.decodeRegions anchors classes input' output') fun _ _ _ => True := by
  unfold Kernel.decodeRegions
  rw [C.layout_eq alike']
  apply C.bind (C.assign alike' writable alike)
  intro one _ _ growing₁ _
  apply C.bind (C.ofExcept_same _)
  rintro two placed _ growing₂ rfl
  apply C.bind (C.ofExcept_same _)
  rintro three increment _ growing₃ rfl
  apply C.check Iff.rfl rfl
  apply C.forEach
  intro later cell cell' growing same
  rcases same with _ | ⟨rows, _ | ⟨columns, _ | ⟨_, _⟩⟩⟩
  · exact C.pure trivial
  · exact C.pure trivial
  · exact C.each (fun anchor last growing' => C.decodeAnchor _ _ (by grind) (by grind) (by grind)
      (by grind)) _ (C.later_refl later)
  · exact C.pure trivial

/-! ### Dense layers -/

theorem row {left right : Value} (alike : C.Alike world left right) :
    C.Relates world (Kernel.row left) (Kernel.row right) fun later answer answer' =>
      C.Views world left right later answer.value answer'.value := by
  apply C.bind (C.flatten alike)
  intro one flat flat' growing views
  apply C.weaken (C.vector (.self views.1))
  exact fun _ _ _ _ views' => Views.trans views views'

/-- A value taken as a vector. -/
theorem vectorOf {left right : Value} (alike : C.Alike world left right) :
    C.Relates world (Kernel.ofExcept (Vector.ofValue left))
      (Kernel.ofExcept (Vector.ofValue right)) fun later answer answer' =>
        C.Views world left right later answer.value answer'.value :=
  C.vector (.self alike)

theorem multiplied {weights weights' : Matrix} {input input' output output' : Value}
    (known : C.Alike world weights.value weights'.value) (alike : C.Alike world input input')
    (alike' : C.Alike world output output') (writable : C.Writable world output output') :
    C.Relates world (Kernel.multiply weights input output)
      (Kernel.multiply weights' input' output') fun _ _ _ => True := by
  apply C.bind (C.row alike)
  intro one x x' growing₁ views₁
  apply C.bind (C.vectorOf (C.alike_mono alike' growing₁))
  intro two y y' growing₂ views₂
  exact C.multiply (by grind) (C.alike_mono views₁.1 growing₂) views₂.1 (views₂.2 (by grind))

theorem dense {weights weights' : Matrix} {bias bias' : Vector}
    (function : ActivationFunction) {input input' output output' : Value}
    (known : C.Alike world weights.value weights'.value)
    (offsets : C.Alike world bias.value bias'.value) (alike : C.Alike world input input')
    (alike' : C.Alike world output output') (writable : C.Writable world output output') :
    C.Relates world (Kernel.dense weights bias function input output)
      (Kernel.dense weights' bias' function input' output') fun _ _ _ => True := by
  unfold Kernel.dense
  rw [C.layout_eq alike']
  apply C.bind (C.row alike)
  intro one x x' growing₁ views₁
  apply C.bind (C.vectorOf (C.alike_mono alike' growing₁))
  intro two y y' growing₂ views₂
  have free := views₂.2 (by grind)
  have sums := views₂.1
  apply C.bind (C.multiply (by grind) (C.alike_mono views₁.1 growing₂) sums free)
  intro three _ _ growing₃ _
  apply C.bind (C.combine .add (by grind) (by grind) (by grind))
  intro four _ _ growing₄ _
  apply C.forEachOf
  intro later coordinates coordinates' growing same
  apply C.bind (C.element (by grind) same)
  intro five sum sum' growing₅ views
  apply C.bind (C.apply function views.1)
  intro six result result' growing₆ alike₆
  exact C.scalar_assign (C.alike_mono views.1 growing₆)
    (C.writable_mono (views.2 (by grind)) growing₆) alike₆

/-! ### Cells with memory -/

theorem applyTrigger (dtype : DType) {hidden hidden' cell cell' last last' : Vector}
    {trigger trigger' : Value} (hiddens : C.Alike world hidden.value hidden'.value)
    (free : C.Writable world hidden.value hidden'.value)
    (cells : C.Alike world cell.value cell'.value)
    (free' : C.Writable world cell.value cell'.value)
    (lasts : C.Alike world last.value last'.value)
    (free'' : C.Writable world last.value last'.value) (alike : C.Alike world trigger trigger') :
    C.Relates world (Kernel.applyTrigger dtype hidden cell last trigger)
      (Kernel.applyTrigger dtype hidden' cell' last' trigger') fun _ _ _ => True := by
  unfold Kernel.applyTrigger
  apply C.bind (C.row alike)
  intro one now now' growing₁ views₁
  apply C.bind (C.index 0)
  intro two zero zero' growing₂ alike₂
  apply C.bind (C.vector_element (C.alike_mono views₁.1 growing₂) alike₂)
  intro three current current' growing₃ views₃
  apply C.bind (C.index 0)
  intro four first first' growing₄ alike₄
  apply C.bind (C.vector_element (by grind) alike₄)
  intro five before before' growing₅ views₅
  have now₅ : C.Alike five current.value current'.value := by
    have := views₃.1
    grind
  apply C.bind (C.like views₅.1 1.0)
  intro six unit unit' growing₆ alike₆
  apply C.bind (C.scalar_compare .eq (C.alike_mono views₅.1 growing₆) alike₆)
  intro seven wasOn wasOn' growing₇ alike₇
  apply C.bind (C.like (by grind) 0.0)
  intro eight off off' growing₈ alike₈
  apply C.bind (C.scalar_compare .eq (by grind) alike₈)
  intro nine nowOff nowOff' growing₉ alike₉
  apply C.bind (C.constant _)
  intro ten zero zero' growing₁₀ alike₁₀
  have reaching : C.Later world ten := by grind
  apply C.bind (C.ifElse (by grind) (fun later growing => ?_) fun _ _ => C.pure trivial)
  · intro last _ _ growing₁₁ _
    exact C.scalar_assign (C.alike_mono views₅.1 (by grind)) (C.writable_mono (views₅.2 (by grind))
      (by grind)) (by grind)
  · apply C.ifElse (by grind) (fun last growing' => ?_) fun _ _ => C.pure trivial
    have onward : C.Later world last := by grind
    apply C.bind (C.fill (C.alike_mono hiddens onward) (C.writable_mono free onward) (by grind))
    intro end' _ _ growing₁₁ _
    exact C.fill (by grind) (by grind) (by grind)

/-- The parameters of a cell in the two runs. -/
structure SameParameters (world : C.World) (left right : Kernel.LstmParameters) : Prop where
  hiddenUnits : right.hiddenUnits = left.hiddenUnits
  inputWeights : C.Alike world left.inputWeights.value right.inputWeights.value
  hiddenWeights : C.Alike world left.hiddenWeights.value right.hiddenWeights.value
  inputBias : C.Alike world left.inputBias.value right.inputBias.value
  hiddenBias : C.Alike world left.hiddenBias.value right.hiddenBias.value
  activation : right.activation = left.activation
  recurrent : right.recurrent = left.recurrent

theorem gate {parameters parameters' : Kernel.LstmParameters}
    (units : parameters'.hiddenUnits = parameters.hiddenUnits) {gates gates' : Vector}
    {unit unit' : Scalar} (alike : C.Alike world gates.value gates'.value)
    (same : C.Alike world unit.value unit'.value) (number : Nat) :
    C.Relates world (Kernel.gate parameters gates unit number)
      (Kernel.gate parameters' gates' unit' number)
      fun later answer answer' => C.Alike later answer.value answer'.value := by
  unfold Kernel.gate
  rw [units]
  apply C.bind (C.index _)
  intro one offset offset' growing₁ alike₁
  apply C.bind (C.scalar_binary .add (by grind) alike₁)
  intro two place place' growing₂ alike₂
  exact C.weaken (C.vector_element (by grind) alike₂) fun _ _ _ _ views => views.1

theorem stepUnit {parameters parameters' : Kernel.LstmParameters}
    {gates gates' hidden hidden' cell cell' : Vector}
    {hiddenOutput hiddenOutput' cellOutput cellOutput' : Vector} {unit unit' : Scalar}
    (units : parameters'.hiddenUnits = parameters.hiddenUnits)
    (activation : parameters'.activation = parameters.activation)
    (recurrent : parameters'.recurrent = parameters.recurrent)
    (alike : C.Alike world gates.value gates'.value)
    (hiddens : C.Alike world hidden.value hidden'.value)
    (free : C.Writable world hidden.value hidden'.value)
    (cells : C.Alike world cell.value cell'.value)
    (free' : C.Writable world cell.value cell'.value)
    (outputs : C.Alike world hiddenOutput.value hiddenOutput'.value)
    (writable : C.Writable world hiddenOutput.value hiddenOutput'.value)
    (outputs' : C.Alike world cellOutput.value cellOutput'.value)
    (writable' : C.Writable world cellOutput.value cellOutput'.value)
    (same : C.Alike world unit.value unit'.value) :
    C.Relates world (Kernel.stepUnit parameters gates hidden cell hiddenOutput cellOutput unit)
      (Kernel.stepUnit parameters' gates' hidden' cell' hiddenOutput' cellOutput' unit')
      fun _ _ _ => True := by
  unfold Kernel.stepUnit
  rw [activation, recurrent]
  apply C.bind (C.gate units alike same 0)
  intro one inputPart inputPart' growing₁ inputs
  apply C.bind (C.gate units (by grind) (by grind) 1)
  intro two forgetPart forgetPart' growing₂ forgets
  apply C.bind (C.gate units (by grind) (by grind) 2)
  intro three candidatePart candidatePart' growing₃ candidates
  apply C.bind (C.gate units (by grind) (by grind) 3)
  intro four outputPart outputPart' growing₄ outs
  have reached : C.Later world four := by grind
  have inputs : C.Alike four inputPart.value inputPart'.value := by grind
  have forgets : C.Alike four forgetPart.value forgetPart'.value := by grind
  have candidates : C.Alike four candidatePart.value candidatePart'.value := by grind
  clear growing₁ growing₂ growing₃ growing₄
  apply C.bind (C.apply parameters.recurrent inputs)
  intro five i i' growing₅ alike₅
  apply C.bind (C.apply parameters.recurrent (by grind))
  intro six f f' growing₆ alike₆
  apply C.bind (C.apply parameters.activation (by grind))
  intro seven g g' growing₇ alike₇
  apply C.bind (C.apply parameters.recurrent (by grind))
  intro eight o o' growing₈ alike₈
  have i₈ : C.Alike eight i.value i'.value := by grind
  have f₈ : C.Alike eight f.value f'.value := by grind
  have g₈ : C.Alike eight g.value g'.value := by grind
  have reached : C.Later world eight := by grind
  clear growing₅ growing₆ growing₇ growing₈ inputs forgets candidates outs
  apply C.bind (C.vector_element (C.alike_mono cells reached) (by grind))
  intro nine previous previous' growing₉ views₉
  apply C.bind (C.scalar_binary .mul (by grind) views₉.1)
  intro ten kept kept' growing₁₀ alike₁₀
  apply C.bind (C.scalar_binary .mul (by grind) (by grind))
  intro eleven added added' growing₁₁ alike₁₁
  apply C.bind (C.scalar_binary .add (by grind) alike₁₁)
  intro twelve c c' growing₁₂ alike₁₂
  apply C.bind (C.apply parameters.activation alike₁₂)
  intro thirteen activated activated' growing₁₃ alike₁₃
  apply C.bind (C.scalar_binary .mul (by grind) alike₁₃)
  intro fourteen h h' growing₁₄ alike₁₄
  have later : C.Later nine fourteen := by grind
  have c₁₄ : C.Alike fourteen c.value c'.value := by grind
  have reached : C.Later world fourteen := by grind
  apply C.bind (C.scalar_assign (C.alike_mono views₉.1 later)
    (C.writable_mono (views₉.2 (C.writable_mono free' (by grind))) later) c₁₄)
  intro fifteen _ _ growing₁₅ _
  clear growing₉ growing₁₀ growing₁₁ growing₁₂ growing₁₃ growing₁₄ later alike₁₂ i₈ f₈ g₈ alike₁₀
    alike₁₁ alike₁₃
  apply C.bind (C.vector_element (C.alike_mono hiddens (by grind)) (by grind))
  intro sixteen place place' growing₁₆ views₁₆
  apply C.bind (C.scalar_assign views₁₆.1 (views₁₆.2 (C.writable_mono free (by grind))) (by grind))
  intro seventeen _ _ growing₁₇ _
  apply C.bind (C.vector_element (C.alike_mono outputs' (by grind)) (by grind))
  intro eighteen place place' growing₁₈ views₁₈
  apply C.bind (C.scalar_assign views₁₈.1 (views₁₈.2 (C.writable_mono writable' (by grind)))
    (by grind))
  intro nineteen _ _ growing₁₉ _
  apply C.bind (C.vector_element (C.alike_mono outputs (by grind)) (by grind))
  intro twenty place place' growing₂₀ views₂₀
  exact C.scalar_assign views₂₀.1 (views₂₀.2 (C.writable_mono writable (by grind))) (by grind)

/-- The memory of a cell in the two runs. -/
structure SameMemory (world : C.World) (left right : Kernel.LstmState) : Prop where
  hidden : C.Kept world left.hidden right.hidden
  cell : C.Kept world left.cell right.cell
  trigger : C.Kept world left.trigger right.trigger

theorem heldVector (name : String) {left right : Value} (alike : C.Kept world left right) :
    C.Relates world (Kernel.heldVector name left) (Kernel.heldVector name right)
      fun later answer answer' => C.Alike later answer.value answer'.value ∧
        C.Writable later answer.value answer'.value := by
  apply C.bind (C.state name alike)
  rintro one memory memory' - ⟨known, writable⟩
  exact C.weaken (C.vectorOf known) fun _ _ _ growing views => ⟨views.1, views.2 writable⟩

theorem freshVector (dtype : DType) (size : Nat) :
    C.Relates world (Kernel.freshVector dtype size : m Vector)
      (Kernel.freshVector dtype size : n Vector)
      fun later answer answer' => C.Alike later answer.value answer'.value ∧
        C.Writable later answer.value answer'.value := by
  apply C.bind (C.allocate dtype _)
  rintro one memory memory' - ⟨known, writable⟩
  exact C.weaken (C.vectorOf known) fun _ _ _ growing views => ⟨views.1, views.2 writable⟩

theorem followTrigger (dtype : DType) {memory memory' : Kernel.LstmState}
    {hidden hidden' cell cell' : Vector} {trigger? trigger?' : Option Value}
    (same : C.SameMemory world memory memory')
    (hiddens : C.Alike world hidden.value hidden'.value)
    (free : C.Writable world hidden.value hidden'.value)
    (cells : C.Alike world cell.value cell'.value)
    (free' : C.Writable world cell.value cell'.value)
    (triggers : Option.Rel (C.Alike world) trigger? trigger?') :
    C.Relates world (Kernel.followTrigger dtype memory hidden cell trigger?)
      (Kernel.followTrigger dtype memory' hidden' cell' trigger?') fun _ _ _ => True := by
  cases triggers with
  | none => exact C.pure trivial
  | some alike =>
      apply C.bind (C.heldVector _ same.trigger)
      rintro later last last' growing ⟨lasts, free''⟩
      exact C.applyTrigger dtype (by grind) (by grind) (by grind) (by grind) lasts free'' (by grind)

theorem gateSums {parameters parameters' : Kernel.LstmParameters} {x x' hidden hidden' : Vector}
    (same : C.SameParameters world parameters parameters')
    (alike : C.Alike world x.value x'.value)
    (hiddens : C.Alike world hidden.value hidden'.value) :
    C.Relates world (Kernel.gateSums parameters x hidden)
      (Kernel.gateSums parameters' x' hidden')
      fun later answer answer' => C.Alike later answer.value answer'.value := by
  unfold Kernel.gateSums
  rw [same.hiddenUnits, C.matrix_dtype same.inputWeights]
  have inputs := same.inputWeights
  have hiddens' := same.hiddenWeights
  have biases := same.inputBias
  have biases' := same.hiddenBias
  apply C.bind (C.freshVector _ _)
  rintro one gates gates' growing₁ ⟨sums, free⟩
  apply C.bind (C.freshVector _ _)
  rintro two recurrent recurrent' growing₂ ⟨sums', free'⟩
  apply C.bind (C.multiply (by grind) (by grind) (by grind) (by grind))
  intro three _ _ growing₃ _
  apply C.bind (C.multiply (by grind) (by grind) (by grind) (by grind))
  intro four _ _ growing₄ _
  apply C.bind (C.combine .add (by grind) (by grind) (by grind))
  intro five _ _ growing₅ _
  apply C.bind (C.combine .add (by grind) (by grind) (by grind))
  intro six _ _ growing₆ _
  apply C.bind (C.combine .add (by grind) (by grind) (by grind))
  intro seven _ _ growing₇ _
  exact C.pure (by grind)

theorem SameParameters.mono {C : Correspondence m n} {world later : C.World}
    {parameters parameters' : Kernel.LstmParameters}
    (same : C.SameParameters world parameters parameters') (growing : C.Later world later) :
    C.SameParameters later parameters parameters' :=
  ⟨same.hiddenUnits, C.alike_mono same.inputWeights growing,
    C.alike_mono same.hiddenWeights growing, C.alike_mono same.inputBias growing,
    C.alike_mono same.hiddenBias growing, same.activation, same.recurrent⟩

theorem SameMemory.mono {C : Correspondence m n} {world later : C.World}
    {memory memory' : Kernel.LstmState} (same : C.SameMemory world memory memory')
    (growing : C.Later world later) : C.SameMemory later memory memory' :=
  ⟨C.kept_mono same.hidden growing, C.kept_mono same.cell growing,
    C.kept_mono same.trigger growing⟩

theorem lstmStep {parameters parameters' : Kernel.LstmParameters}
    {memory memory' : Kernel.LstmState} {trigger? trigger?' : Option Value}
    {input input' hiddenOutput hiddenOutput' cellOutput cellOutput' : Value}
    (same : C.SameParameters world parameters parameters')
    (kept : C.SameMemory world memory memory')
    (triggers : Option.Rel (C.Alike world) trigger? trigger?')
    (alike : C.Alike world input input')
    (outputs : C.Alike world hiddenOutput hiddenOutput')
    (writable : C.Writable world hiddenOutput hiddenOutput')
    (outputs' : C.Alike world cellOutput cellOutput')
    (writable' : C.Writable world cellOutput cellOutput') :
    C.Relates world (Kernel.lstmStep parameters memory trigger? input hiddenOutput cellOutput)
      (Kernel.lstmStep parameters' memory' trigger?' input' hiddenOutput' cellOutput')
      fun _ _ _ => True := by
  unfold Kernel.lstmStep
  rw [same.hiddenUnits, C.matrix_dtype same.inputWeights]
  apply C.bind (C.heldVector _ kept.hidden)
  rintro one hidden hidden' growing₁ ⟨hiddens, free⟩
  apply C.bind (C.heldVector _ (C.kept_mono kept.cell growing₁))
  rintro two cell cell' growing₂ ⟨cells, free'⟩
  have reached := C.later_trans growing₁ growing₂
  have triggers₂ : Option.Rel (C.Alike two) trigger? trigger?' := by
    cases triggers with
    | none => exact .none
    | some known => exact .some (C.alike_mono known reached)
  apply C.bind (C.followTrigger _ (kept.mono reached) (by grind) (by grind) cells free' triggers₂)
  intro three _ _ growing₃ _
  apply C.bind (C.row (by grind))
  intro four x x' growing₄ views₄
  have reached' : C.Later world four := by grind
  apply C.bind (C.gateSums (same.mono reached') views₄.1 (by grind))
  intro five gates gates' growing₅ alike₅
  apply C.bind (C.vectorOf (C.alike_mono outputs (by grind)))
  intro six first first' growing₆ views₆
  apply C.bind (C.vectorOf (C.alike_mono outputs' (by grind)))
  intro seven second second' growing₇ views₇
  have reached'' : C.Later world six := by grind
  have first₇ := C.alike_mono views₆.1 growing₇
  have free₇ := C.writable_mono (views₆.2 (C.writable_mono writable (by grind))) growing₇
  have second₇ := views₇.1
  have free₇' := views₇.2 (C.writable_mono writable' reached'')
  apply C.forRange (.inl rfl)
  intro later unit unit' growing units
  exact C.stepUnit same.hiddenUnits same.activation same.recurrent (by grind) (by grind) (by grind)
    (by grind) (by grind) (by grind) (by grind) (by grind) (by grind) units

end TensorGraph.Correspondence

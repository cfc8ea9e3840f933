/-
Running a model under a correspondence.

Two runs of a node go alike when the nodes do the same on inputs of the same
types and shapes, and two runs of a model go alike when they start from alike
feeds and alike memory.  The nodes may stand under different names.
-/

import TensorGraph.Graph.Evaluate
import TensorGraph.Proofs.Kernel.Layers

namespace TensorGraph

/-- An input node keeps no numbers, whatever it reads. -/
theorem Node.parameters_input {dtype : DType} {sizes : List Nat} {inputs : List InputPort}
    {outputs : List OutputPort} {state : List Storage} :
    Node.parameters ⟨.input dtype sizes, inputs, outputs, state⟩ = [] := by
  cases inputs <;> rfl

theorem onHost_parameters_nil {m : Type → Type} [Kernel m] [LawfulKernel m] :
    (Kernel.onHost (placeParameters []) : m (List Value)) = pure [] :=
  LawfulKernel.onHost_pure []

theorem onHost_parameters_cons {m : Type → Type} [Kernel m] [LawfulKernel m]
    (parameter : Parameter) (rest : List Parameter) :
    (Kernel.onHost (placeParameters (parameter :: rest)) : m (List Value)) = (do
      let value ← Kernel.onHost parameter.place
      let values ← Kernel.onHost (placeParameters rest)
      return value :: values) := by
  rw [placeParameters, LawfulKernel.onHost_bind]
  refine bind_congr fun value => ?_
  rw [LawfulKernel.onHost_bind]
  exact bind_congr fun values => LawfulKernel.onHost_pure (value :: values)

namespace Correspondence

variable {m n : Type → Type} [Kernel m] [Kernel n] [LawfulKernel m] [LawfulKernel n]
  (C : Correspondence m n) {world later : C.World}

/-! ### Parameters -/

theorem placeParameters (parameters : List Parameter) :
    C.Relates world (Kernel.onHost (TensorGraph.placeParameters parameters) : m (List Value))
      (Kernel.onHost (TensorGraph.placeParameters parameters) : n (List Value))
      fun later => List.Forall₂ (C.Alike later) := by
  induction parameters generalizing world with
  | nil =>
      rw [onHost_parameters_nil, onHost_parameters_nil]
      exact C.pure .nil
  | cons parameter rest ih =>
      rw [onHost_parameters_cons, onHost_parameters_cons]
      apply C.bind (C.storage _ _)
      intro one value value' growing₁ alike
      apply C.bind ih
      intro two values values' growing₂ others
      exact C.pure (.cons (C.alike_mono alike growing₂) others)

theorem matrixOf {left right : Value} (alike : C.Alike world left right) :
    C.Relates world (TensorGraph.matrixOf left : m Matrix) (TensorGraph.matrixOf right : n Matrix)
      fun later answer answer' => C.Alike later answer.value answer'.value := by
  apply C.weaken (C.matrix alike)
  rintro one matrix matrix' growing ⟨rfl, rfl⟩
  exact C.alike_mono alike growing

theorem rowOf {left right : Value} (alike : C.Alike world left right) :
    C.Relates world (TensorGraph.vectorOf left : m Vector) (TensorGraph.vectorOf right : n Vector)
      fun later answer answer' => C.Alike later answer.value answer'.value :=
  C.weaken (C.vectorOf alike) fun _ _ _ _ views => views.1

/-! ### Nodes -/

theorem rel_getElem? {ι κ : Type} {related : ι → κ → Prop} {values : List ι} {values' : List κ}
    (alike : List.Forall₂ related values values') (position : Nat) :
    Option.Rel related values[position]? values'[position]? := by
  induction alike generalizing position with
  | nil => exact .none
  | cons head _ ih =>
      cases position with
      | zero => exact .some head
      | succ position => simpa using ih position

theorem given (kind : Kind) {related : Value → Value → Prop} {values values' : List Value}
    (alike : List.Forall₂ related values values') (position : Nat) :
    C.Relates world (TensorGraph.given kind values position : m Value)
      (TensorGraph.given kind values' position : n Value)
      fun _ answer answer' => related answer answer' := by
  unfold TensorGraph.given
  have same := rel_getElem? alike position
  generalize values[position]? = value? at *
  generalize values'[position]? = value?' at *
  cases same with
  | none => exact C.fail _
  | some known => exact C.pure known

/-- Inputs of the same types and shapes, whatever they read from. -/
def SameInputs (left right : List InputPort) : Prop :=
  List.Forall₂ (fun input input' : InputPort =>
    input'.dtype = input.dtype ∧ input'.sizes = input.sizes) left right

/-- Outputs that the runs may write. -/
def Outputs (world : C.World) : List Value → List Value → Prop :=
  List.Forall₂ fun output output' => C.Alike world output output' ∧ C.Writable world output output'

theorem runConvolution (parameters : ConvolutionWeights) (sizes : List Nat)
    {weights weights' input input' output output' : Value}
    (known : C.Alike world weights weights') (alike : C.Alike world input input')
    (alike' : C.Alike world output output') (writable : C.Writable world output output') :
    C.Relates world (TensorGraph.runConvolution parameters sizes weights input output)
      (TensorGraph.runConvolution parameters sizes weights' input' output') fun _ _ _ => True := by
  unfold TensorGraph.runConvolution
  split
  · exact C.convolve _ known alike alike' writable
  · exact C.fail _

theorem runLstm (weights : LstmWeights) {parameters parameters' state state' : List Value}
    {trigger? trigger?' : Option Value} {input input' hidden hidden' cell cell' : Value}
    (known : List.Forall₂ (C.Alike world) parameters parameters')
    (kept : List.Forall₂ (C.Kept world) state state')
    (triggers : Option.Rel (C.Alike world) trigger? trigger?') (alike : C.Alike world input input')
    (outputs : C.Alike world hidden hidden') (writable : C.Writable world hidden hidden')
    (outputs' : C.Alike world cell cell') (writable' : C.Writable world cell cell') :
    C.Relates world (TensorGraph.runLstm weights parameters state trigger? input hidden cell)
      (TensorGraph.runLstm weights parameters' state' trigger?' input' hidden' cell')
      fun _ _ _ => True := by
  unfold TensorGraph.runLstm
  apply C.bind (C.given .lstm known 0)
  intro one value value' growing₁ known₁
  apply C.bind (C.matrixOf (C.alike_mono known₁ growing₁))
  intro two inputWeights inputWeights' growing₂ alike₂
  apply C.bind (C.given .lstm known 1)
  intro three value value' growing₃ known₃
  apply C.bind (C.matrixOf (C.alike_mono known₃ (by grind)))
  intro four hiddenWeights hiddenWeights' growing₄ alike₄
  apply C.bind (C.given .lstm known 2)
  intro five value value' growing₅ known₅
  apply C.bind (C.rowOf (C.alike_mono known₅ (by grind)))
  intro six inputBias inputBias' growing₆ alike₆
  apply C.bind (C.given .lstm known 3)
  intro seven value value' growing₇ known₇
  apply C.bind (C.rowOf (C.alike_mono known₇ (by grind)))
  intro eight hiddenBias hiddenBias' growing₈ alike₈
  apply C.bind (C.given .lstm kept 0)
  intro nine memory memory' growing₉ kept₀
  apply C.bind (C.given .lstm kept 1)
  intro ten memory₁ memory₁' growing₁₀ kept₁
  apply C.bind (C.given .lstm kept 2)
  intro last memory₂ memory₂' growing₁₁ kept₂
  have reached : C.Later world last := by grind
  have triggers' : Option.Rel (C.Alike last) trigger? trigger?' := by
    cases triggers with
    | none => exact .none
    | some known => exact .some (C.alike_mono known reached)
  apply C.lstmStep _ _ triggers' (C.alike_mono alike reached) (C.alike_mono outputs reached)
    (C.writable_mono writable reached) (C.alike_mono outputs' reached)
    (C.writable_mono writable' reached)
  · exact ⟨rfl, by grind, by grind, by grind, by grind, rfl, rfl⟩
  · exact ⟨C.kept_mono kept₀ reached, C.kept_mono kept₁ reached, C.kept_mono kept₂ reached⟩

/-- Two nodes that do the same on inputs of the same types and shapes. -/
structure SameNode (id id' : NodeId) (node node' : Node) (inputs : List Value) : Prop where
  operation : node'.operation = node.operation
  ports : SameInputs node.inputs node'.inputs
  /-- Only the complaint of a node that was not fed names the node. -/
  named : node.kind = .input → inputs = [] → id' = id

/-- An operation on inputs, as `Node.runOn` carries it out. -/
private theorem runInner {id id' : NodeId} (operation : Operation) {source source' : InputPort}
    {ports ports' : List InputPort} {rows rows' : List OutputPort}
    {memory memory' : List Storage} {parameters parameters' state state' inputs inputs' : List Value}
    {outputs outputs' : List Value}
    (plain : operation.kind ≠ .input ∧ operation.kind ≠ .constant)
    (sizes : source'.sizes = source.sizes)
    (known : List.Forall₂ (C.Alike world) parameters parameters')
    (kept : List.Forall₂ (C.Kept world) state state')
    (alike : List.Forall₂ (C.Alike world) inputs inputs')
    (free : C.Outputs world outputs outputs') :
    C.Relates world
      (Node.runOn id ⟨operation, source :: ports, rows, memory⟩ parameters state inputs outputs)
      (Node.runOn id' ⟨operation, source' :: ports', rows', memory'⟩ parameters' state' inputs'
        outputs')
      fun _ _ _ => True := by
  unfold Node.runOn
  apply C.bind (C.given _ free 0)
  rintro one output output' growing₁ ⟨outputs₁, writable₁⟩
  have alike₁ : C.Alike one output output' := C.alike_mono outputs₁ growing₁
  have free₁ : C.Writable one output output' := C.writable_mono writable₁ growing₁
  cases operation with
  | input => exact (plain.1 rfl).elim
  | constant => exact (plain.2 rfl).elim
  | activation function =>
      apply C.bind (C.given _ alike 0)
      intro two input input' growing₂ inputs₂
      exact C.activate function (by grind) (by grind) (by grind)
  | binary op =>
      apply C.bind (C.given _ alike 0)
      intro two input input' growing₂ inputs₂
      apply C.bind (C.assign (by grind) (by grind) (by grind))
      intro three _ _ growing₃ _
      apply C.bind (C.given _ alike 1)
      intro four other other' growing₄ others
      exact C.elementwise op (by grind) (by grind) (by grind)
  | bias values =>
      apply C.bind (C.given _ alike 0)
      intro two input input' growing₂ inputs₂
      apply C.bind (C.given _ known 0)
      intro three offsets offsets' growing₃ known₃
      exact C.perChannel .add (by grind) (by grind) (by grind) (by grind)
  | scaling values =>
      apply C.bind (C.given _ alike 0)
      intro two input input' growing₂ inputs₂
      apply C.bind (C.given _ known 0)
      intro three factors factors' growing₃ known₃
      exact C.perChannel .mul (by grind) (by grind) (by grind) (by grind)
  | batchNormalization statistics =>
      apply C.bind (C.given _ alike 0)
      intro two input input' growing₂ inputs₂
      apply C.bind (C.given _ known 0)
      intro three mean mean' growing₃ known₃
      apply C.bind (C.given _ known 1)
      intro four scale scale' growing₄ known₄
      exact C.normalize (by grind) (by grind) (by grind) (by grind) (by grind)
  | fullyConnected units weights =>
      apply C.bind (C.given _ alike 0)
      intro two input input' growing₂ inputs₂
      apply C.bind (C.given _ known 0)
      intro three value value' growing₃ known₃
      apply C.bind (C.matrixOf (by grind))
      intro four matrix matrix' growing₄ known₄
      exact C.multiplied known₄ (by grind) (by grind) (by grind)
  | convolution shape =>
      apply C.bind (C.given _ alike 0)
      intro two input input' growing₂ inputs₂
      apply C.bind (C.given _ known 0)
      intro three weights weights' growing₃ known₃
      rw [sizes]
      exact C.runConvolution shape _ (by grind) (by grind) (by grind) (by grind)
  | pooling kind window stride =>
      apply C.bind (C.given _ alike 0)
      intro two input input' growing₂ inputs₂
      exact C.pool kind window stride (by grind) (by grind) (by grind)
  | softmax =>
      apply C.bind (C.given _ alike 0)
      intro two input input' growing₂ inputs₂
      apply C.bind (C.row (by grind))
      intro three x x' growing₃ views₃
      apply C.bind (C.row (C.alike_mono alike₁ (by grind)))
      intro four y y' growing₄ views₄
      exact C.softmax (C.alike_mono views₃.1 growing₄) views₄.1 (views₄.2 (by grind))
  | regionDetection anchors classes =>
      apply C.bind (C.given _ alike 0)
      intro two input input' growing₂ inputs₂
      exact C.decodeRegions anchors classes (by grind) (by grind) (by grind)
  | denseLayer layer =>
      apply C.bind (C.given _ alike 0)
      intro two input input' growing₂ inputs₂
      apply C.bind (C.given _ known 0)
      intro three value value' growing₃ known₃
      apply C.bind (C.matrixOf (by grind))
      intro four matrix matrix' growing₄ known₄
      apply C.bind (C.given _ known 1)
      intro five value value' growing₅ known₅
      apply C.bind (C.rowOf (by grind))
      intro six bias bias' growing₆ known₆
      exact C.dense layer.function (by grind) known₆ (by grind) (by grind) (by grind)
  | delay window =>
      apply C.bind (C.given _ alike 0)
      intro two input input' growing₂ inputs₂
      apply C.bind (C.given _ kept 0)
      intro three memory memory' growing₃ kept₃
      apply C.bind (C.state _ (C.kept_mono kept₃ (by grind)))
      rintro four held held' growing₄ ⟨alike₄, free₄⟩
      apply C.bind (C.vectorOf alike₄)
      intro five window window' growing₅ views₅
      apply C.bind (C.row (C.alike_mono inputs₂ (by grind)))
      intro six x x' growing₆ views₆
      apply C.bind (C.row (C.alike_mono alike₁ (by grind)))
      intro seven y y' growing₇ views₇
      have reached : C.Later five seven := by grind
      exact C.shift (C.alike_mono views₅.1 reached) (C.writable_mono (views₅.2 free₄) reached)
        (C.alike_mono views₆.1 growing₇) views₇.1 (views₇.2 (C.writable_mono free₁ (by grind)))
  | lstm weights =>
      apply C.bind (C.given _ alike 0)
      intro two input input' growing₂ inputs₂
      apply C.bind (C.given _ free 1)
      rintro three cell cell' growing₃ ⟨cells, writable⟩
      have reached : C.Later world three := by grind
      have triggers : Option.Rel (C.Alike three) inputs[1]? inputs'[1]? := by
        have second := rel_getElem? alike 1
        generalize inputs[1]? = trigger? at *
        generalize inputs'[1]? = trigger?' at *
        cases second with
        | none => exact .none
        | some same => exact .some (C.alike_mono same reached)
      exact C.runLstm weights (known.imp fun _ _ same => C.alike_mono same reached)
        (kept.imp fun _ _ same => C.kept_mono same reached) triggers (C.alike_mono inputs₂ reached)
        (by grind) (by grind) (by grind) (by grind)

/-- Two runs of a node on alike values. -/
theorem runOn {id id' : NodeId} {node node' : Node} {inputs inputs' : List Value}
    {parameters parameters' state state' outputs outputs' : List Value}
    (same : SameNode id id' node node' inputs)
    (known : List.Forall₂ (C.Alike world) parameters parameters')
    (kept : List.Forall₂ (C.Kept world) state state')
    (alike : List.Forall₂ (C.Alike world) inputs inputs')
    (free : C.Outputs world outputs outputs') :
    C.Relates world (node.runOn id parameters state inputs outputs)
      (node'.runOn id' parameters' state' inputs' outputs') fun _ _ _ => True := by
  obtain ⟨operation, ports, rows, memory⟩ := node
  obtain ⟨operation', ports', rows', memory'⟩ := node'
  obtain ⟨sameOperation, samePorts, named⟩ := same
  dsimp only at sameOperation samePorts named
  subst sameOperation
  by_cases fed : operation'.kind = .input
  · cases operation' with
    | input dtype sizes =>
        apply C.bind (C.given _ free 0)
        rintro one output output' growing₁ ⟨outputs₁, writable₁⟩
        cases alike with
        | nil =>
            rw [named rfl rfl]
            exact C.fail _
        | cons head _ => exact C.assign (by grind) (by grind) (by grind)
    | _ => cases fed
  by_cases held : operation'.kind = .constant
  · cases operation' with
    | constant values sizes =>
        apply C.bind (C.given _ free 0)
        rintro one output output' growing₁ ⟨outputs₁, writable₁⟩
        apply C.bind (C.given _ known 0)
        intro two payload payload' growing₂ known₂
        exact C.assign (by grind) (by grind) (by grind)
    | _ => cases held
  cases samePorts with
  | nil =>
      apply C.bind (C.given _ free 0)
      intro one output output' growing₁ _
      cases operation' with
      | input => exact (fed rfl).elim
      | constant => exact (held rfl).elim
      | _ => exact C.fail _
  | cons head _ => exact C.runInner operation' ⟨fed, held⟩ head.2 known kept alike free

/-- Nodes that do the same have the same parameters. -/
theorem SameNode.parameters {id id' : NodeId} {node node' : Node} {inputs : List Value}
    (same : SameNode id id' node node' inputs) : node'.parameters = node.parameters := by
  obtain ⟨operation, ports, rows, memory⟩ := node
  obtain ⟨operation', ports', rows', memory'⟩ := node'
  obtain ⟨sameOperation, samePorts, -⟩ := same
  dsimp only at sameOperation samePorts
  subst sameOperation
  cases samePorts with
  | nil => rfl
  | cons head _ =>
      obtain ⟨dtype, sizes⟩ := head
      cases operation' <;>
        simp only [Node.parameters, Operation.parametersOn, InputPort.channels, InputPort.size,
          dtype, sizes]

/-- Two nodes that put their parameters into memory themselves. -/
theorem run {id id' : NodeId} {node node' : Node} {state state' inputs inputs' : List Value}
    {outputs outputs' : List Value} (same : SameNode id id' node node' inputs)
    (kept : List.Forall₂ (C.Kept world) state state')
    (alike : List.Forall₂ (C.Alike world) inputs inputs')
    (free : C.Outputs world outputs outputs') :
    C.Relates world (node.run id state inputs outputs) (node'.run id' state' inputs' outputs')
      fun _ _ _ => True := by
  unfold Node.run
  rw [same.parameters]
  apply C.bind (C.placeParameters _)
  intro one parameters parameters' growing known
  exact C.runOn same known (kept.imp fun _ _ same => C.kept_mono same growing)
    (alike.imp fun _ _ same => C.alike_mono same growing)
    (free.imp fun _ _ same => ⟨C.alike_mono same.1 growing, C.writable_mono same.2 growing⟩)

/-! ### Models -/

theorem allocateOutputs {rows rows' : List OutputPort}
    (same : List.Forall₂ (fun row row' : OutputPort => row'.dtype = row.dtype ∧
      row'.sizes = row.sizes) rows rows') :
    C.Relates world (TensorGraph.allocateOutputs rows : m (List Value))
      (TensorGraph.allocateOutputs rows' : n (List Value)) C.Outputs := by
  induction same generalizing world with
  | nil => exact C.pure .nil
  | cons head _ ih =>
      unfold TensorGraph.allocateOutputs
      rw [head.1, head.2]
      apply C.bind (C.allocate _ _)
      rintro one output output' growing₁ ⟨alike, writable⟩
      apply C.bind ih
      intro two outputs outputs' growing₂ free
      exact C.pure (.cons ⟨C.alike_mono alike growing₂, C.writable_mono writable growing₂⟩ free)

/-- Values under the same names. -/
def SameValues {ι : Type} (world : C.World) : List (ι × Value) → List (ι × Value) → Prop :=
  List.Forall₂ fun entry entry' => entry'.1 = entry.1 ∧ C.Alike world entry.2 entry'.2

theorem SameValues.mono {C : Correspondence m n} {world later : C.World} {ι : Type}
    {values values' : List (ι × Value)} (same : C.SameValues world values values')
    (growing : C.Later world later) : C.SameValues later values values' :=
  List.Forall₂.imp (fun _ _ known => ⟨known.1, C.alike_mono known.2 growing⟩) same

theorem SameValues.lookup {C : Correspondence m n} {world : C.World} {ι : Type} [BEq ι]
    {values values' : List (ι × Value)} (same : C.SameValues world values values') (key : ι) :
    Option.Rel (C.Alike world) (values.lookup key) (values'.lookup key) := by
  unfold SameValues at same
  induction same with
  | nil => exact .none
  | @cons entry entry' _ _ head _ ih =>
      obtain ⟨name, value⟩ := entry
      obtain ⟨name', value'⟩ := entry'
      obtain ⟨rfl, alike⟩ := head
      dsimp only
      rw [List.lookup_cons, List.lookup_cons]
      cases found : key == name' with
      | true => exact .some alike
      | false => exact ih

/-- What a node reads in the two runs. -/
theorem SameValues.readFrom {C : Correspondence m n} {world : C.World} {node : Node}
    {values values' : PortValues} {feeds feeds' : FeedValues}
    (same : C.SameValues world values values') (fed : C.SameValues world feeds feeds')
    (id : NodeId) :
    (∃ inputs inputs', node.readFrom id values feeds = .ok inputs ∧
      node.readFrom id values' feeds' = .ok inputs' ∧
        List.Forall₂ (C.Alike world) inputs inputs') ∨
      ∃ cause, node.readFrom id values feeds = .error cause ∧
        node.readFrom id values' feeds' = .error cause := by
  unfold Node.readFrom
  split
  · have known := fed.lookup id
    generalize feeds.lookup id = feed? at *
    generalize feeds'.lookup id = feed?' at *
    cases known with
    | none => exact .inl ⟨_, _, rfl, rfl, .nil⟩
    | some alike => exact .inl ⟨_, _, rfl, rfl, .cons alike .nil⟩
  · induction node.inputs with
    | nil => exact .inl ⟨_, _, rfl, rfl, .nil⟩
    | cons input rest ih =>
        simp only [List.mapM_cons]
        have known := same.lookup input.source
        generalize values.lookup input.source = value? at *
        generalize values'.lookup input.source = value?' at *
        cases known with
        | none => exact .inr ⟨_, rfl, rfl⟩
        | some alike =>
            rcases ih with ⟨answer, answer', done, done', all⟩ | ⟨cause, failed, failed'⟩
            · rw [done, done']
              exact .inl ⟨_, _, rfl, rfl, .cons alike all⟩
            · rw [failed, failed']
              exact .inr ⟨cause, rfl, rfl⟩

theorem readFrom {id : NodeId} {node : Node} {values values' : PortValues}
    {feeds feeds' : FeedValues} (same : C.SameValues world values values')
    (fed : C.SameValues world feeds feeds') :
    C.Relates world (Kernel.ofExcept (node.readFrom id values feeds))
      (Kernel.ofExcept (node.readFrom id values' feeds'))
      fun later => List.Forall₂ (C.Alike later) :=
  C.ofExcept (same.readFrom fed id)

theorem sameValues_zip {ι : Type} (names : List ι) {values values' : List Value}
    (alike : List.Forall₂ (C.Alike world) values values') :
    C.SameValues world (names.zip values) (names.zip values') := by
  induction names generalizing values values' with
  | nil => exact .nil
  | cons name rest ih =>
      cases alike with
      | nil => exact .nil
      | cons head tail => exact .cons ⟨rfl, head⟩ (ih tail)

/-- The outputs of a node are put before the values that were there. -/
theorem SameValues.written {C : Correspondence m n} {world : C.World} {values values' : PortValues}
    {outputs outputs' : List Value} (found : C.SameValues world values values')
    (alike : List.Forall₂ (C.Alike world) outputs outputs') (ports : List Port) :
    C.SameValues world ((ports.zip outputs).reverse ++ values)
      ((ports.zip outputs').reverse ++ values') :=
  List.rel_append (List.forall₂_reverse_iff.mpr (C.sameValues_zip ports alike)) found

/-- What two nodes hold in the two runs, for as long as it is so. -/
structure Holdings (C : Correspondence m n) (κ κ' : Type) where
  related : C.World → κ → κ' → Prop
  mono {world later : C.World} {held : κ} {held' : κ'} : related world held held' →
    C.Later world later → related later held held'

/-- The memory of nodes. -/
def memories : C.Holdings (List Value) (List Value) where
  related world := List.Forall₂ (C.Kept world)
  mono same growing := same.imp fun _ _ kept => C.kept_mono kept growing

/-- The nodes of the two runs, each with what it holds. -/
def SameNodes {κ κ' : Type} (holdings : C.Holdings κ κ') (world : C.World) :
    List (Node × κ) → List (Node × κ') → Prop :=
  List.Forall₂ fun entry entry' => entry'.1 = entry.1 ∧
    holdings.related world entry.2 entry'.2

theorem runStep {κ κ' : Type} {work : Work m κ} {work' : Work n κ'} {held : κ} {held' : κ'}
    {node : Node} {feeds feeds' : FeedValues} {values values' : PortValues} (id : NodeId)
    (goes : ∀ later inputs inputs' outputs outputs', C.Later world later →
      List.Forall₂ (C.Alike later) inputs inputs' → C.Outputs later outputs outputs' →
      C.Relates later (work id node held inputs outputs) (work' id node held' inputs' outputs')
        fun _ _ _ => True)
    (fed : C.SameValues world feeds feeds') (found : C.SameValues world values values') :
    C.Relates world (TensorGraph.runStep work feeds id node held values)
      (TensorGraph.runStep work' feeds' id node held' values') C.SameValues := by
  apply C.bind (C.readFrom found fed)
  intro one inputs inputs' growing₁ alike
  apply C.bind (C.allocateOutputs (List.forall₂_same.mpr fun _ _ => ⟨rfl, rfl⟩))
  intro two outputs outputs' growing₂ free
  have reached := C.later_trans growing₁ growing₂
  apply C.bind (goes two inputs inputs' outputs outputs' reached
    (alike.imp fun _ _ known => C.alike_mono known growing₂) free)
  intro three _ _ growing₃ _
  exact C.pure ((found.mono (C.later_trans reached growing₃)).written
    (free.imp fun _ _ same => C.alike_mono same.1 growing₃) _)

/-- Nodes that run alike on what they hold run alike one after the other. -/
theorem runEach {κ κ' : Type} (holdings : C.Holdings κ κ') {work : Work m κ} {work' : Work n κ'}
    (each : ∀ world id node held held' inputs inputs' outputs outputs',
      holdings.related world held held' → List.Forall₂ (C.Alike world) inputs inputs' →
      C.Outputs world outputs outputs' →
      C.Relates world (work id node held inputs outputs) (work' id node held' inputs' outputs')
        fun _ _ _ => True)
    {nodes : List (Node × κ)} {nodes' : List (Node × κ')} {feeds feeds' : FeedValues}
    {values values' : PortValues} (id : NodeId) (same : C.SameNodes holdings world nodes nodes')
    (fed : C.SameValues world feeds feeds') (found : C.SameValues world values values') :
    C.Relates world (TensorGraph.runEach work feeds id nodes values)
      (TensorGraph.runEach work' feeds' id nodes' values') C.SameValues := by
  induction nodes generalizing world nodes' id values values' with
  | nil =>
      cases same
      exact C.pure found
  | cons entry rest ih =>
      cases same with
      | @cons _ entry' _ rest' head tail =>
      obtain ⟨node, held⟩ := entry
      obtain ⟨node', held'⟩ := entry'
      obtain ⟨rfl, known⟩ := head
      unfold TensorGraph.runEach
      apply C.bind (C.runStep id (fun later inputs inputs' outputs outputs' growing =>
        each later id node' held held' inputs inputs' outputs outputs'
          (holdings.mono known growing)) fed found)
      intro one values values' growing found
      exact ih (id + 1)
        (List.Forall₂.imp (fun _ _ known => ⟨known.1, holdings.mono known.2 growing⟩) tail)
        (fed.mono growing) found

theorem SameNode.self (id : NodeId) (node : Node) (inputs : List Value) :
    SameNode id id node node inputs :=
  ⟨rfl, List.forall₂_same.mpr fun _ _ => ⟨rfl, rfl⟩, fun _ _ => rfl⟩

theorem model_run (model : Model) {state state' : List (List Value)}
    {feeds feeds' : FeedValues}
    (kept : List.Forall₂ (List.Forall₂ (C.Kept world)) state state')
    (fed : C.SameValues world feeds feeds') :
    C.Relates world (model.run state feeds) (model.run state' feeds') C.SameValues := by
  refine C.runEach C.memories ?_ 0 ?_ fed .nil
  · exact fun world id node _ _ inputs _ _ _ kept alike free =>
      C.run (.self id node inputs) kept alike free
  · unfold SameNodes
    induction model.nodes generalizing state state' with
    | nil => exact .nil
    | cons node rest ih =>
        cases kept with
        | nil => exact .nil
        | cons head tail => exact .cons ⟨rfl, head⟩ (ih tail)

end Correspondence
end TensorGraph

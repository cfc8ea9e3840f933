/-
Fields read back.

A field is found whatever order the fields were given in, and the written form
of every value that a node has is read as that value.  So an operation that was
written down, together with the ports that its node reads, is described as it
was.
-/

import TensorGraph.Archive.Registry
import TensorGraph.Proofs.Archive.Buffer
import TensorGraph.Proofs.Graph.Connect

namespace TensorGraph

/-! ### Finding fields -/

private theorem lookup_entry (name other : String) (held : Json) (rest : List (String × Json)) :
    List.lookup other ((name, held) :: rest) =
      if other = name then some held else rest.lookup other := by
  rw [List.lookup_cons]
  by_cases same : other = name
  · simp [same]
  · rw [if_neg same, beq_false_of_ne same]

theorem Json.lookup_insertSorted (key other : String) (value : Json)
    (entries : List (String × Json)) :
    (insertSorted key value entries).lookup other =
      if other = key then some value else entries.lookup other := by
  induction entries with
  | nil => exact lookup_entry key other value []
  | cons entry rest ih =>
      obtain ⟨name, held⟩ := entry
      unfold insertSorted
      by_cases here : key = name
      · rw [if_pos here, lookup_entry, lookup_entry]
        grind
      · rw [if_neg here]
        split
        · rw [lookup_entry]
        · rw [lookup_entry, lookup_entry, ih]
          grind

namespace Fields

/-- The last of the entries with a key counts. -/
theorem get?_ofEntries (entries : List (String × Json)) (key : String) :
    (ofEntries entries).get? key = entries.reverse.lookup key := by
  have general : ∀ found : List (String × Json),
      (entries.foldl (fun found entry => Json.insertSorted entry.1 entry.2 found) found).lookup
        key = (entries.reverse ++ found).lookup key := by
    induction entries with
    | nil => intro found; rfl
    | cons entry rest ih =>
        intro found
        obtain ⟨name, value⟩ := entry
        rw [List.foldl_cons, ih, List.reverse_cons, List.append_assoc, List.lookup_append,
          List.lookup_append, Json.lookup_insertSorted, List.singleton_append, lookup_entry]
  exact (general []).trans (by rw [List.append_nil])

theorem get?_withInputs (fields : Fields) (ports : List Port) (key : String) :
    (fields.withInputs ports).get? key =
      if key = "inputs" then some (.array (ports.map Port.document)) else fields.get? key :=
  Json.lookup_insertSorted _ _ _ _

theorem read_of_get? {α : Type} {fields : Fields} {key : String} {decode : Json → Option α}
    {value : Json} {decoded : α} (found : fields.get? key = some value)
    (read : decode value = some decoded) : fields.read key decode = .ok decoded := by
  unfold Fields.read
  rw [found]
  dsimp only
  rw [read]

theorem readOr_of_get? {α : Type} {fields : Fields} {key : String} {decode : Json → Option α}
    {default : α} {value : Json} {decoded : α} (found : fields.get? key = some value)
    (read : decode value = some decoded) : fields.readOr key decode default = .ok decoded := by
  unfold Fields.readOr Fields.contains
  rw [found]
  exact read_of_get? found read

end Fields

/-! ### Values read back -/

theorem Port.ofDocument?_document (port : Port) : ofDocument? port.document = some port := by
  simp [document, ofDocument?, Json.record?, List.lookup, Json.nat, Json.natural?]

theorem Fields.inputs_withInputs (fields : Fields) (ports : List Port) :
    (fields.withInputs ports).inputs = .ok ports := by
  have read : Json.list? Port.ofDocument? (.array (ports.map Port.document)) = some ports := by
    unfold Json.list?
    induction ports with
    | nil => rfl
    | cons port rest ih => simp [List.mapM_cons, Port.ofDocument?_document, ih]
  exact readOr_of_get? (by simp [get?_withInputs]) read

theorem Fields.input_withInputs (fields : Fields) (ports : List Port) (position : Nat) :
    (fields.withInputs ports).input position = sourceAt ports position := by
  unfold Fields.input
  rw [inputs_withInputs]
  rfl

theorem Json.number?_ofFloat {value : Float} (finite : value.isFinite = true) :
    number? (ofFloat value) = some value := by
  unfold ofFloat
  rw [if_pos finite]
  rfl

theorem Kind.numbers?_floats {values : List Float} (finite : AllFinite values) :
    numbers? (Json.floats values) = some values := by
  unfold numbers? Json.floats Json.list?
  induction values with
  | nil => rfl
  | cons value rest ih =>
      have rest' := ih fun other member => finite other (List.mem_cons_of_mem _ member)
      have first := Json.number?_ofFloat (finite value List.mem_cons_self)
      simp only [List.map_cons, List.mapM_cons, first, rest']
      rfl

theorem Kind.naturals?_nats (values : List Nat) : naturals? (Json.nats values) = some values := by
  unfold naturals? Json.nats Json.list?
  induction values with
  | nil => rfl
  | cons value rest ih =>
      simp only [List.map_cons, List.mapM_cons, ih]
      simp [Json.nat, Json.natural?]

/-- The parameter of the function is finite. -/
def ActivationFunction.Finite : ActivationFunction → Prop
  | leakyRelu alpha => alpha.isFinite = true
  | _ => True

theorem ActivationFunction.ofDocument?_document {function : ActivationFunction}
    (finite : function.Finite) : ofDocument? function.document = some function := by
  cases function with
  | leakyRelu alpha =>
      simp [document, ofDocument?, List.lookup, Json.text?, ofTag?, Json.number?_ofFloat finite]
  | _ => simp [document, ofDocument?, List.lookup, Json.text?, ofTag?]

theorem DType.ofDocument?_name (dtype : DType) : ofDocument? (.string dtype.name) = some dtype :=
  ofName?_name dtype

theorem BinaryOp.ofDocument?_name (op : BinaryOp) : ofDocument? (.string op.name) = some op :=
  ofName?_name op

theorem PoolingKind.ofDocument?_name (kind : PoolingKind) :
    ofDocument? (.string kind.name) = some kind := by
  cases kind <;> decide

theorem EpsilonSummand.ofDocument?_name (summand : EpsilonSummand) :
    ofDocument? (.string summand.name) = some summand := by
  cases summand <;> decide

/-! ### Operations read back -/

/-- Every parameter has a written form. -/
def Operation.Written : Operation → Prop
  | activation function => function.Finite
  | bias values | scaling values => AllFinite values
  | batchNormalization statistics =>
      AllFinite statistics.mean ∧ AllFinite statistics.variance ∧
        statistics.epsilon.isFinite = true
  | fullyConnected _ weights => AllFinite weights
  | convolution parameters => AllFinite parameters.weights
  | denseLayer parameters =>
      AllFinite parameters.weights ∧ AllFinite parameters.bias ∧ parameters.function.Finite
  | lstm weights =>
      AllFinite weights.inputWeights ∧ AllFinite weights.hiddenWeights ∧
        AllFinite weights.inputBias ∧ AllFinite weights.hiddenBias ∧
          weights.activation.Finite ∧ weights.recurrent.Finite
  | _ => True

section Describe

variable {entries : List (String × Json)} {ports : List Port} {key : String} {value : Json}

/-- A field beside the inputs, as it was written. -/
private theorem read_entry {α : Type} {decode : Json → Option α} {decoded : α}
    (other : key ≠ "inputs") (found : entries.reverse.lookup key = some value)
    (read : decode value = some decoded) :
    ((Fields.ofEntries entries).withInputs ports).read key decode = .ok decoded := by
  apply Fields.read_of_get? _ read
  rw [Fields.get?_withInputs, if_neg other, Fields.get?_ofEntries, found]

private theorem readOr_entry {α : Type} {decode : Json → Option α} {decoded default : α}
    (other : key ≠ "inputs") (found : entries.reverse.lookup key = some value)
    (read : decode value = some decoded) :
    ((Fields.ofEntries entries).withInputs ports).readOr key decode default = .ok decoded := by
  apply Fields.readOr_of_get? _ read
  rw [Fields.get?_withInputs, if_neg other, Fields.get?_ofEntries, found]

private theorem natural?_nat (number : Nat) : Json.natural? (.nat number) = some number := by
  simp [Json.nat, Json.natural?]

private theorem one {ports : List Port} (taken : ports.length ∈ [1]) :
    ∃ port, ports = [port] :=
  List.length_eq_one_iff.mp (List.mem_singleton.mp taken)

/-- An operation that was written down is described as it was, with the ports that its node
reads. -/
theorem Kind.describe_fields {operation : Operation} (written : operation.Written)
    {ports : List Port} (taken : ports.length ∈ operation.arities) :
    operation.kind.describe (operation.fields.withInputs ports) = .ok (operation, ports) := by
  unfold Operation.fields Kind.describe Operation.kind
  cases operation with
  | input dtype sizes =>
      obtain rfl : ports = [] := by simpa [Operation.arities] using taken
      dsimp only
      rw [read_entry (by decide) rfl (DType.ofDocument?_name dtype),
        read_entry (by decide) rfl (Kind.naturals?_nats sizes)]
      rfl
  | constant values sizes =>
      obtain rfl : ports = [] := by simpa [Operation.arities] using taken
      dsimp only
      unfold Kind.describeConstant
      rw [read_entry (by decide) rfl (Kind.naturals?_nats sizes),
        read_entry (by decide) rfl (BufferRecord.ofDocument?_fieldDocument (.ofStorage values))]
      simp only [bind, Except.bind, BufferRecord.toStorage_ofStorage]
      rfl
  | activation function =>
      obtain ⟨port, rfl⟩ := one taken
      dsimp only
      rw [Fields.input_withInputs,
        read_entry (by decide) rfl (ActivationFunction.ofDocument?_document written)]
      rfl
  | binary op =>
      obtain ⟨left, right, rfl⟩ := List.length_eq_two.mp (List.mem_singleton.mp taken)
      dsimp only
      rw [Fields.input_withInputs, Fields.input_withInputs,
        read_entry (by decide) rfl (BinaryOp.ofDocument?_name op)]
      rfl
  | bias values =>
      obtain ⟨port, rfl⟩ := one taken
      dsimp only
      rw [Fields.input_withInputs, read_entry (by decide) rfl (Kind.numbers?_floats written)]
      rfl
  | scaling values =>
      obtain ⟨port, rfl⟩ := one taken
      dsimp only
      rw [Fields.input_withInputs, read_entry (by decide) rfl (Kind.numbers?_floats written)]
      rfl
  | batchNormalization statistics =>
      obtain ⟨port, rfl⟩ := one taken
      obtain ⟨mean, variance, epsilon⟩ := written
      dsimp only
      rw [Fields.input_withInputs, read_entry (by decide) rfl (Kind.numbers?_floats mean),
        read_entry (by decide) rfl (Kind.numbers?_floats variance),
        readOr_entry (by decide) rfl (Json.number?_ofFloat epsilon),
        readOr_entry (by decide) rfl (EpsilonSummand.ofDocument?_name statistics.summand)]
      rfl
  | fullyConnected units weights =>
      obtain ⟨port, rfl⟩ := one taken
      dsimp only
      rw [Fields.input_withInputs, read_entry (by decide) rfl (natural?_nat units),
        read_entry (by decide) rfl (Kind.numbers?_floats written)]
      rfl
  | convolution parameters =>
      obtain ⟨port, rfl⟩ := one taken
      dsimp only
      rw [Fields.input_withInputs, read_entry (by decide) rfl (natural?_nat parameters.filters),
        read_entry (by decide) rfl (natural?_nat parameters.kernel),
        readOr_entry (by decide) rfl (natural?_nat parameters.stride),
        readOr_entry (by decide) rfl (natural?_nat parameters.padding),
        read_entry (by decide) rfl (Kind.numbers?_floats written)]
      rfl
  | pooling kind window stride =>
      obtain ⟨port, rfl⟩ := one taken
      dsimp only
      rw [Fields.input_withInputs, read_entry (by decide) rfl (natural?_nat window),
        read_entry (by decide) rfl (PoolingKind.ofDocument?_name kind)]
      simp only [bind, Except.bind]
      rw [readOr_entry (by decide) rfl (natural?_nat stride)]
      rfl
  | softmax =>
      obtain ⟨port, rfl⟩ := one taken
      dsimp only
      rw [Fields.input_withInputs]
      rfl
  | regionDetection anchors classes =>
      obtain ⟨port, rfl⟩ := one taken
      dsimp only
      rw [Fields.input_withInputs, read_entry (by decide) rfl (natural?_nat anchors),
        read_entry (by decide) rfl (natural?_nat classes)]
      rfl
  | denseLayer parameters =>
      obtain ⟨port, rfl⟩ := one taken
      obtain ⟨weights, bias, function⟩ := written
      dsimp only
      rw [Fields.input_withInputs, read_entry (by decide) rfl (natural?_nat parameters.units),
        read_entry (by decide) rfl (Kind.numbers?_floats weights),
        read_entry (by decide) rfl (Kind.numbers?_floats bias),
        read_entry (by decide) rfl (ActivationFunction.ofDocument?_document function)]
      rfl
  | delay window =>
      obtain ⟨port, rfl⟩ := one taken
      dsimp only
      rw [Fields.input_withInputs, read_entry (by decide) rfl (natural?_nat window)]
      rfl
  | lstm weights =>
      obtain ⟨inputWeights, hiddenWeights, inputBias, hiddenBias, activation, recurrent⟩ := written
      have trigger : ∃ port, ∃ trigger : Option Port,
          ports = port :: trigger.toList ∧ ports[1]? = trigger := by
        rcases ports with _ | ⟨port, _ | ⟨trigger, _ | ⟨other, rest⟩⟩⟩
        · simp [Operation.arities] at taken
        · exact ⟨port, none, rfl, rfl⟩
        · exact ⟨port, some trigger, rfl, rfl⟩
        · simp [Operation.arities] at taken
      obtain ⟨port, trigger, same, second⟩ := trigger
      dsimp only
      unfold Kind.describeLstm
      rw [Fields.input_withInputs, Fields.inputs_withInputs,
        read_entry (by decide) rfl (natural?_nat weights.hiddenUnits),
        read_entry (by decide) rfl (Kind.numbers?_floats inputWeights),
        read_entry (by decide) rfl (Kind.numbers?_floats hiddenWeights),
        readOr_entry (by decide) rfl (ActivationFunction.ofDocument?_document activation),
        readOr_entry (by decide) rfl (ActivationFunction.ofDocument?_document recurrent)]
      simp only [bind, Except.bind]
      rw [readOr_entry (by decide) rfl (Kind.numbers?_floats inputBias)]
      dsimp only
      rw [readOr_entry (by decide) rfl (Kind.numbers?_floats hiddenBias)]
      dsimp only
      rw [second, same]
      rfl

end Describe
end TensorGraph

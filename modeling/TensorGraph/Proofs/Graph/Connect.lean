/-
What connecting an operation gives.

A node is made of its operation and of the types and shapes that it reads, not
of the places that it reads them from.  So every node of a model that was grown
node by node is what its operation makes of the nodes before it, up to what the
node remembers.
-/

import TensorGraph.Graph.Connect
import TensorGraph.Proofs.Action

namespace TensorGraph

/-- The numbers of inputs that nodes of the operation can have. -/
def Operation.arities : Operation → List Nat
  | input _ _ | constant _ _ => [0]
  | binary _ => [2]
  | lstm _ => [1, 2]
  | _ => [1]

/-! ### Parameters -/

/-- All numbers are finite. -/
def AllFinite (values : List Float) : Prop :=
  ∀ value ∈ values, value.isFinite = true

private theorem any_infinite {values : List Float} :
    (values.any fun value => !value.isFinite) = true ↔ ¬ AllFinite values := by
  simp [AllFinite]

theorem checkParameters_iff {what : String} {values : List Float} {expected : Nat} :
    checkParameters what values expected = .ok () ↔
      values.length = expected ∧ AllFinite values := by
  unfold checkParameters
  rw [← not_iff_not, not_and_or, ← any_infinite]
  split
  · rename_i different
    simp [different]
  · rename_i same
    split <;> simp_all

theorem checkParameters_refused {what : String} {values : List Float} {expected : Nat}
    (sized : values.length = expected) (infinite : ¬ AllFinite values) :
    checkParameters what values expected =
      .error (.invalidArgument (what ++ " contains non-finite values")) := by
  unfold checkParameters
  rw [if_neg (not_not.mpr sized), if_pos (any_infinite.mpr infinite)]

/-! ### Made of one input -/

/-- The output that a way to make nodes gives them. -/
def outputOfMade (make : InputPort → Except Error Node) (dtype : DType) (sizes : List Nat) :
    Except Error OutputPort :=
  (make
    { name := "input"
      source := default
      dtype := dtype
      sizes := sizes }).map fun node => node.outputs.headD (outputOf dtype sizes)

/-- Nodes of the operation look at the type and the shape of their input, and at nothing
else. -/
def Local (operation : Operation) (make : InputPort → Except Error Node) : Prop :=
  ∀ source : InputPort, make source =
    (outputOfMade make source.dtype source.sizes).map (Node.stateless operation [source])

/-- A node with one number for each channel of its input. -/
def channelwise (operation : Operation) (values : List Float) (source : InputPort) :
    Except Error Node := do
  checkParameters operation.kind.name values source.channels
  return Node.alike operation source

/-- How an operation on one row of floating point numbers makes its node. -/
def Operation.unary? : Operation → Option (InputPort → Except Error Node)
  | activation function => some fun source => .ok (Node.alike (activation function) source)
  | softmax => some fun source => .ok (Node.alike softmax source)
  | bias values => some (channelwise (bias values) values)
  | scaling values => some (channelwise (scaling values) values)
  | batchNormalization statistics => some (normalizing statistics)
  | fullyConnected units weights => some (multiplying units weights)
  | convolution parameters => some (convolving parameters)
  | pooling kind window stride => some (reducing kind window stride)
  | regionDetection anchors classes => some (detecting anchors classes)
  | denseLayer parameters => some (TensorGraph.dense parameters)
  | _ => none

/-- The first port that an operation was given. -/
def Model.firstInput (model : Model) (sources : List Port) : Except Error InputPort := do
  model.inputFrom "input" (← sourceAt sources 0)

/-- The first port that an operation was given, holding floating point numbers. -/
def Model.firstFloat (model : Model) (kind : Kind) (sources : List Port) :
    Except Error InputPort := do
  let port ← model.firstInput sources
  port.requireFloat kind
  return port

theorem Model.connect_unary (model : Model) {operation : Operation}
    {make : InputPort → Except Error Node} (found : operation.unary? = some make)
    (sources : List Port) :
    model.connect operation sources = model.firstFloat operation.kind sources >>= make := by
  unfold Operation.unary? at found
  cases operation <;> cases found <;> rfl

private theorem alike_local (operation : Operation) :
    Local operation fun source => .ok (Node.alike operation source) :=
  fun _ => rfl

private theorem channelwise_local (operation : Operation) (values : List Float) :
    Local operation (channelwise operation values) := by
  intro source
  unfold outputOfMade channelwise InputPort.channels
  cases checkParameters operation.kind.name values (source.sizes.getLastD 1) <;> rfl

private theorem normalizing_local (statistics : Normalization) :
    Local (.batchNormalization statistics) (normalizing statistics) := by
  intro source
  unfold outputOfMade normalizing InputPort.channels
  cases checkParameters "mean" statistics.mean (source.sizes.getLastD 1) with
  | error cause => rfl
  | ok _ =>
    cases checkParameters "variance" statistics.variance (source.sizes.getLastD 1) with
    | error cause => rfl
    | ok _ =>
      simp only [bind, Except.bind]
      split <;> rfl

private theorem multiplying_local (units : Nat) (weights : List Float) :
    Local (.fullyConnected units weights) (multiplying units weights) := by
  intro source
  unfold outputOfMade multiplying InputPort.size
  cases checkParameters "weights" weights (units * elementCount source.sizes) <;> rfl

private theorem dense_local (parameters : DenseWeights) :
    Local (.denseLayer parameters) (dense parameters) := by
  intro source
  unfold outputOfMade dense InputPort.size
  cases checkParameters "weights" parameters.weights
    (parameters.units * elementCount source.sizes) with
  | error cause => rfl
  | ok _ => cases checkParameters "bias" parameters.bias parameters.units <;> rfl

private theorem convolving_local (parameters : ConvolutionWeights) :
    Local (.convolution parameters) (convolving parameters) := by
  intro source
  unfold outputOfMade convolving InputPort.planes
  obtain ⟨name, port, dtype, sizes⟩ := source
  dsimp only
  split
  · simp only [bind, Except.bind]
    split
    · rfl
    split
    · rfl
    · rename_i rows columns channels _ _
      cases checkParameters "weights" parameters.weights
        (parameters.filters * parameters.kernel * parameters.kernel * channels) <;> rfl
  · rfl

private theorem reducing_local (kind : PoolingKind) (window stride : Nat) :
    Local (.pooling kind window stride) (reducing kind window stride) := by
  intro source
  unfold outputOfMade reducing InputPort.planes
  obtain ⟨name, port, dtype, sizes⟩ := source
  dsimp only
  split
  · simp only [bind, Except.bind]
    split <;> rfl
  · rfl

private theorem detecting_local (anchors classes : Nat) :
    Local (.regionDetection anchors classes) (detecting anchors classes) := by
  intro source
  unfold outputOfMade detecting InputPort.planes
  obtain ⟨name, port, dtype, sizes⟩ := source
  dsimp only
  split
  · simp only [bind, Except.bind]
    split <;> rfl
  · rfl

theorem Operation.unary_local {operation : Operation} {make : InputPort → Except Error Node}
    (found : operation.unary? = some make) : Local operation make := by
  unfold Operation.unary? at found
  cases operation with
  | activation function | softmax =>
      cases found
      exact alike_local _
  | bias values | scaling values =>
      cases found
      exact channelwise_local _ values
  | batchNormalization statistics =>
      cases found
      exact normalizing_local statistics
  | fullyConnected units weights =>
      cases found
      exact multiplying_local units weights
  | convolution parameters =>
      cases found
      exact convolving_local parameters
  | pooling kind window stride =>
      cases found
      exact reducing_local kind window stride
  | regionDetection anchors classes =>
      cases found
      exact detecting_local anchors classes
  | denseLayer parameters =>
      cases found
      exact dense_local parameters
  | _ => cases found

/-! ### The inputs of a node -/

namespace Model

variable {model other : Model} {operation : Operation} {sources : List Port} {made : Node}

theorem inputFrom_ok {name : String} {port : Port} {input : InputPort} :
    model.inputFrom name port = .ok input ↔ ∃ output, model.outputPort port = .ok output ∧
      input = { name := name, source := port, dtype := output.dtype, sizes := output.sizes } := by
  unfold inputFrom
  rw [bind_eq_ok]
  constructor
  · rintro ⟨output, found, ⟨⟩⟩
    exact ⟨output, found, rfl⟩
  · rintro ⟨output, found, rfl⟩
    exact ⟨output, found, rfl⟩

/-- The input was made by reading a port of the model. -/
def Reads (model : Model) (input : InputPort) : Prop :=
  model.inputFrom input.name input.source = .ok input

theorem reads_of_inputFrom {name : String} {port : Port} {input : InputPort}
    (found : model.inputFrom name port = .ok input) :
    model.Reads input ∧ input.name = name ∧ input.source = port := by
  obtain ⟨output, seen, rfl⟩ := inputFrom_ok.mp found
  exact ⟨found, rfl, rfl⟩

/-- What is read stands in the model. -/
theorem Reads.earlier {input : InputPort} (reads : model.Reads input) :
    input.source.node < model.size := by
  obtain ⟨output, found, -⟩ := inputFrom_ok.mp reads
  unfold outputPort at found
  split at found
  · cases found
  · rename_i node here
    exact (List.getElem?_eq_some_iff.mp here).1

theorem firstInput_ok {input : InputPort} (found : model.firstInput sources = .ok input) :
    model.Reads input ∧ input.name = "input" := by
  obtain ⟨port, -, found⟩ := bind_eq_ok.mp found
  obtain ⟨reads, named, -⟩ := reads_of_inputFrom found
  exact ⟨reads, named⟩

theorem firstFloat_ok {kind : Kind} {input : InputPort}
    (found : model.firstFloat kind sources = .ok input) :
    model.Reads input ∧ input.name = "input" ∧ input.dtype.isFloat = true := by
  obtain ⟨port, first, found⟩ := bind_eq_ok.mp found
  obtain ⟨_, float, ⟨⟩⟩ := bind_eq_ok.mp found
  obtain ⟨reads, named⟩ := firstInput_ok first
  refine ⟨reads, named, ?_⟩
  unfold InputPort.requireFloat at float
  split at float
  · assumption
  · cases float

/-- What is read from a port has its type and its shape. -/
theorem firstFloat_port {kind : Kind} {source : Port} {others : List Port} {output : OutputPort}
    {input : InputPort} (found : model.outputPort source = .ok output)
    (first : model.firstFloat kind (source :: others) = .ok input) :
    input.dtype.isFloat = true ∧ input.dtype = output.dtype ∧ input.sizes = output.sizes := by
  obtain ⟨-, -, float⟩ := firstFloat_ok first
  obtain ⟨_, first, rest⟩ := bind_eq_ok.mp first
  obtain ⟨_, -, ⟨⟩⟩ := bind_eq_ok.mp rest
  obtain ⟨_, ⟨⟩, read⟩ := bind_eq_ok.mp first
  obtain ⟨output', found', rfl⟩ := inputFrom_ok.mp read
  cases found.symm.trans found'
  exact ⟨float, rfl, rfl⟩

/-- The input again, wherever a model has a port like the one that it reads. -/
theorem firstInput_of_reads {input : InputPort} (reads : model.Reads input)
    (named : input.name = "input") (rest : List Port) :
    model.firstInput (input.source :: rest) = .ok input := by
  unfold Reads at reads
  rw [named] at reads
  exact reads

theorem firstFloat_of_reads {kind : Kind} {input : InputPort} (reads : model.Reads input)
    (named : input.name = "input") (float : input.dtype.isFloat = true) (rest : List Port) :
    model.firstFloat kind (input.source :: rest) = .ok input := by
  unfold firstFloat InputPort.requireFloat
  rw [firstInput_of_reads reads named]
  simp only [bind, Except.bind, if_pos float]
  rfl

end Model

/-! ### Nodes -/

/-- Two inputs that are alike but for the port that they read. -/
structure InputPort.Alike (input other : InputPort) : Prop where
  name : other.name = input.name
  dtype : other.dtype = input.dtype
  sizes : other.sizes = input.sizes

namespace Model

variable {model other : Model} {operation : Operation} {sources : List Port} {made : Node}

/-- What a node has that an operation was connected to. -/
structure Made (model : Model) (operation : Operation) (made : Node) : Prop where
  same : made.operation = operation
  taken : made.inputs.length ∈ operation.arities
  reads : ∀ input ∈ made.inputs, model.Reads input
  forgets : made.hasState = false → made.state = []
  /-- The operation can be connected in the same way to every model that has ports for it. -/
  elsewhere : ∀ (model : Model) (inputs : List InputPort),
    List.Forall₂ InputPort.Alike made.inputs inputs → (∀ input ∈ inputs, model.Reads input) →
      model.connect operation (inputs.map InputPort.source) = .ok { made with inputs := inputs }

private theorem alike_one {source : InputPort} {inputs : List InputPort}
    (alike : List.Forall₂ InputPort.Alike [source] inputs) :
    ∃ source', inputs = [source'] ∧ source.Alike source' := by
  obtain ⟨source', rest, one, none, rfl⟩ := List.forall₂_cons_left_iff.mp alike
  cases none
  exact ⟨source', rfl, one⟩

private theorem unary_arities {make : InputPort → Except Error Node}
    (found : operation.unary? = some make) : 1 ∈ operation.arities := by
  cases operation with
  | input | constant | binary | delay | lstm => cases found
  | _ => exact List.mem_singleton_self 1

private theorem made_unary {make : InputPort → Except Error Node}
    (found : operation.unary? = some make) (done : model.connect operation sources = .ok made) :
    model.Made operation made := by
  rw [connect_unary model found] at done
  obtain ⟨source, first, done⟩ := bind_eq_ok.mp done
  obtain ⟨reads, named, float⟩ := firstFloat_ok first
  have isLocal := Operation.unary_local found
  rw [isLocal source] at done
  cases shaped : outputOfMade make source.dtype source.sizes with
  | error cause =>
      rw [shaped] at done
      cases done
  | ok output =>
      rw [shaped] at done
      cases done
      refine ⟨rfl, unary_arities found, ?_, fun _ => rfl, ?_⟩
      · simpa [Node.stateless] using reads
      · intro model inputs alike reads
        obtain ⟨source', rfl, alike'⟩ := alike_one alike
        have first : model.firstFloat operation.kind [source'.source] = .ok source' :=
          firstFloat_of_reads (reads source' (by simp)) (alike'.name.trans named)
            (alike'.dtype ▸ float) []
        rw [connect_unary model found, List.map_singleton, first]
        refine (isLocal source').trans ?_
        rw [alike'.dtype, alike'.sizes, shaped]
        rfl

private theorem made_input {dtype : DType} {sizes : List Nat}
    (done : model.connect (.input dtype sizes) sources = .ok made) :
    model.Made (.input dtype sizes) made := by
  cases done
  refine ⟨rfl, List.mem_singleton_self _, by simp [Node.stateless], fun _ => rfl, ?_⟩
  intro model inputs alike reads
  cases alike
  rfl

private theorem made_constant {values : Storage} {sizes : List Nat}
    (done : model.connect (.constant values sizes) sources = .ok made) :
    model.Made (.constant values sizes) made := by
  unfold connect at done
  dsimp only at done
  split at done
  · cases done
  · rename_i fits
    cases done
    refine ⟨rfl, List.mem_singleton_self _, by simp [Node.stateless], fun _ => rfl, ?_⟩
    intro model inputs alike reads
    cases alike
    unfold connect
    dsimp only
    rw [if_neg fits]
    rfl

private theorem made_binary {op : BinaryOp}
    (done : model.connect (.binary op) sources = .ok made) : model.Made (.binary op) made := by
  change model.combining op sources = _ at done
  unfold combining at done
  obtain ⟨port, -, done⟩ := bind_eq_ok.mp done
  obtain ⟨left, first, done⟩ := bind_eq_ok.mp done
  obtain ⟨port', -, done⟩ := bind_eq_ok.mp done
  obtain ⟨right, second, done⟩ := bind_eq_ok.mp done
  obtain ⟨reads, named, -⟩ := reads_of_inputFrom first
  obtain ⟨reads', named', -⟩ := reads_of_inputFrom second
  dsimp only at done
  split at done
  · cases done
  rename_i typed
  split at done
  · cases done
  rename_i sized
  cases done
  refine ⟨rfl, List.mem_singleton_self _, ?_, fun _ => rfl, ?_⟩
  · simpa [Node.stateless] using ⟨reads, reads'⟩
  · intro model inputs alike found
    obtain ⟨left', rest, one, more, rfl⟩ := List.forall₂_cons_left_iff.mp alike
    obtain ⟨right', rfl, two⟩ := alike_one more
    have first : model.inputFrom "input1" left'.source = .ok left' :=
      (one.name.trans named) ▸ found left' (by simp)
    have second : model.inputFrom "input2" right'.source = .ok right' :=
      (two.name.trans named') ▸ found right' (by simp)
    change model.combining op [left'.source, right'.source] = _
    simp only [combining, sourceAt, List.getElem?_cons_zero, List.getElem?_cons_succ, bind,
      Except.bind, first, second]
    rw [one.dtype, one.sizes, two.dtype, two.sizes, if_neg typed, if_neg sized]
    rfl

/-- A delay on its input. -/
private theorem connect_delay (model : Model) (window : Nat) (sources : List Port) :
    model.connect (.delay window) sources = model.firstInput sources >>= delaying window :=
  rfl

private theorem made_delay {window : Nat}
    (done : model.connect (.delay window) sources = .ok made) : model.Made (.delay window) made := by
  rw [connect_delay] at done
  obtain ⟨source, first, done⟩ := bind_eq_ok.mp done
  obtain ⟨reads, named⟩ := firstInput_ok first
  unfold delaying at done
  split at done
  · cases done
  rename_i positive
  cases done
  refine ⟨rfl, List.mem_singleton_self _, ?_, nofun, ?_⟩
  · simpa [Node.alike, Node.stateless] using reads
  · intro model inputs alike found
    obtain ⟨source', rfl, alike'⟩ := alike_one alike
    rw [connect_delay, List.map_singleton,
      firstInput_of_reads (found source' (by simp)) (alike'.name.trans named)]
    simp only [bind, Except.bind, delaying, if_neg positive, InputPort.size, Node.alike,
      Node.stateless, alike'.dtype, alike'.sizes]
    rfl

/-- The second port that an operation was given, if there is one. -/
def triggerInput (model : Model) (sources : List Port) : Except Error (Option InputPort) :=
  match sources[1]? with
  | some trigger => some <$> model.inputFrom "reset_trigger" trigger
  | none => pure none

/-- A cell on its input and its trigger. -/
theorem connect_lstm (model : Model) (weights : LstmWeights) (sources : List Port) :
    model.connect (.lstm weights) sources =
      (model.firstFloat .lstm sources >>= fun port => checkLstm weights port >>= fun _ =>
        model.triggerInput sources >>= recurring weights port) := by
  unfold connect triggerInput
  cases sources[1]? <;> rfl

private theorem recurring_alike {weights : LstmWeights} {source source' : InputPort}
    {trigger? trigger?' : Option InputPort} {node : Node} (alike : source.Alike source')
    (triggers : Option.Rel InputPort.Alike trigger? trigger?')
    (done : recurring weights source trigger? = .ok node) :
    node.operation = .lstm weights ∧ node.inputs = source :: trigger?.toList ∧
      node.state ≠ [] ∧
        recurring weights source' trigger?' =
          .ok { node with inputs := source' :: trigger?'.toList } := by
  unfold recurring at done ⊢
  cases triggers with
  | none =>
      cases done
      refine ⟨rfl, rfl, nofun, ?_⟩
      simp only [alike.dtype]
      rfl
  | @some trigger trigger' same =>
      dsimp only at done ⊢
      split at done
      · cases done
      rename_i one
      cases done
      unfold InputPort.size at one
      refine ⟨rfl, rfl, nofun, ?_⟩
      simp only [InputPort.size, Option.map_some, same.sizes, same.dtype, alike.dtype]
      rw [if_neg one]
      rfl

private theorem triggerInput_ok {trigger? : Option InputPort}
    (found : model.triggerInput sources = .ok trigger?) :
    ∀ trigger ∈ trigger?, model.Reads trigger ∧ trigger.name = "reset_trigger" := by
  unfold triggerInput at found
  rintro trigger ⟨⟩
  split at found
  · rename_i port _
    cases seen : model.inputFrom "reset_trigger" port with
    | error cause =>
        rw [seen] at found
        cases found
    | ok input =>
        rw [seen] at found
        cases found
        exact ⟨(reads_of_inputFrom seen).1, (reads_of_inputFrom seen).2.1⟩
  · cases found

private theorem made_lstm {weights : LstmWeights}
    (done : model.connect (.lstm weights) sources = .ok made) : model.Made (.lstm weights) made := by
  rw [connect_lstm] at done
  obtain ⟨source, first, done⟩ := bind_eq_ok.mp done
  obtain ⟨_, checked, done⟩ := bind_eq_ok.mp done
  obtain ⟨trigger?, second, done⟩ := bind_eq_ok.mp done
  obtain ⟨reads, named, float⟩ := firstFloat_ok first
  have triggers := triggerInput_ok second
  have itself : Option.Rel InputPort.Alike trigger? trigger? := by
    cases trigger? with
    | none => exact .none
    | some trigger => exact .some ⟨rfl, rfl, rfl⟩
  obtain ⟨same, inputs, -, -⟩ := recurring_alike ⟨rfl, rfl, rfl⟩ itself done
  refine ⟨same, ?_, ?_, ?_, ?_⟩
  · rw [inputs]
    cases trigger? <;> simp [Operation.arities]
  · rw [inputs]
    intro input member
    rcases List.mem_cons.mp member with rfl | member
    · exact reads
    · exact (triggers input (by simpa using member)).1
  · intro kept
    rw [Node.hasState, Node.kind, same] at kept
    cases kept
  · intro model ports alike found
    rw [inputs] at alike
    obtain ⟨source', rest, one, more, rfl⟩ := List.forall₂_cons_left_iff.mp alike
    have again : model.firstFloat .lstm (source'.source :: rest.map InputPort.source) = .ok source' :=
      firstFloat_of_reads (found source' (by simp)) (one.name.trans named) (one.dtype ▸ float) _
    have checked' : checkLstm weights source' = .ok () := by
      unfold checkLstm InputPort.size at checked ⊢
      rw [one.sizes]
      exact checked
    have trigger : ∃ trigger?', model.triggerInput (source'.source :: rest.map InputPort.source) =
        .ok trigger?' ∧ Option.Rel InputPort.Alike trigger? trigger?' ∧ rest = trigger?'.toList := by
      cases trigger? with
      | none =>
          cases more
          exact ⟨none, rfl, .none, rfl⟩
      | some trigger =>
          obtain ⟨trigger', rfl, two⟩ := alike_one more
          have second : model.inputFrom "reset_trigger" trigger'.source = .ok trigger' :=
            (two.name.trans (triggers trigger rfl).2) ▸ found trigger' (by simp)
          refine ⟨some trigger', ?_, .some two, rfl⟩
          unfold triggerInput
          simp only [List.map_cons, List.map_nil, List.getElem?_cons_succ,
            List.getElem?_cons_zero, second]
          rfl
    obtain ⟨trigger?', read, related, rfl⟩ := trigger
    rw [List.map_cons, connect_lstm, again]
    simp only [bind, Except.bind, checked', read]
    exact (recurring_alike one related done).2.2.2

theorem made_of_connect (done : model.connect operation sources = .ok made) :
    model.Made operation made := by
  cases operation with
  | input dtype sizes => exact made_input done
  | constant values sizes => exact made_constant done
  | binary op => exact made_binary done
  | delay window => exact made_delay done
  | lstm weights => exact made_lstm done
  | _ => exact made_unary rfl done

/-! ### Growing -/

theorem checkInput_ok {input : InputPort} :
    model.checkInput input = .ok () ↔ model.Reads input := by
  unfold checkInput Reads
  rw [bind_eq_ok, inputFrom_ok]
  refine exists_congr fun output => and_congr_right fun _ => ?_
  obtain ⟨name, port, dtype, sizes⟩ := input
  dsimp only
  by_cases typed : output.dtype = dtype
  · by_cases sized : output.sizes = sizes
    · simp [typed, sized, pure, Except.pure]
    · simp [typed, sized, Ne.symm sized, throw, throwThe, MonadExceptOf.throw]
  · simp [typed, Ne.symm typed, bind, Except.bind, throw, throwThe, MonadExceptOf.throw]

theorem insert_ok {node : Node} {next : Model} {id : NodeId} :
    model.insert node = .ok (next, id) ↔ (∀ input ∈ node.inputs, model.Reads input) ∧
      next = { nodes := model.nodes ++ [node] } ∧ id = model.size := by
  simp only [← checkInput_ok]
  unfold insert
  rw [bind_eq_ok, ← forM_eq_ok]
  constructor
  · rintro ⟨_, checked, ⟨⟩⟩
    exact ⟨checked, rfl, rfl⟩
  · rintro ⟨checked, rfl, rfl⟩
    exact ⟨(), checked, rfl⟩

/-- The model without its later nodes. -/
def before (model : Model) (id : NodeId) : Model :=
  { nodes := model.nodes.take id }

end Model

/-- A storage of the type and size of another one. -/
def Storage.SameShape (storage other : Storage) : Prop :=
  other.dtype = storage.dtype ∧ other.size = storage.size

/-- A node that is like another one, but may read from other ports and remember other data. -/
structure Node.Like (made node : Node) : Prop where
  operation : node.operation = made.operation
  inputs : List.Forall₂ InputPort.Alike made.inputs node.inputs
  outputs : node.outputs = made.outputs
  state : List.Forall₂ Storage.SameShape made.state node.state

namespace Model

/-- Models that are grown from nothing, one node after the other.  Every node was made by
connecting an operation, be it to this model or to another one. -/
inductive Reachable : Model → Prop where
  | empty : Reachable Model.empty
  | insert {model other next : Model} {operation : Operation} {sources : List Port}
      {made node : Node} {id : NodeId} (reachable : Reachable model)
      (connected : other.connect operation sources = .ok made) (like : made.Like node)
      (inserted : model.insert node = .ok (next, id)) : Reachable next

theorem Reachable.add {model next : Model} (reachable : model.Reachable) {operation : Operation}
    {sources : List Port} {id : NodeId} (added : model.add operation sources = .ok (next, id)) :
    next.Reachable := by
  obtain ⟨node, connected, inserted⟩ := bind_eq_ok.mp added
  refine .insert reachable connected ⟨rfl, ?_, rfl, ?_⟩ inserted
  · exact List.forall₂_same.mpr fun _ _ => ⟨rfl, rfl, rfl⟩
  · exact List.forall₂_same.mpr fun _ _ => ⟨rfl, rfl⟩

/-- Every node is what its operation makes of the nodes before it, but for its memory. -/
def Connected (model : Model) : Prop :=
  ∀ id node, model.nodes[id]? = some node → ∃ state,
    (model.before id).connect node.operation (node.inputs.map InputPort.source) =
      .ok { node with state := state } ∧ List.Forall₂ Storage.SameShape state node.state

theorem Reachable.connected {model : Model} (reachable : model.Reachable) : model.Connected := by
  induction reachable with
  | empty => exact fun _ _ absurd => by cases absurd
  | @insert model other next operation sources made node id _ connected like inserted ih =>
      obtain ⟨reads, rfl, rfl⟩ := insert_ok.mp inserted
      intro position found known
      rw [List.getElem?_append] at known
      split at known
      · rename_i earlier
        obtain ⟨state, again, shapes⟩ := ih position found known
        refine ⟨state, ?_, shapes⟩
        unfold before at again ⊢
        dsimp only
        rw [List.take_append_of_le_length earlier.le]
        exact again
      · rename_i later
        obtain ⟨last, same⟩ := List.getElem?_eq_some_iff.mp known
        rw [List.length_singleton, Nat.lt_one_iff, Nat.sub_eq_zero_iff_le] at last
        obtain rfl : position = model.nodes.length := Nat.le_antisymm last (not_lt.mp later)
        obtain rfl : node = found := by simpa using same
        have made' := made_of_connect connected
        refine ⟨made.state, ?_, like.state⟩
        have here : before { nodes := model.nodes ++ [node] } model.nodes.length = model := by
          unfold before
          rw [List.take_left]
        rw [here, like.operation, like.outputs, made'.same,
          made'.elsewhere model _ like.inputs reads, ← made'.same]

end Model
end TensorGraph

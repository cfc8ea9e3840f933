/-
Archives in another form.

The ids of an archive only tell its nodes apart, its edges carry the numbers of
the inputs that they feed, and a node is described by the fields that its kind
looks at.  So an archive with its edges in another order, with other ids and
with other fields beside these is read as the same model.
-/

import TensorGraph.Proofs.Archive.RoundTrip

namespace TensorGraph

/-! ### Other forms of an archive -/

/-- The fields that a kind looks at, beside the ports that its node is to read. -/
def Kind.fieldNames : Kind → List String
  | input => ["dtype", "shape"]
  | constant => ["shape", "values", "dtype"]
  | activation => ["function"]
  | binary => ["operation"]
  | bias => ["bias"]
  | scaling => ["scale"]
  | batchNormalization => ["mean", "variance", "epsilon", "epsilon_summand"]
  | fullyConnected => ["units", "weights"]
  | convolution => ["filters", "kernel_size", "stride", "padding", "weights"]
  | pooling => ["window", "pooling", "stride"]
  | softmax => []
  | regionDetection => ["anchors", "classes"]
  | denseLayer => ["units", "weights", "bias", "activation"]
  | delay => ["window_size"]
  | lstm =>
      ["hidden_units", "input_weights", "hidden_weights", "input_bias", "hidden_bias",
        "activation", "recurrent_activation"]

theorem Kind.inputs_not_mem_fieldNames (kind : Kind) : "inputs" ∉ kind.fieldNames := by
  cases kind <;> decide

/-- A record of the same node with another id.  What is said in fields that the kind of the node
does not look at makes no difference. -/
structure NodeRecord.Reformed (registry : Registry) (rename : Nat → Nat)
    (record other : NodeRecord) : Prop where
  id : other.id = rename record.id
  kind : other.kind = record.kind
  state : other.state = record.state
  fields : ∀ kind, registry.get record.kind = .ok kind →
    ∀ name ∈ kind.fieldNames, other.fields.get? name = record.fields.get? name

def EdgeRecord.renamed (rename : Nat → Nat) (edge : EdgeRecord) : EdgeRecord :=
  { target := rename edge.target
    input := edge.input
    source := { edge.source with node := rename edge.source.node } }

/-- No two edges feed one input of one node. -/
def EdgeRecord.Apart (edges : List EdgeRecord) : Prop :=
  (edges.map fun edge => (edge.target, edge.input)).Nodup

/-- An archive of the same nodes with other ids and with its edges in any order. -/
structure ModelArchive.Reformed (registry : Registry) (rename : Nat → Nat)
    (archive other : ModelArchive) : Prop where
  format : other.format = archive.format
  version : other.version = archive.version
  nodes : List.Forall₂ (NodeRecord.Reformed registry rename) archive.nodes other.nodes
  edges : other.edges.Perm (archive.edges.map (EdgeRecord.renamed rename))

/-- The same nodes under other archived ids. -/
def Renaming.renamed (rename : Nat → Nat) (ids : Renaming) : Renaming :=
  ids.map fun entry => (rename entry.1, entry.2)

/-- A field that the kind does not look at may be added. -/
theorem NodeRecord.reformed_set {registry : Registry} {record : NodeRecord} {name : String}
    (unread : ∀ kind, registry.get record.kind = .ok kind → name ∉ kind.fieldNames)
    (rename : Nat → Nat) (value : Json) :
    record.Reformed registry rename
      { record with id := rename record.id, fields := record.fields.set name value } where
  id := rfl
  kind := rfl
  state := rfl
  fields := by
    intro kind known other member
    have different : other ≠ name := fun same => unread kind known (same ▸ member)
    exact (Json.lookup_insertSorted _ _ _ _).trans (if_neg different)

/-! ### Outcomes -/

/-- Two errors that differ at most in what an archive error says. -/
def Error.Alike (first second : Error) : Prop :=
  first = second ∨ ∃ reason other, first = .archive reason ∧ second = .archive other

/-- Both answers are there and belong together, or both are errors of one kind. -/
inductive SameOutcome {α β : Type} (belong : α → β → Prop) :
    Except Error α → Except Error β → Prop
  | ok {first : α} {second : β} : belong first second →
      SameOutcome belong (.ok first) (.ok second)
  | error {first second : Error} : first.Alike second →
      SameOutcome belong (.error first) (.error second)

namespace SameOutcome

variable {α β γ δ : Type} {belong : α → β → Prop} {belong' : γ → δ → Prop}

theorem refl (outcome : Except Error α) : SameOutcome Eq outcome outcome := by
  cases outcome with
  | ok answer => exact .ok rfl
  | error failure => exact .error (.inl rfl)

theorem bind {first : Except Error α} {second : Except Error β} {rest : α → Except Error γ}
    {rest' : β → Except Error δ} (start : SameOutcome belong first second)
    (after : ∀ {answer answer'}, belong answer answer' →
      SameOutcome belong' (rest answer) (rest' answer')) :
    SameOutcome belong' (first >>= rest) (second >>= rest') := by
  cases start with
  | ok same => exact after same
  | error alike => exact .error alike

theorem mapM {items : List α} {turn : α → β} {read : α → Except Error γ}
    {read' : β → Except Error γ}
    (each : ∀ item ∈ items, SameOutcome Eq (read item) (read' (turn item))) :
    SameOutcome Eq (items.mapM read) ((items.map turn).mapM read') := by
  induction items with
  | nil => exact .ok rfl
  | cons item rest ih =>
      rw [List.forall_mem_cons] at each
      rw [List.map_cons, List.mapM_cons, List.mapM_cons]
      refine each.1.bind ?_
      rintro first _ rfl
      refine (ih each.2).bind ?_
      rintro others _ rfl
      exact .ok rfl

end SameOutcome

/-! ### Edges -/

section Edges

variable {rename : Nat → Nat} {edges other : List EdgeRecord} {ids : Renaming} {target : Nat}

/-- The edges of a node in the order of their inputs. -/
private def feeding (edges : List EdgeRecord) (target : Nat) : List EdgeRecord :=
  (edges.filter fun edge => edge.target == target).mergeSort
    fun left right => left.input ≤ right.input

private theorem feeding_perm (edges : List EdgeRecord) (target : Nat) :
    (feeding edges target).Perm (edges.filter fun edge => edge.target == target) :=
  List.mergeSort_perm _ _

private theorem feeding_sorted (edges : List EdgeRecord) (target : Nat) :
    (feeding edges target).Pairwise fun left right => left.input ≤ right.input := by
  have sorted := @List.pairwise_mergeSort EdgeRecord
    (fun left right => decide (left.input ≤ right.input)) ?_ ?_
    (edges.filter fun edge => edge.target == target)
  · exact sorted.imp of_decide_eq_true
  · intro first second third
    simpa only [decide_eq_true_eq] using Nat.le_trans
  · intro first second
    simpa only [Bool.or_eq_true, decide_eq_true_eq] using Nat.le_total _ _

private theorem filter_renamed (injective : Function.Injective rename) :
    ((edges.map (EdgeRecord.renamed rename)).filter fun edge => edge.target == rename target) =
      (edges.filter fun edge => edge.target == target).map (EdgeRecord.renamed rename) := by
  rw [List.filter_map]
  congr 1
  apply List.filter_congr
  intro edge _
  rw [Bool.eq_iff_iff, Function.comp_apply, beq_iff_eq, beq_iff_eq]
  exact injective.eq_iff

/-- With one edge an input, the order of the edges is lost when they are sorted. -/
private theorem feeding_reformed (injective : Function.Injective rename)
    (apart : EdgeRecord.Apart edges) (same : other.Perm (edges.map (EdgeRecord.renamed rename))) :
    feeding other (rename target) = (feeding edges target).map (EdgeRecord.renamed rename) := by
  have perm : (feeding other (rename target)).Perm
      ((feeding edges target).map (EdgeRecord.renamed rename)) := by
    refine (feeding_perm other _).trans ((same.filter _).trans ?_)
    rw [filter_renamed injective]
    exact ((feeding_perm edges target).map _).symm
  refine List.Perm.eq_of_pairwise ?_ (feeding_sorted other _)
    ((feeding_sorted edges target).map _ fun _ _ ordered => ordered) perm
  intro left right left_member right_member le ge
  obtain ⟨first, first_member, rfl⟩ := List.mem_map.mp (perm.mem_iff.mp left_member)
  obtain ⟨second, second_member, rfl⟩ := List.mem_map.mp right_member
  obtain ⟨first_known, first_target⟩ :=
    List.mem_filter.mp ((feeding_perm edges target).mem_iff.mp first_member)
  obtain ⟨second_known, second_target⟩ :=
    List.mem_filter.mp ((feeding_perm edges target).mem_iff.mp second_member)
  have keys : (first.target, first.input) = (second.target, second.input) :=
    Prod.ext ((eq_of_beq first_target).trans (eq_of_beq second_target).symm) (Nat.le_antisymm le ge)
  rw [List.inj_on_of_nodup_map apart first_known second_known keys]

theorem Renaming.lookup_renamed (injective : Function.Injective rename) (ids : Renaming)
    (id : Nat) : (ids.renamed rename).lookup (rename id) = ids.lookup id := by
  induction ids with
  | nil => rfl
  | cons entry rest ih =>
      rw [renamed] at ih ⊢
      rw [List.map_cons, List.lookup_cons, List.lookup_cons, ih]
      by_cases same : id = entry.1
      · rw [same, beq_self_eq_true, beq_self_eq_true]
      · rw [beq_false_of_ne same, beq_false_of_ne (injective.ne same)]

/-- A node reads the same ports. -/
private theorem sourcesOf_reformed (injective : Function.Injective rename)
    (apart : EdgeRecord.Apart edges) (same : other.Perm (edges.map (EdgeRecord.renamed rename)))
    (ids : Renaming) (target : Nat) :
    SameOutcome Eq (sourcesOf edges ids target)
      (sourcesOf other (ids.renamed rename) (rename target)) := by
  unfold sourcesOf
  change SameOutcome Eq ((feeding edges target).mapM _) ((feeding other (rename target)).mapM _)
  rw [feeding_reformed injective apart same]
  apply SameOutcome.mapM
  intro edge _
  dsimp only [EdgeRecord.renamed]
  rw [Renaming.lookup_renamed injective]
  cases ids.lookup edge.source.node with
  | some node => exact .ok rfl
  | none => exact .error (.inr ⟨_, _, rfl, rfl⟩)

end Edges

/-! ### Fields -/

section Fields

variable {fields other : Fields} {name : String}

private theorem read_congr {α : Type} (same : other.get? name = fields.get? name)
    (decode : Json → Option α) : other.read name decode = fields.read name decode := by
  unfold Fields.read
  rw [same]

private theorem readOr_congr {α : Type} (same : other.get? name = fields.get? name)
    (decode : Json → Option α) (default : α) :
    other.readOr name decode default = fields.readOr name decode default := by
  unfold Fields.readOr Fields.contains
  rw [same, read_congr same]

/-- A kind looks at its own fields and at the ports. -/
theorem Kind.describe_congr {kind : Kind}
    (same : ∀ name ∈ kind.fieldNames, other.get? name = fields.get? name)
    (inputs : other.inputs = fields.inputs) : kind.describe other = kind.describe fields := by
  have input (position : Nat) : other.input position = fields.input position := by
    unfold Fields.input
    rw [inputs]
  have read : ∀ name ∈ kind.fieldNames, ∀ {α : Type} (decode : Json → Option α),
      other.read name decode = fields.read name decode :=
    fun name member _ decode => read_congr (same name member) decode
  have readOr : ∀ name ∈ kind.fieldNames, ∀ {α : Type} (decode : Json → Option α) (default : α),
      other.readOr name decode default = fields.readOr name decode default :=
    fun name member _ decode default => readOr_congr (same name member) decode default
  -- Whatever field a kind reads, its name has to be one of `fieldNames`.
  cases kind <;>
    simp (disch := decide) only [describe, describeConstant, describeLstm, read, readOr, input,
      inputs]

end Fields

/-! ### Nodes -/

section Nodes

variable {registry : Registry} {rename : Nat → Nat}

/-- What a node is made from does not change, and so neither does the node. -/
private theorem addNamed_reformed {record other : NodeRecord}
    (reformed : record.Reformed registry rename other) (model : Model) (sources : List Port) :
    model.addNamed registry other.kind (other.fields.withInputs sources) =
      model.addNamed registry record.kind (record.fields.withInputs sources) := by
  unfold Model.addNamed
  rw [reformed.kind]
  cases known : registry.get record.kind with
  | error => rfl
  | ok kind =>
      have same : ∀ name ∈ kind.fieldNames, (other.fields.withInputs sources).get? name =
          (record.fields.withInputs sources).get? name := by
        intro name member
        have different : name ≠ "inputs" :=
          fun same => kind.inputs_not_mem_fieldNames (same ▸ member)
        rw [Fields.get?_withInputs, Fields.get?_withInputs, if_neg different, if_neg different]
        exact reformed.fields kind known name member
      have inputs : (other.fields.withInputs sources).inputs =
          (record.fields.withInputs sources).inputs := by
        rw [Fields.inputs_withInputs, Fields.inputs_withInputs]
      change (kind.describe _ >>= _) = (kind.describe _ >>= _)
      rw [Kind.describe_congr same inputs]

/-- The same model, with the archived ids renamed. -/
def SameModel (rename : Nat → Nat) (first second : Model × Renaming) : Prop :=
  second = (first.1, first.2.renamed rename)

variable {edges other : List EdgeRecord}

private theorem readNode_reformed (injective : Function.Injective rename)
    (apart : EdgeRecord.Apart edges) (same : other.Perm (edges.map (EdgeRecord.renamed rename)))
    {record record' : NodeRecord} (reformed : record.Reformed registry rename record')
    (model : Model) (ids : Renaming) :
    SameOutcome (SameModel rename) (readNode registry edges model ids record)
      (readNode registry other model (ids.renamed rename) record') := by
  unfold readNode
  rw [reformed.id, reformed.state]
  refine (sourcesOf_reformed injective apart same ids record.id).bind ?_
  rintro sources _ rfl
  rw [addNamed_reformed reformed]
  refine (SameOutcome.refl _).bind ?_
  rintro ⟨grown, id⟩ _ rfl
  dsimp only
  split
  case isTrue => exact .ok rfl
  case isFalse =>
    refine (SameOutcome.refl _).bind ?_
    rintro buffers _ rfl
    refine (SameOutcome.refl _).bind ?_
    rintro restored _ rfl
    exact .ok rfl

private theorem readNodes_reformed (injective : Function.Injective rename)
    (apart : EdgeRecord.Apart edges) (same : other.Perm (edges.map (EdgeRecord.renamed rename)))
    {records records' : List NodeRecord}
    (reformed : List.Forall₂ (NodeRecord.Reformed registry rename) records records')
    (model : Model) (ids : Renaming) :
    SameOutcome (SameModel rename) (readNodes registry edges records model ids)
      (readNodes registry other records' model (ids.renamed rename)) := by
  induction reformed generalizing model ids with
  | nil => exact .ok rfl
  | cons first _ ih =>
      refine (readNode_reformed injective apart same first model ids).bind ?_
      rintro ⟨grown, ids⟩ _ rfl
      exact ih grown ids

end Nodes

/-! ### Archives -/

/-- An archive in which no two edges feed one input of one node is read as the same model in
any other form, with the ids that it has there, or refused with an error of the same kind. -/
theorem Model.ofArchive_reformed {registry : Registry} {rename : Nat → Nat}
    {archive other : ModelArchive} (injective : Function.Injective rename)
    (apart : EdgeRecord.Apart archive.edges)
    (reformed : archive.Reformed registry rename other) :
    (∃ model ids, ofArchive registry archive = .ok (model, ids) ∧
        ofArchive registry other = .ok (model, ids.renamed rename)) ∨
      ∃ first second, ofArchive registry archive = .error first ∧
        ofArchive registry other = .error second ∧ first.Alike second := by
  have checked : other.check = archive.check := by
    unfold ModelArchive.check
    rw [reformed.format, reformed.version]
  have same : SameOutcome (SameModel rename) (ofArchive registry archive)
      (ofArchive registry other) := by
    unfold ofArchive
    rw [checked]
    refine (SameOutcome.refl _).bind ?_
    rintro _ _ rfl
    exact readNodes_reformed injective apart reformed.edges reformed.nodes Model.empty []
  generalize ofArchive registry archive = first at same
  generalize ofArchive registry other = second at same
  cases same with
  | ok belong => exact .inl ⟨_, _, rfl, congrArg Except.ok belong⟩
  | error alike => exact .inr ⟨_, _, rfl, rfl, alike⟩

/-- The same archive with ids from seven on, its edges the other way round, and ports in the
fields of its nodes that are never looked at. -/
def ModelArchive.retold (archive : ModelArchive) : ModelArchive :=
  { archive with
    nodes := archive.nodes.map fun record =>
      { record with
        id := record.id + 7
        fields := record.fields.set "inputs" (.array []) }
    edges := (archive.edges.map (EdgeRecord.renamed (· + 7))).reverse }

theorem ModelArchive.reformed_retold (registry : Registry) (archive : ModelArchive) :
    archive.Reformed registry (· + 7) archive.retold where
  format := rfl
  version := rfl
  nodes := by
    refine List.forall₂_map_right_iff.mpr (List.forall₂_same.mpr fun record _ => ?_)
    exact NodeRecord.reformed_set (fun kind _ => kind.inputs_not_mem_fieldNames) _ _
  edges := List.reverse_perm _

/-- The case of two inputs that are added. -/
theorem Model.ofArchive_reformed_sum : ∃ model : Model,
    EdgeRecord.Apart model.archive.edges ∧ model.archive.edges.length = 2 ∧
      ofArchive Registry.standard model.archive.retold =
        .ok (model, (Renaming.keep model.size).renamed (· + 7)) := by
  have left := Model.Reachable.empty.add
    (rfl : Model.empty.add (.input .f32 [1]) [] = .ok (_, 0))
  have right := left.add (rfl : Model.add _ (.input .f32 [1]) [] = .ok (_, 1))
  obtain ⟨model, sum, finite, edges⟩ : ∃ model : Model, model.Reachable ∧
      (∀ node ∈ model.nodes, node.operation.Finite) ∧
      model.archive.edges =
        [{ target := 2, input := 0, source := { node := 0, output := 0 } },
         { target := 2, input := 1, source := { node := 1, output := 0 } }] := by
    refine ⟨_, right.add (rfl : Model.add _ (.binary .add)
      [{ node := 0, output := 0 }, { node := 1, output := 0 }] = .ok (_, 2)), ?_, rfl⟩
    exact List.forall_mem_cons.mpr ⟨trivial, List.forall_mem_cons.mpr
      ⟨trivial, List.forall_mem_singleton.mpr trivial⟩⟩
  have apart : EdgeRecord.Apart model.archive.edges := by
    rw [EdgeRecord.Apart, edges]
    decide
  have done := Model.ofArchive_archive sum.connected finite Registry.get_standard
  refine ⟨model, apart, by rw [edges]; rfl, ?_⟩
  rcases ofArchive_reformed (add_left_injective 7) apart
      (model.archive.reformed_retold Registry.standard) with
    ⟨_, _, first, second⟩ | ⟨_, _, failed, -⟩
  · cases done.symm.trans first
    exact second
  · cases done.symm.trans failed

end TensorGraph

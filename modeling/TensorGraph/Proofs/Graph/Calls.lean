/-
Calls on a map.

How a call on a map goes, read off the run of its model.  Whatever is called,
the map keeps its nodes and its names.
-/

import TensorGraph.Graph.Map
import TensorGraph.Proofs.Graph.Memory

namespace TensorGraph.Map

/-! ### Maps over a model -/

/-- The names of a map stand for input nodes and for output ports of the model. -/
structure Named (model : Model) (inputs : List (String × NodeId))
    (outputs : List (String × Port)) : Prop where
  inputs : ∀ input ∈ inputs, ∃ spec, inputSpec model input.1 input.2 = .ok spec
  outputs : ∀ output ∈ outputs, ∃ spec, outputSpec model output.1 output.2 = .ok spec

private theorem void_ok {α : Type} {result : Except Error α} :
    (result >>= fun _ => pure ()) = .ok () ↔ ∃ value, result = .ok value := by
  cases result with
  | error cause => simp [bind, Except.bind]
  | ok value => simp [bind, Except.bind, pure, Except.pure]

theorem ofModel_ok {model : Model} {inputs : List (String × NodeId)}
    {outputs : List (String × Port)} {map : Map} :
    ofModel model inputs outputs = .ok map ↔
      Named model inputs outputs ∧ map = { model := model, inputs := inputs, outputs := outputs } := by
  unfold ofModel
  rw [bind_eq_ok]
  constructor
  · rintro ⟨_, first, done⟩
    obtain ⟨_, second, ⟨⟩⟩ := bind_eq_ok.mp done
    exact ⟨⟨fun input member => void_ok.mp (forM_eq_ok.mp first input member),
      fun output member => void_ok.mp (forM_eq_ok.mp second output member)⟩, rfl⟩
  · rintro ⟨named, rfl⟩
    exact ⟨(), forM_eq_ok.mpr fun input member => void_ok.mpr (named.inputs input member),
      bind_eq_ok.mpr ⟨(), forM_eq_ok.mpr fun output member =>
        void_ok.mpr (named.outputs output member), rfl⟩⟩

theorem inputNode?_aged {model later : Model} (aged : model.Aged later) (id : NodeId) :
    inputNode? later id = inputNode? model id := by
  unfold inputNode?
  have known := aged.node? id
  generalize model.node? id = node? at *
  generalize later.node? id = node?' at *
  cases known with
  | none => rfl
  | some same =>
      obtain ⟨state, rfl, -⟩ := same
      rfl

theorem inputSpec_aged {model later : Model} (aged : model.Aged later) (name : String)
    (id : NodeId) : inputSpec later name id = inputSpec model name id := by
  unfold inputSpec
  rw [inputNode?_aged aged]

theorem outputSpec_aged {model later : Model} (aged : model.Aged later) (name : String)
    (port : Port) : outputSpec later name port = outputSpec model name port := by
  unfold outputSpec
  rw [aged.outputPort]

theorem Named.aged {model later : Model} {inputs : List (String × NodeId)}
    {outputs : List (String × Port)} (named : Named model inputs outputs)
    (aged : model.Aged later) : Named later inputs outputs := by
  refine ⟨?_, ?_⟩
  · intro input member
    rw [inputSpec_aged aged]
    exact named.inputs input member
  · intro output member
    rw [outputSpec_aged aged]
    exact named.outputs output member

/-! ### How a computation goes -/

/-- The rows of the outputs after a run. -/
def rows (map : Map) (evaluation : Evaluation) : Except Error (List (List Float)) :=
  map.outputs.mapM fun output => rowOf evaluation output.1 output.2

theorem compute_refused {map : Map} {rows : List (List Float)} {cause : Error}
    (refused : map.feeds rows = .error cause) : compute rows map = .error (.error cause) map := by
  unfold compute
  refine Action.bind_error.mpr (.inr ⟨map, map, rfl, Action.bind_error.mpr (.inl ?_)⟩)
  rw [refused]
  rfl

theorem compute_failed {map : Map} {given : List (List Float)} {feeds : List Feed} {fault : Fault}
    {model : Model} (fed : map.feeds given = .ok feeds)
    (failed : Model.compute feeds map.model = .error fault model) :
    compute given map = .error fault { map with model := model } := by
  unfold compute
  refine Action.bind_error.mpr (.inr ⟨map, map, rfl, ?_⟩)
  refine Action.bind_error.mpr (.inr ⟨feeds, map, Action.ofExcept_ok.mpr ⟨fed, rfl⟩, ?_⟩)
  refine Action.bind_error.mpr (.inl ?_)
  unfold Action.within
  rw [failed]

theorem compute_done {map : Map} {given : List (List Float)} {feeds : List Feed}
    {evaluation : Evaluation} {model : Model} (fed : map.feeds given = .ok feeds)
    (done : Model.compute feeds map.model = .ok evaluation model) :
    compute given map =
      (Action.ofExcept (map.rows evaluation) : Action Map _) { map with model := model } := by
  have first : (get : Action Map Map) map = .ok map map := rfl
  have second : (Action.ofExcept (map.feeds given) : Action Map _) map = .ok feeds map := by
    rw [fed]
    rfl
  have third : (Action.within Map.model (fun model map => { map with model := model })
      (Model.compute feeds) : Action Map Evaluation) map =
        .ok evaluation { map with model := model } := by
    unfold Action.within
    rw [done]
  unfold compute
  simp only [bind, EStateM.bind, first, second, third]
  rfl

/-- A later state of a map. -/
structure Aged (map later : Map) : Prop where
  model : map.model.Aged later.model
  inputs : later.inputs = map.inputs
  outputs : later.outputs = map.outputs

theorem Aged.refl (map : Map) : map.Aged map :=
  ⟨.refl map.model, rfl, rfl⟩

theorem Aged.trans {map middle later : Map} (one : map.Aged middle) (two : middle.Aged later) :
    map.Aged later :=
  ⟨one.model.trans two.model, two.inputs.trans one.inputs, two.outputs.trans one.outputs⟩

theorem next_aged (map : Map) (call : Call) : map.Aged (map.next call) := by
  cases call with
  | reset => exact ⟨Model.reset_aged map.model, rfl, rfl⟩
  | compute given =>
      change map.Aged (Action.last (compute given map))
      cases fed : map.feeds given with
      | error cause =>
          rw [compute_refused fed]
          exact .refl map
      | ok feeds =>
          have aged := Model.compute_aged map.model feeds
          cases ran : Model.compute feeds map.model with
          | error fault model =>
              rw [ran] at aged
              rw [compute_failed fed ran]
              exact ⟨aged, rfl, rfl⟩
          | ok evaluation model =>
              rw [ran] at aged
              rw [compute_done fed ran]
              cases map.rows evaluation <;> exact ⟨aged, rfl, rfl⟩

theorem after_aged (map : Map) (calls : List Call) : map.Aged (map.after calls) := by
  induction calls generalizing map with
  | nil => exact .refl map
  | cons call rest ih => exact (map.next_aged call).trans (ih (map.next call))

end TensorGraph.Map

/-
Maps and their archives.

An archived map is an archived model with named ports; an input is named by the
only output of its node.
-/

import TensorGraph.Archive.Model
import TensorGraph.Graph.Map

namespace TensorGraph.Map

def archive (map : Map) : MapArchive :=
  { model := map.model.archive
    inputs := map.inputs.map fun (name, id) =>
      { name := name
        port :=
          { node := id
            output := 0 } }
    outputs := map.outputs.map fun (name, port) =>
      { name := name
        port := port } }

def renamed (ids : Renaming) (endpoint : NamedPort) : Except Error (String × Port) :=
  match ids.lookup endpoint.port.node with
  | some node => .ok (endpoint.name, { endpoint.port with node := node })
  | none =>
      .error (.archive ("map endpoint '" ++ endpoint.name ++ "' names unknown node " ++
        nodeText endpoint.port.node))

def ofArchive (registry : Registry) (archive : MapArchive) : Except Error Map := do
  let (model, ids) ← Model.ofArchive registry archive.model
  let inputs ← archive.inputs.mapM (renamed ids)
  let outputs ← archive.outputs.mapM (renamed ids)
  ofModel model (inputs.map fun (name, port) => (name, port.node)) outputs

end TensorGraph.Map

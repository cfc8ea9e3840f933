/-
Models and their archives.

A model is read back by adding its nodes one after another.  The edges of a node
are taken in the order of their input numbers; what they read from has to be
read before.
-/

import TensorGraph.Archive.Record
import TensorGraph.Archive.Registry

namespace TensorGraph

def nodeRecord (node : Node) (id : NodeId) : NodeRecord :=
  { id := id
    kind := node.kind.name
    fields := node.operation.fields
    state := node.state.map BufferRecord.ofStorage }

def edgeRecords (node : Node) (id : NodeId) : List EdgeRecord :=
  node.inputs.zipIdx.map fun (input, number) =>
    { target := id
      input := number
      source := input.source }

def Model.archive (model : Model) : ModelArchive :=
  { format := archiveFormat
    version := archiveVersion
    nodes := model.nodes.zipIdx.map fun (node, id) => nodeRecord node id
    edges := model.nodes.zipIdx.flatMap fun (node, id) => edgeRecords node id }

/-- The nodes that took the place of archived ones, the latest first. -/
abbrev Renaming := List (Nat × NodeId)

/-- The ports that an archived node reads, in the order of its inputs. -/
def sourcesOf (edges : List EdgeRecord) (ids : Renaming) (target : Nat) :
    Except Error (List Port) :=
  let own := (edges.filter fun edge => edge.target == target).mergeSort
    fun left right => left.input ≤ right.input
  own.mapM fun edge =>
    match ids.lookup edge.source.node with
    | some node => .ok { edge.source with node := node }
    | none =>
        .error (.archive ("node " ++ nodeText target ++ " reads from " ++ edge.source.text ++
          " which is not defined before it"))

def readNode (registry : Registry) (edges : List EdgeRecord) (model : Model)
    (ids : Renaming) (record : NodeRecord) : Except Error (Model × Renaming) := do
  let sources ← sourcesOf edges ids record.id
  let (model, id) ← model.addNamed registry record.kind (record.fields.withInputs sources)
  let ids := (record.id, id) :: ids
  if record.state.isEmpty then
    return (model, ids)
  let buffers ← record.state.mapM BufferRecord.toStorage
  return (← model.restoreNode id buffers, ids)

def readNodes (registry : Registry) (edges : List EdgeRecord) :
    List NodeRecord → Model → Renaming → Except Error (Model × Renaming)
  | [], model, ids => .ok (model, ids)
  | record :: rest, model, ids => do
      let (model, ids) ← readNode registry edges model ids record
      readNodes registry edges rest model ids

/-- The model of an archive, and what became of the archived nodes. -/
def Model.ofArchive (registry : Registry) (archive : ModelArchive) :
    Except Error (Model × Renaming) := do
  archive.check
  readNodes registry archive.edges archive.nodes Model.empty []

end TensorGraph

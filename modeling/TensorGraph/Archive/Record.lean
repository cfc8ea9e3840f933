/-
Archives.

An archive is the written form of a model: a record for each node, with what the
node was made from and what it remembers, and a record for each edge.  The ids
in an archive only tell its nodes apart.  A reader passes over what it does not
know.
-/

import TensorGraph.Archive.Buffer
import TensorGraph.Json.Parse
import TensorGraph.Json.Print

namespace TensorGraph

structure NodeRecord where
  id : Nat
  kind : String
  fields : Fields
  state : List BufferRecord

/-- Input `input` of node `target` reads from `source`. -/
structure EdgeRecord where
  target : Nat
  input : Nat
  source : Port
  deriving DecidableEq, Repr

structure ModelArchive where
  format : String
  version : Nat
  nodes : List NodeRecord
  edges : List EdgeRecord

/-- A named port of a map. -/
structure NamedPort where
  name : String
  port : Port
  deriving DecidableEq, Repr

structure MapArchive where
  model : ModelArchive
  inputs : List NamedPort
  outputs : List NamedPort

/-- What an archive calls itself. -/
def archiveFormat : String := "wren-model"

/-- The newest version that can be read. -/
def archiveVersion : Nat := 1

/-- The archive is one that can be read. -/
def ModelArchive.check (archive : ModelArchive) : Except Error Unit := do
  if archive.format ≠ archiveFormat then
    throw (.archive ("expected format '" ++ archiveFormat ++ "', found '" ++ archive.format ++
      "'"))
  if archive.version > archiveVersion then
    throw (.archive ("archive version " ++ toString archive.version ++
      " is newer than supported version " ++ toString archiveVersion))

/-! ### Writing -/

/-- A node that remembers nothing has no entry for it. -/
def NodeRecord.document (node : NodeRecord) : Json :=
  let state :=
    if node.state.isEmpty then []
    else [("state", Json.array (node.state.map BufferRecord.document))]
  .object
    ([("id", .nat node.id), ("kind", .string node.kind), ("fields", .object node.fields.entries)]
      ++ state)

def EdgeRecord.document (edge : EdgeRecord) : Json :=
  .object
    [("target", .nat edge.target), ("input", .nat edge.input), ("source", edge.source.document)]

def ModelArchive.document (archive : ModelArchive) : Json :=
  .object
    [("format", .string archive.format),
     ("version", .nat archive.version),
     ("nodes", .array (archive.nodes.map NodeRecord.document)),
     ("edges", .array (archive.edges.map EdgeRecord.document))]

def NamedPort.document (port : NamedPort) : Json :=
  .object [("name", .string port.name), ("port", port.port.document)]

def MapArchive.document (archive : MapArchive) : Json :=
  .object
    [("model", archive.model.document),
     ("inputs", .array (archive.inputs.map NamedPort.document)),
     ("outputs", .array (archive.outputs.map NamedPort.document))]

/-! ### Reading -/

/-- How deep a text may be nested. -/
def nestingLimit : Nat := 127

/-- A part that may be missing; then it has the given value. -/
private def partOr {α : Type} (default : α) (read : Json → Option α) : Option Json → Option α
  | none => some default
  | some document => read document

/-- Free fields, nested at most `depth` levels deep. -/
private def fieldsOf? (depth : Nat) : Json → Option Fields
  | document@(.object _) =>
      match document.sorted? depth with
      | some (.object entries) =>
          some { entries := entries }
      | _ => none
  | _ => none

private def NodeRecord.ofDocument? (depth : Nat) (document : Json) : Option NodeRecord :=
  match document.record? ["id", "kind", "fields", "state"] 2 with
  | some [some id, some kind, fields?, state?] => do
      return { id := ← id.natural?
               kind := ← kind.text?
               fields := ← partOr Fields.empty (fieldsOf? depth) fields?
               state := ← partOr [] (Json.list? BufferRecord.ofDocument?) state? }
  | _ => none

private def EdgeRecord.ofDocument? (document : Json) : Option EdgeRecord :=
  match document.record? ["target", "input", "source"] 3 with
  | some [some target, some input, some source] => do
      return { target := ← target.natural?
               input := ← input.natural?
               source := ← Port.ofDocument? source }
  | _ => none

/-- Versions are counted in thirty-two bits. -/
private def versionOf? (document : Json) : Option Nat := do
  let version ← document.natural?
  if version < Nat.pow 2 32 then some version else none

/-- The archive that a document stands for; `outer` levels lie around the document. -/
def ModelArchive.ofDocument? (outer : Nat) (document : Json) : Option ModelArchive :=
  match document.record? ["format", "version", "nodes", "edges"] 3 with
  | some [some format, some version, some nodes, edges?] => do
      let depth := nestingLimit - (outer + 3)
      return { format := ← format.text?
               version := ← versionOf? version
               nodes := ← nodes.list? (NodeRecord.ofDocument? depth)
               edges := ← partOr [] (Json.list? EdgeRecord.ofDocument?) edges? }
  | _ => none

private def NamedPort.ofDocument? (document : Json) : Option NamedPort :=
  match document.record? ["name", "port"] 2 with
  | some [some name, some port] => do
      return { name := ← name.text?
               port := ← Port.ofDocument? port }
  | _ => none

def MapArchive.ofDocument? (document : Json) : Option MapArchive :=
  match document.record? ["model", "inputs", "outputs"] 3 with
  | some [some model, some inputs, some outputs] => do
      return { model := ← ModelArchive.ofDocument? 1 model
               inputs := ← inputs.list? NamedPort.ofDocument?
               outputs := ← outputs.list? NamedPort.ofDocument? }
  | _ => none

/-! ### Texts -/

def ModelArchive.text (archive : ModelArchive) : String :=
  archive.document.pretty

def ModelArchive.ofText? (text : String) : Option ModelArchive := do
  ofDocument? 0 (← Json.parse? text)

def MapArchive.text (archive : MapArchive) : String :=
  archive.document.pretty

def MapArchive.ofText? (text : String) : Option MapArchive := do
  ofDocument? (← Json.parse? text)

end TensorGraph

/-
Pictures of a model.

`Model.text` has a line for each node, `Model.dot` is a directed graph in the
dot language.
-/

import TensorGraph.Graph.Model

namespace TensorGraph

/-- Type and shape, such as `f32[4]`. -/
def OutputPort.shapeText (port : OutputPort) : String :=
  port.dtype.name ++ sizesText port.sizes

private def lineOf (node : Node) (id : NodeId) : String :=
  let sources := ", ".intercalate (node.inputs.map fun input => input.source.text)
  let outputs := ", ".intercalate (node.outputs.map fun output =>
    output.name ++ ": " ++ output.shapeText)
  nodeText id ++ " = " ++ node.kind.name ++ " [" ++ sources ++ "] -> " ++ outputs ++ "\n"

def Model.text (model : Model) : String :=
  String.join (model.nodes.zipIdx.map fun (node, id) => lineOf node id)

private def dotNode (node : Node) (id : NodeId) : String :=
  let shapes := "\\n".intercalate (node.outputs.map OutputPort.shapeText)
  let style := if node.hasState then ",style=rounded" else ""
  "  " ++ nodeText id ++ " [label=\"" ++ nodeText id ++ "\\n" ++ node.kind.name ++ "\\n" ++
    shapes ++ "\"" ++ style ++ "];\n"

private def dotEdge (id : NodeId) (input : InputPort) : String :=
  "  " ++ nodeText input.source.node ++ " -> " ++ nodeText id ++ " [label=\"" ++ input.name ++
    "\"];\n"

def Model.dot (model : Model) : String :=
  "digraph model \x7b\n" ++
    "  rankdir=TB;\n" ++
    "  node [shape=box];\n\n" ++
    String.join (model.nodes.zipIdx.map fun (node, id) => dotNode node id) ++
    "\n" ++
    String.join (model.nodes.zipIdx.flatMap fun (node, id) => node.inputs.map (dotEdge id)) ++
    "\x7d\n"

end TensorGraph

import TensorGraph.Archive.Map
import TensorGraph.Document.Draft
import TensorGraph.Document.Graph
import TensorGraph.Document.Script
import TensorGraph.Graph.Listing
import TensorGraph.Kernel.Layer.Sample
import TensorGraph.Proofs.Archive.Buffer
import TensorGraph.Proofs.Archive.Reforming
import TensorGraph.Proofs.Archive.RoundTrip
import TensorGraph.Proofs.Optimize.Completeness
import TensorGraph.Proofs.Optimize.Fixpoint
import TensorGraph.Proofs.Optimize.Pipeline
import TensorGraph.Proofs.Action
import TensorGraph.Proofs.Code.Balanced
import TensorGraph.Proofs.Code.Branch
import TensorGraph.Proofs.Code.Collecting
import TensorGraph.Proofs.Code.While
import TensorGraph.Proofs.Emission.Addressing
import TensorGraph.Proofs.Emission.Agrees
import TensorGraph.Proofs.Emission.Answering
import TensorGraph.Proofs.Emission.Control
import TensorGraph.Proofs.Emission.Fresh
import TensorGraph.Proofs.Graph.Answers
import TensorGraph.Proofs.Graph.Growth
import TensorGraph.Proofs.Graph.Ownership
import TensorGraph.Proofs.Machine.Provenance
import TensorGraph.Proofs.Literal.Integers
import TensorGraph.Proofs.Kernel.Aliasing
import TensorGraph.Proofs.Kernel.Pointwise
import TensorGraph.Proofs.Kernel.Products
import TensorGraph.Proofs.Kernel.Sliding
import TensorGraph.Proofs.Graph.DelayLine
import TensorGraph.Proofs.Graph.Recurrence
import TensorGraph.Proofs.Graph.Planes

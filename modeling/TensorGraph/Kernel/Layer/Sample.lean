/-
Activation functions at single points.
-/

import TensorGraph.Kernel.Host
import TensorGraph.Kernel.Layer.Activation

namespace TensorGraph.ActivationFunction

def applyAt (function : ActivationFunction) (point : Literal) : Host Unit Literal := do
  let result ← function.apply (← Scalar.constant point)
  Host.readLiteral result.value

/-- The function applied to elements one after another, and the number of scalar
operations that this takes. -/
def sample (function : ActivationFunction) (points : List Literal) :
    Except Fault (List Literal × Nat) :=
  let start : HostState Unit :=
    { heap := Heap.empty
      operations := 0
      scratch := () }
  match (points.mapM (applyAt function)).run start with
  | .ok results final => .ok (results, final.operations)
  | .error fault _ => .error fault

end TensorGraph.ActivationFunction

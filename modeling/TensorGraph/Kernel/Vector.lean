/-
Vectors.

A vector is a rank-one view of a value.  Views share memory with the value they
were made from, so a write through any of them is seen by all.
-/

import TensorGraph.Kernel.Elementwise

namespace TensorGraph

/-- A value with one dimension, stored along `axis`. -/
structure Vector where
  value : Value
  dtype : DType
  axis : Axis
  typed : value.dtype? = some dtype
  rankOne : value.layout?.map Layout.axes = some [axis]

namespace Vector

def ofValue (value : Value) : Except Error Vector :=
  match value.ready with
  | .error cause => .error cause
  | .ok layout =>
      match layout.axes with
      | [axis] =>
          match typed : value.dtype? with
          | some dtype =>
              if rankOne : value.layout?.map Layout.axes = some [axis] then
                .ok
                  { value := value
                    dtype := dtype
                    axis := axis
                    typed := typed
                    rankOne := rankOne }
              else
                .error (.invalidArgument "value has no layout")
          | none => .error (.invalidArgument "value has no element type")
      | axes =>
          .error (.invalidArgument ("vector requires a rank-1 value, got rank " ++
            toString axes.length))

def size (vector : Vector) : Nat :=
  vector.axis.size

/-- Distance in elements between neighbours. -/
def increment (vector : Vector) : Nat :=
  vector.axis.increment

variable {m : Type → Type} [Kernel m]

/-- The element at an index; an index that is known already is checked. -/
def element (vector : Vector) (index : Scalar) : m Scalar := do
  index.checkBelow vector.size
  Kernel.element vector.value [index]

/-- `size` elements from `start` on do not reach past the end, as far as `start` is known
already. -/
def checkPart (vector : Vector) (start : Scalar) (size : Nat) : m Unit := do
  let reach := ((← start.knownPosition).getD 0) + size
  if reach > vector.size then
    Kernel.fail (.indexOutOfRange reach vector.size)
  else
    pure ()

/-- `size` elements from `start` on.  An empty part never reads its base, so it keeps
the base of the whole. -/
def part (vector : Vector) (start : Scalar) (size : Nat) : m Vector := do
  vector.checkPart start size
  let layout ← Kernel.ofExcept (do (← vector.value.layout).resized [size])
  let base ← if size = 0 then pure vector.value else Kernel.offset vector.value [start]
  Kernel.ofExcept (ofValue (← Kernel.withLayout base layout))

def copy (vector : Vector) : m Vector := do
  Kernel.ofExcept (ofValue (← Kernel.copy vector.value))

def assign (target source : Vector) : m Unit :=
  Kernel.assign target.value source.value

def fill (target : Vector) (scalar : Scalar) : m Unit :=
  Kernel.fill target.value scalar

/-- Every element combined with that of another vector, in place. -/
def combine (op : BinaryOp) (target source : Vector) : m Unit :=
  Kernel.elementwise target.value source.value op

/-- Every element combined with one scalar, in place. -/
def combineScalar (op : BinaryOp) (target : Vector) (scalar : Scalar) : m Unit :=
  Kernel.elementwiseScalar target.value scalar op

/-- A new vector of the elements of two vectors combined. -/
def combined (op : BinaryOp) (left right : Vector) : m Vector := do
  Kernel.ofExcept (Kernel.checkCompatible left.value right.value)
  let result ← left.copy
  combine op result right
  return result

/-- The sum of the products of the elements, folded from zero in order. -/
def dot (left right : Vector) : m Scalar := do
  Kernel.ofExcept (Kernel.checkCompatible left.value right.value)
  let total ← Kernel.cell left.dtype
  total.assign (← Scalar.constant (.zero left.dtype))
  Kernel.forRange 0 left.size 1 fun index => do
    let first ← Kernel.element left.value [index]
    let second ← Kernel.element right.value [index]
    let product ← first.binary .mul second
    total.assign (← total.binary .add product)
  return total

end Vector
end TensorGraph

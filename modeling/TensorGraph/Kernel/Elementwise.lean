/-
Elementwise kernels.

`forEach` visits every coordinate of a layout, the last dimension moving
fastest.  The other kernels visit the elements of one value and of a second one
of the same logical sizes, however the two are laid out.
-/

import TensorGraph.Kernel.Basic

namespace TensorGraph.Kernel

variable {m : Type → Type} [Kernel m]

/-- Visits the coordinates that extend `outer` by the given sizes. -/
def visit : List Nat → List Scalar → (List Scalar → m Unit) → m Unit
  | [], outer, body => body outer
  | size :: inner, outer, body =>
      forRange 0 size 1 fun index => visit inner (outer ++ [index]) body

/-- Runs `body` at every coordinate of the active region. -/
def forEach (layout : Layout) (body : List Scalar → m Unit) : m Unit :=
  visit layout.logicalSizes [] body

/-- A value with a layout attached. -/
def withLayout (value : Value) (layout : Layout) : m Value :=
  read fun heap => value.withLayout layout heap

/-- The element at the given coordinates. -/
def element (value : Value) (coordinates : List Scalar) : m Scalar := do
  let addressed ← offset value coordinates
  ofExcept (Scalar.ofValue (← withLayout addressed Layout.scalar))

/-- A scalar in fresh memory, with the value zero. -/
def cell (dtype : DType) : m Scalar := do
  ofExcept (Scalar.ofValue (← allocate dtype Layout.scalar))

/-- Both values are ready, of one shape and of one type; the shape is compared
first. -/
def checkCompatible (target source : Value) : Except Error Unit := do
  let targetSizes := (← target.ready).logicalSizes
  let sourceSizes := (← source.ready).logicalSizes
  if targetSizes ≠ sourceSizes then
    throw (.sizeMismatch targetSizes sourceSizes)
  let targetType ← target.dtype
  let sourceType ← source.dtype
  if targetType ≠ sourceType then
    throw (.dtypes targetType sourceType)

/-- Every element of `target` combined with that of `source`. -/
def elementwise (target source : Value) (op : BinaryOp) : m Unit := do
  ofExcept (checkCompatible target source)
  forEach (← ofExcept target.layout) fun coordinates => do
    let old ← element target coordinates
    let other ← element source coordinates
    old.assign (← old.binary op other)

/-- Every element of `target` combined with one scalar. -/
def elementwiseScalar (target : Value) (scalar : Scalar) (op : BinaryOp) : m Unit := do
  let layout ← ofExcept target.ready
  let dtype ← ofExcept target.dtype
  if dtype ≠ scalar.dtype then
    fail (.dtypes dtype scalar.dtype)
  forEach layout fun coordinates => do
    let old ← element target coordinates
    old.assign (← old.binary op scalar)

def mapUnary (target : Value) (op : UnaryOp) : m Unit := do
  forEach (← ofExcept target.ready) fun coordinates => do
    let old ← element target coordinates
    old.assign (← old.unary op)

/-- Every element of `target` overwritten by that of `source`. -/
def assign (target source : Value) : m Unit := do
  ofExcept (checkCompatible target source)
  forEach (← ofExcept target.layout) fun coordinates => do
    let old ← element target coordinates
    old.assign (← element source coordinates)

def fill (target : Value) (scalar : Scalar) : m Unit := do
  forEach (← ofExcept target.ready) fun coordinates => do
    (← element target coordinates).assign scalar

/-- The elements in fresh compact memory. -/
def copy (source : Value) : m Value := do
  let layout ← ofExcept source.ready
  let target ← allocate (← ofExcept source.dtype) layout.compact
  assign target source
  return target

end TensorGraph.Kernel

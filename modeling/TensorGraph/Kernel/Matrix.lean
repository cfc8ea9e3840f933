/-
Matrices.

A matrix is a rank-two view of a value.  Logical dimension zero is the rows and
one the columns, in whatever order memory holds them.  Rows, columns and blocks
share memory with the matrix.
-/

import TensorGraph.Kernel.Vector

namespace TensorGraph

structure Matrix where
  value : Value
  dtype : DType
  layout : Layout
  typed : value.dtype? = some dtype
  placed : value.layout? = some layout
  rankTwo : layout.rank = 2

namespace Matrix

def ofValue (value : Value) : Except Error Matrix :=
  match value.ready with
  | .error cause => .error cause
  | .ok layout =>
      if rankTwo : layout.rank = 2 then
        match typed : value.dtype? with
        | some dtype =>
            if placed : value.layout? = some layout then
              .ok
                { value := value
                  dtype := dtype
                  layout := layout
                  typed := typed
                  placed := placed
                  rankTwo := rankTwo }
            else
              .error (.invalidArgument "value has no layout")
        | none => .error (.invalidArgument "value has no element type")
      else
        .error (.invalidArgument ("matrix requires a rank-2 value, got rank " ++
          toString layout.rank))

def side (matrix : Matrix) (logical : Nat) : Nat :=
  ((matrix.layout.axisOf? logical).map Axis.size).getD 0

def rows (matrix : Matrix) : Nat :=
  matrix.side 0

def columns (matrix : Matrix) : Nat :=
  matrix.side 1

/-- A matrix of fresh host memory from its elements row by row. -/
def ofRows (dtype : DType) (rows columns : Nat) (data : List Float) : Action Heap Matrix :=
  if data.length ≠ rows * columns then
    throw (.error (.sizeMismatch [rows, columns] [data.length]))
  else do
    let value ← Value.ofStorage (Storage.ofFloats dtype data.toArray)
      (Layout.packed [rows, columns])
    Action.ofExcept (ofValue value)

def get (matrix : Matrix) (row column : Nat) (heap : Heap) : Except Error Literal :=
  matrix.value.get [row, column] heap

variable {m : Type → Type} [Kernel m]

def allocate (dtype : DType) (rows columns : Nat) : m Matrix := do
  let value ← Kernel.allocate dtype (Layout.packed [rows, columns])
  Kernel.ofExcept (ofValue value)

def element (matrix : Matrix) (row column : Scalar) : m Scalar := do
  row.checkBelow matrix.rows
  column.checkBelow matrix.columns
  Kernel.element matrix.value [row, column]

/-- The vector left when one logical dimension is fixed at `index`. -/
def line (matrix : Matrix) (logical : Nat) (size : Nat) (index : Scalar) : m Vector := do
  index.checkBelow size
  let sliced ← Kernel.ofExcept (do
    matrix.layout.slice (← matrix.layout.physicalDimension logical))
  let zero ← Scalar.index 0
  let base ← Kernel.offset matrix.value (if logical = 0 then [index, zero] else [zero, index])
  Kernel.ofExcept (Vector.ofValue (← Kernel.withLayout base sliced))

def row (matrix : Matrix) (index : Scalar) : m Vector :=
  matrix.line 0 matrix.rows index

def column (matrix : Matrix) (index : Scalar) : m Vector :=
  matrix.line 1 matrix.columns index

/-- The block of `rows` by `columns` whose first element is at `row` and `column`.  An
empty block keeps the base of the whole. -/
def part (matrix : Matrix) (row column rows columns : Nat) : m Matrix := do
  if row + rows > matrix.rows then
    Kernel.fail (.indexOutOfRange (row + rows) matrix.rows)
  if column + columns > matrix.columns then
    Kernel.fail (.indexOutOfRange (column + columns) matrix.columns)
  let layout ← Kernel.ofExcept (matrix.layout.resized [rows, columns])
  let base ←
    if rows = 0 || columns = 0 then
      pure matrix.value
    else
      Kernel.offset matrix.value [← Scalar.index row, ← Scalar.index column]
  Kernel.ofExcept (ofValue (← Kernel.withLayout base layout))

def copy (matrix : Matrix) : m Matrix := do
  Kernel.ofExcept (ofValue (← Kernel.copy matrix.value))

def assign (target source : Matrix) : m Unit :=
  Kernel.assign target.value source.value

/-- Every element combined with that of another matrix, in place. -/
def combine (op : BinaryOp) (target source : Matrix) : m Unit :=
  Kernel.elementwise target.value source.value op

/-- Every element combined with one scalar, in place. -/
def combineScalar (op : BinaryOp) (target : Matrix) (scalar : Scalar) : m Unit :=
  Kernel.elementwiseScalar target.value scalar op

/-- A new matrix of the elements of two matrices added. -/
def added (left right : Matrix) : m Matrix := do
  Kernel.ofExcept (Kernel.checkCompatible left.value right.value)
  let result ← left.copy
  combine .add result right
  return result

/-- `target` becomes the product of the matrix and `source`. -/
def multiply (matrix : Matrix) (source target : Vector) : m Unit := do
  if source.size ≠ matrix.columns || target.size ≠ matrix.rows then
    Kernel.fail (.sizeMismatch [matrix.rows, matrix.columns] [target.size, source.size])
  if source.dtype ≠ matrix.dtype then
    Kernel.fail (.dtypes matrix.dtype source.dtype)
  if target.dtype ≠ matrix.dtype then
    Kernel.fail (.dtypes matrix.dtype target.dtype)
  Kernel.forRange 0 matrix.rows 1 fun index => do
    let product ← (← matrix.row index).dot source
    (← target.element index).assign product

end Matrix
end TensorGraph

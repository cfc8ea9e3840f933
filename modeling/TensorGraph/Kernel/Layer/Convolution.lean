/-
Convolutions.

The input has rows, columns and channels; the weights have filters, rows,
columns and channels.  The input is copied into memory whose layout carries the
zero border as padding, so the filter slides over the whole of that memory and
no bound is tested in the inner loop.
-/

import TensorGraph.Kernel.Elementwise

namespace TensorGraph.Kernel

variable {m : Type → Type} [Kernel m]

/-- Sizes of a convolution. -/
structure ConvolutionShape where
  rows : Nat
  columns : Nat
  channels : Nat
  kernel : Nat
  stride : Nat
  padding : Nat
  deriving DecidableEq, Repr

/-- The positions of a window in the input, from its index and the coordinates in it. -/
def position (origin offset : Scalar) : m Scalar :=
  origin.binary .add offset

/-- Adds the product at one place of a window to `total`. -/
def convolveTerm (weights full : Value) (filter row column total : Scalar) :
    List Scalar → m Unit
  | [di, dj, channel] => do
      let r ← position row di
      let c ← position column dj
      let x ← element full [r, c, channel]
      let weight ← element weights [filter, di, dj, channel]
      let product ← x.binary .mul weight
      total.assign (← total.binary .add product)
  | _ => pure ()

/-- The element of the output at some coordinates. -/
def convolveAt (shape : ConvolutionShape) (dtype : DType) (stride : Scalar)
    (weights full output : Value) (coordinates : List Scalar) : m Unit :=
  match coordinates with
  | [i, j, filter] => do
      let total ← cell dtype
      total.assign (← Scalar.constant (.zero dtype))
      let row ← i.binary .mul stride
      let column ← j.binary .mul stride
      forEach (Layout.packed [shape.kernel, shape.kernel, shape.channels])
        (convolveTerm weights full filter row column total)
      (← element output coordinates).assign total
  | _ => pure ()

/-- `output[i, j, f]` is the sum over `di`, `dj` and `c`, from zero and in this order, of
`padded[i * stride + di, j * stride + dj, c] * weights[f, di, dj, c]`. -/
def convolve (shape : ConvolutionShape) (weights input output : Value) : m Unit := do
  let dtype ← ofExcept input.dtype
  let extents :=
    [shape.rows + 2 * shape.padding, shape.columns + 2 * shape.padding, shape.channels]
  let interior ← ofExcept (Layout.padded [shape.rows, shape.columns, shape.channels] extents
    [shape.padding, shape.padding, 0])
  let bordered ← allocate dtype interior
  assign bordered input
  let full ← withLayout bordered (Layout.packed extents)
  let stride ← Scalar.index shape.stride
  forEach (← ofExcept output.layout) (convolveAt shape dtype stride weights full output)

end TensorGraph.Kernel

/-
Archived buffers.

A buffer is kept as its element type and its memory image in hexadecimal, so
every element of every type reads back as it was.
-/

import TensorGraph.Archive.Fields
import TensorGraph.Hex

namespace TensorGraph

structure BufferRecord where
  dtype : DType
  data : String
  deriving DecidableEq, Repr

namespace BufferRecord

def ofStorage (storage : Storage) : BufferRecord :=
  { dtype := storage.dtype
    data := Hex.encode storage.bytes }

def toStorage (buffer : BufferRecord) : Except Error Storage := do
  let image ← Hex.decode buffer.data
  if image.length % buffer.dtype.width ≠ 0 then
    throw (.archive (toString image.length ++ " bytes do not hold a whole number of " ++
      buffer.dtype.name ++ " elements"))
  Storage.ofBytes buffer.dtype image

def document (buffer : BufferRecord) : Json :=
  .object [("dtype", .string buffer.dtype.name), ("data", .string buffer.data)]

/-- The document inside a field, where names are sorted. -/
def fieldDocument (buffer : BufferRecord) : Json :=
  .object [("data", .string buffer.data), ("dtype", .string buffer.dtype.name)]

def ofDocument? (document : Json) : Option BufferRecord :=
  match document.record? ["dtype", "data"] 2 with
  | some [some dtype, some data] => do
      return { dtype := ← DType.ofDocument? dtype
               data := ← data.text? }
  | _ => none

end BufferRecord
end TensorGraph

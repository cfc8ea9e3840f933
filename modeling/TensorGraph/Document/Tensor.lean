/-
Documents of elements, storages and layouts.

Elements and numbers are strings, so that every bit of them survives; a reader
also takes plain numbers and truth values.
-/

import TensorGraph.Document.Reader
import TensorGraph.Hex
import TensorGraph.Layout.View
import TensorGraph.Storage

namespace TensorGraph.Document

def asNumber : Json → Reading Float
  | .real value => .ok value
  | .integer value => .ok (Float.ofInt value)
  | .string text =>
      match Literal.readDouble? text.toList with
      | some value => .ok value
      | none => malformed ("number " ++ text)
  | _ => malformed "number"

def asNumbers (document : Json) : Reading (List Float) := do
  (← asArray document).mapM asNumber

def asDType (document : Json) : Reading DType := do
  match DType.ofName? (← asString document) with
  | some dtype => .ok dtype
  | none => malformed "dtype"

def asLiteral (document : Json) : Reading Literal := do
  let text ← asString document
  match Literal.read? text with
  | some literal => .ok literal
  | none => malformed ("literal " ++ text)

def asBinaryOp (document : Json) : Reading BinaryOp := do
  match BinaryOp.ofName? (← asString document) with
  | some op => .ok op
  | none => malformed "operation"

def asUnaryOp (document : Json) : Reading UnaryOp := do
  match UnaryOp.ofName? (← asString document) with
  | some op => .ok op
  | none => malformed "operation"

def asCompareOp (document : Json) : Reading CompareOp := do
  match CompareOp.ofName? (← asString document) with
  | some op => .ok op
  | none => malformed "operation"

def asElements (dtype : DType) (document : Json) : Reading Storage := do
  let cells ← (← asArray document).mapM fun item => do
    let text ← scalarText item
    match Literal.readElement? dtype text with
    | some literal => .ok literal
    | none => malformed ("element " ++ text)
  match Storage.ofLiterals? dtype cells.toArray with
  | some storage => .ok storage
  | none => malformed "elements"

def asBytes (document : Json) : Reading (List UInt8) := do
  lift (Hex.decode (← asString document))

/-- A storage: its elements, or another way to make it. -/
def asBuffer (document : Json) : Reading Storage := do
  let dtype ← asDType (← field document "dtype")
  match ← option document "from" asString with
  | none => asElements dtype (← field document "data")
  | some "zeros" => return Storage.zeros dtype (← natField document "len")
  | some "f64" => return Storage.ofFloats dtype (← asNumbers (← field document "data")).toArray
  | some "bytes" => lift (Storage.ofBytes dtype (← asBytes (← field document "bytes")))
  | some _ => malformed "storage"

def asLayout : Json → Reading Layout
  | .array sizes => do return Layout.packed (← sizes.mapM asNat)
  | document => do
      match ← stringField document "kind" with
      | "new" => return Layout.packed (← natList (← field document "sizes"))
      | "scalar" => return Layout.scalar
      | "padding" =>
          lift (Layout.padded (← natList (← field document "sizes"))
            (← natList (← field document "extents")) (← natList (← field document "offsets")))
      | "order" =>
          lift (Layout.reordered (← natList (← field document "sizes"))
            (← natList (← field document "extents")) (← natList (← field document "offsets"))
            (← natList (← field document "order")))
      | "column_major" =>
          return Layout.columnMajor (← natField document "rows") (← natField document "cols")
      | _ => malformed "layout"

/-! ### Writing -/

def ofNumber (floats : FloatText) (value : Float) : Json :=
  .string (floats.double value)

def ofNumbers (floats : FloatText) (values : List Float) : Json :=
  .array (values.map (ofNumber floats))

def ofRows (floats : FloatText) (rows : List (List Float)) : Json :=
  .array (rows.map (ofNumbers floats))

def ofLiteral (floats : FloatText) (literal : Literal) : Json :=
  .string (literal.text floats)

def ofElements (floats : FloatText) (storage : Storage) : Json :=
  .array (storage.cells.toList.map fun cell => .string (cell.elementText floats))

def ofStorage (floats : FloatText) (storage : Storage) : Json :=
  .object [("dtype", .string storage.dtype.name), ("data", ofElements floats storage)]

def ofLayout (layout : Layout) : Json :=
  .object
    [("rank", .nat layout.rank),
     ("sizes", .nats layout.sizes),
     ("extents", .nats layout.extents),
     ("offsets", .nats layout.offsets),
     ("increments", .nats layout.increments),
     ("order", .nats layout.order),
     ("logical", .nats layout.logicalSizes),
     ("elements", .nat layout.elementCount),
     ("memory", .nat layout.memorySize),
     ("span", .nat layout.span),
     ("contiguous", .bool layout.isContiguous)]

end TensorGraph.Document

/-
Storage.

A storage is a flat row of elements of one type, addressed by position.  It
knows nothing of layouts.  Every operation keeps the elements typed, so the
type tag of a storage is a fact about its cells.
-/

import TensorGraph.Literal.Bytes

namespace TensorGraph

structure Storage where
  dtype : DType
  cells : Array Literal
  typed : ∀ cell ∈ cells, cell.dtype = dtype

namespace Storage

instance : Inhabited Storage where
  default :=
    { dtype := .bool
      cells := #[]
      typed := by simp }

theorem ext_cells {left right : Storage} (sameType : left.dtype = right.dtype)
    (sameCells : left.cells = right.cells) : left = right := by
  cases left
  cases right
  cases sameType
  cases sameCells
  rfl

instance : DecidableEq Storage := fun left right =>
  if equal : left.dtype = right.dtype ∧ left.cells = right.cells then
    .isTrue (ext_cells equal.1 equal.2)
  else
    .isFalse fun same => equal (same ▸ ⟨rfl, rfl⟩)

/-! ### Construction -/

def zeros (dtype : DType) (size : Nat) : Storage :=
  { dtype := dtype
    cells := Array.replicate size (.zero dtype)
    typed := by
      intro cell member
      rw [(Array.mem_replicate.mp member).2, Literal.dtype_zero] }

def ofFloats (dtype : DType) (data : Array Float) : Storage :=
  { dtype := dtype
    cells := data.map (Literal.ofFloat dtype)
    typed := by
      intro cell member
      obtain ⟨value, _, rfl⟩ := Array.mem_map.mp member
      exact Literal.dtype_ofFloat dtype value }

def singleton (literal : Literal) : Storage :=
  { dtype := literal.dtype
    cells := #[literal]
    typed := by simp }

/-- The storage of some literals of one type; `none` when a literal has another
type. -/
def ofLiterals? (dtype : DType) (cells : Array Literal) : Option Storage :=
  if typed : ∀ cell ∈ cells, cell.dtype = dtype then
    some
      { dtype := dtype
        cells := cells
        typed := typed }
  else
    none

/-! ### Reading and writing -/

def size (storage : Storage) : Nat :=
  storage.cells.size

def isEmpty (storage : Storage) : Bool :=
  storage.size == 0

def get (storage : Storage) (index : Nat) : Except Error Literal :=
  if within : index < storage.cells.size then
    .ok storage.cells[index]
  else
    .error (.indexOutOfRange index storage.size)

/-- One element replaced.  The position is checked before the type. -/
def set (storage : Storage) (index : Nat) (literal : Literal) : Except Error Storage :=
  if within : index < storage.cells.size then
    if sameType : literal.dtype = storage.dtype then
      .ok
        { dtype := storage.dtype
          cells := storage.cells.set index literal
          typed := by
            intro cell member
            rcases Array.mem_or_eq_of_mem_set member with old | new
            · exact storage.typed cell old
            · rw [new, sameType] }
    else
      .error (.dtypes storage.dtype literal.dtype)
  else
    .error (.indexOutOfRange index storage.size)

/-- The cells from `start` on replaced by `items`. -/
def overwritten (cells items : Array Literal) (start : Nat) : Array Literal :=
  cells.extract 0 start ++ items ++ cells.extract (start + items.size) cells.size

private theorem mem_of_mem_extract {cells : Array Literal} {start stop : Nat} {cell : Literal}
    (member : cell ∈ cells.extract start stop) : cell ∈ cells := by
  obtain ⟨index, _, rfl⟩ := Array.mem_extract_iff_getElem.mp member
  exact Array.getElem_mem _

private theorem mem_overwritten {cells items : Array Literal} {start : Nat} {cell : Literal}
    (member : cell ∈ overwritten cells items start) : cell ∈ cells ∨ cell ∈ items := by
  simp only [overwritten, Array.mem_append] at member
  rcases member with (front | item) | back
  · exact .inl (mem_of_mem_extract front)
  · exact .inr item
  · exact .inl (mem_of_mem_extract back)

private theorem typed_overwritten (storage other : Storage)
    (sameType : other.dtype = storage.dtype) (source target count : Nat) :
    ∀ cell ∈ overwritten storage.cells (other.cells.extract source (source + count)) target,
      cell.dtype = storage.dtype := by
  intro cell member
  rcases mem_overwritten member with old | new
  · exact storage.typed cell old
  · rw [other.typed cell (mem_of_mem_extract new), sameType]

/-- Elements read at some places, one after the other, and written to successive positions
of `target` from `index` on. -/
def gather (source : Storage) : Nat → List Nat → Storage → Except Error Storage
  | _, [], target => .ok target
  | index, place :: places, target => do
      let element ← source.get place
      source.gather (index + 1) places (← target.set index element)

/-- `count` elements moved from position `source` to position `target`.  The two
ranges may overlap: all elements are read before the first is written. -/
def copyWithin (storage : Storage) (source target count : Nat) : Except Error Storage :=
  if source + count > storage.size || target + count > storage.size then
    .error (.indexOutOfRange (max source target + count) storage.size)
  else
    .ok
      { dtype := storage.dtype
        cells := overwritten storage.cells (storage.cells.extract source (source + count)) target
        typed := typed_overwritten storage storage rfl source target count }

/-- `count` elements copied from position `source` of another storage of the same
type to position `target`. -/
def copyFrom (storage : Storage) (target : Nat) (other : Storage) (source count : Nat) :
    Except Error Storage :=
  if sameType : other.dtype = storage.dtype then
    if source + count > other.size || target + count > storage.size then
      .error (.indexOutOfRange (max (source + count) (target + count))
        (min storage.size other.size))
    else
      .ok
        { dtype := storage.dtype
          cells := overwritten storage.cells (other.cells.extract source (source + count)) target
          typed := typed_overwritten storage other sameType source target count }
  else
    .error (.dtypes storage.dtype other.dtype)

def cleared (storage : Storage) : Storage :=
  zeros storage.dtype storage.size

def toFloats (storage : Storage) : Array Float :=
  storage.cells.map Literal.toFloat

/-- Two storages of one type whose elements compare as equal place by place. -/
def same (left right : Storage) : Bool :=
  left.dtype = right.dtype && left.size == right.size &&
    (left.cells.zip right.cells).all fun pair => pair.1.same pair.2

/-! ### Memory images -/

def bytes (storage : Storage) : List UInt8 :=
  storage.cells.toList.flatMap Literal.bytes

/-- The elements whose images are the successive groups of `width` bytes. -/
def groups (width : Nat) (positive : 0 < width) (source : List UInt8) : List (List UInt8) :=
  if source.isEmpty then
    []
  else
    source.take width :: groups width positive (source.drop width)
termination_by source.length
decreasing_by
  rename_i nonempty
  have : source ≠ [] := by simpa using nonempty
  have := List.length_pos_iff.mpr this
  simp only [List.length_drop]
  omega

/-- The storage whose memory image is `source`. -/
def ofBytes (dtype : DType) (source : List UInt8) : Except Error Storage :=
  if source.length % dtype.width = 0 then
    .ok
      { dtype := dtype
        cells := ((groups dtype.width dtype.width_pos source).map (Literal.ofImage dtype)).toArray
        typed := by
          intro cell member
          simp only [List.mem_toArray, List.mem_map] at member
          obtain ⟨image, _, rfl⟩ := member
          exact Literal.dtype_ofImage dtype image }
  else
    .error (.execution (toString source.length ++ " bytes is not a whole number of " ++
      dtype.name ++ " elements"))

end Storage
end TensorGraph

/-
Documents.

A document is a tree of values in JSON form.  Numbers are integers of sixty-four
bits or floats.  An object keeps its entries in the order in which they stand;
`sorted` puts a tree into the form that does not depend on that order.

A typed part of a document is taken for a value of one type, and is `none` when
it has another form.  `record?` is the form of a value with named parts: an
object, or the parts in their order in an array.
-/

import TensorGraph.Decimal.Notation

namespace TensorGraph

/-- A document.  `unreadable` is a well-formed text that no value stands for: a
number beyond every float, or a string with half a surrogate pair. -/
inductive Json where
  | null
  | bool (value : Bool)
  | integer (value : Int)
  | real (value : Float)
  | string (value : String)
  | array (items : List Json)
  | object (entries : List (String × Json))
  | unreadable
  deriving Inhabited

namespace Json

/-- The value under a key; of two entries with one key the later one counts. -/
def get? : Json → String → Option Json
  | object entries, key =>
      (entries.reverse.find? fun entry => entry.1 == key).map Prod.snd
  | _, _ => none

def nat (value : Nat) : Json :=
  integer value

def strings (values : List String) : Json :=
  array (values.map string)

def nats (values : List Nat) : Json :=
  array (values.map nat)

/-- A value that may be missing; then it is `null`. -/
def optional {α : Type} (value? : Option α) (encode : α → Json) : Json :=
  (value?.map encode).getD null

/-- An entry put into a list sorted by key, in the place of an entry with the same
key. -/
def insertSorted (key : String) (value : Json) :
    List (String × Json) → List (String × Json)
  | [] => [(key, value)]
  | entry :: rest =>
      if key = entry.1 then (key, value) :: rest
      else if key < entry.1 then (key, value) :: entry :: rest
      else entry :: insertSorted key value rest

def eraseKey (key : String) (entries : List (String × Json)) : List (String × Json) :=
  entries.filter fun entry => entry.1 != key

mutual

/-- Number of levels that arrays and objects are nested. -/
def height : Json → Nat
  | array items => itemsHeight items + 1
  | object entries => entriesHeight entries + 1
  | _ => 0

def itemsHeight : List Json → Nat
  | [] => 0
  | item :: rest => max item.height (itemsHeight rest)

def entriesHeight : List (String × Json) → Nat
  | [] => 0
  | (_, value) :: rest => max value.height (entriesHeight rest)

end

mutual

/-- Every object sorted by key, with one entry a key: the last one that stands in
the text.  `none` when the tree has a part without a value, or when it is nested
deeper than `depth`. -/
def sorted? : Nat → Json → Option Json
  | _, unreadable => none
  | 0, array _ => none
  | 0, object _ => none
  | depth + 1, array items => (sortedItems? depth items).map array
  | depth + 1, object entries => (sortedEntries? depth entries []).map object
  | _, other => some other

def sortedItems? (depth : Nat) : List Json → Option (List Json)
  | [] => some []
  | item :: rest => do
      let head ← sorted? depth item
      let tail ← sortedItems? depth rest
      return head :: tail

def sortedEntries? (depth : Nat) :
    List (String × Json) → List (String × Json) → Option (List (String × Json))
  | [], found => some found
  | (key, value) :: rest, found => do
      let value ← sorted? depth value
      sortedEntries? depth rest (insertSorted key value found)

end

/-! ### Typed parts -/

def natural? : Json → Option Nat
  | integer value => if value ≥ 0 then some value.toNat else none
  | _ => none

/-- A number, whether it is written as an integer or not. -/
def number? : Json → Option Float
  | integer value => some (Float.ofInt value)
  | real value => some value
  | _ => none

def text? : Json → Option String
  | string value => some value
  | _ => none

def list? {α : Type} (read : Json → Option α) : Json → Option (List α)
  | array items => items.mapM read
  | _ => none

/-- One of several names, alone or as the only key of an object. -/
def choice? {α : Type} (read : String → Option α) : Json → Option α
  | string name => read name
  | object [(name, null)] => read name
  | _ => none

/-- The parts of a record.  In an object each known name stands at most once and other
names are passed over; in an array the parts after the first `required` may be left
out. -/
def record? (names : List String) (required : Nat) : Json → Option (List (Option Json))
  | array items =>
      if required ≤ items.length && items.length ≤ names.length then
        some ((List.range names.length).map fun position => items[position]?)
      else
        none
  | object entries =>
      if names.all fun name => (entries.filter fun entry => entry.1 == name).length ≤ 1 then
        some (names.map fun name => entries.lookup name)
      else
        none
  | _ => none

/-- A float; one that is not finite has no written form. -/
def ofFloat (value : Float) : Json :=
  if value.isFinite then real value else null

def floats (values : List Float) : Json :=
  array (values.map ofFloat)

end Json
end TensorGraph

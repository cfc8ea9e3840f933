/-
Kernel scripts.

A script is a kernel written down: a list of steps over named variables.  An
expression makes a handle and binds it to a name, a command changes memory, a
query only looks, and loops and branches nest.  Variables are global, so a
binding made inside a loop is seen after it.
-/

import TensorGraph.Kernel.Matrix

namespace TensorGraph.Script

/-- A scalar operand: an index, a constant, or a variable. -/
inductive ScalarRef where
  | index (position : Nat)
  | literal (value : Literal)
  | name (name : String)

/-- A layout as a step gives it; a layout that cannot be built fails when the step
reaches it. -/
abbrev LayoutRef := Except Error Layout

/-- What can be bound to a name. -/
inductive Expression where
  | scalarOf (source : String)
  | vectorOf (source : String)
  | matrixOf (source : String)
  | constant (value : Literal)
  | storage (data : Storage) (layout : LayoutRef)
  | row (data : Storage)
  | undefined
  | view (source : String) (offset : Nat) (layout : LayoutRef)
  | withLayout (source : String) (layout : LayoutRef)
  | clearLayout (source : String)
  | advanced (source : String) (elements : Nat)
  | duplicate (source : String)
  | flatten (source : String)
  | allocate (dtype : DType) (layout : LayoutRef)
  | state (name source : String)
  | offset (source : String) (indices : List ScalarRef)
  | binary (op : BinaryOp) (left right : String)
  | unary (op : UnaryOp) (operand : String)
  | compare (op : CompareOp) (left right : String)
  | cast (operand : String) (dtype : DType)
  | element (source : String) (indices : List ScalarRef)
  | copy (source : String)
  | scalarBinary (op : BinaryOp) (left right : ScalarRef)
  | scalarUnary (op : UnaryOp) (operand : ScalarRef)
  | scalarCompare (op : CompareOp) (left right : ScalarRef)
  | scalarCast (operand : ScalarRef) (dtype : DType)
  | scalarLike (operand : ScalarRef) (number : Float)
  | vectorElement (vector : String) (index : ScalarRef)
  | vectorPart (vector : String) (start : ScalarRef) (size : Nat)
  | vectorCopy (vector : String)
  | vectorCombined (op : BinaryOp) (left right : String)
  | dot (left right : String)
  | matrixAllocate (dtype : DType) (rows columns : Nat)
  | matrixOfRows (dtype : DType) (rows columns : Nat) (data : List Float)
  | matrixElement (matrix : String) (row column : ScalarRef)
  | matrixRow (matrix : String) (index : ScalarRef)
  | matrixColumn (matrix : String) (index : ScalarRef)
  | matrixPart (matrix : String) (row column rows columns : Nat)
  | matrixCopy (matrix : String)
  | matrixAdded (left right : String)

/-- What changes memory.  Each answers with the operand that it changed. -/
inductive Command where
  | set (target : String) (coordinates : List Nat) (value : Literal)
  | setFlat (target : String) (index : Nat) (value : Literal)
  | copyFromStorage (target : String) (data : Storage)
  | copyFromFloats (target : String) (data : List Float)
  | fillZero (target : String)
  | store (target source : String)
  | move (target : String) (targetOffset : Nat) (source : String) (sourceOffset count : Nat)
  | elementwise (target source : String) (op : BinaryOp)
  | elementwiseScalar (target : String) (scalar : ScalarRef) (op : BinaryOp)
  | mapUnary (target : String) (op : UnaryOp)
  | assign (target source : String)
  | fill (target : String) (scalar : ScalarRef)
  | shift (buffer newest : String) (dropped? : Option String)
  | scalarAssign (target source : ScalarRef)
  | vectorFill (target : String) (scalar : ScalarRef)
  | vectorCombineScalar (op : BinaryOp) (target : String) (scalar : ScalarRef)
  | vectorAssign (target source : String)
  | vectorCombine (op : BinaryOp) (target source : String)
  | matrixAssign (target source : String)
  | matrixCombine (op : BinaryOp) (target source : String)
  | matrixCombineScalar (op : BinaryOp) (target : String) (scalar : ScalarRef)
  | multiply (matrix source target : String)

/-- What only looks. -/
inductive Query where
  | shown (source : String)
  | info (source : String)
  | get (source : String) (coordinates : List Nat)
  | getFlat (source : String) (index : Nat)
  | literal (source : String)
  | toFloats (source : String)
  | toElements (source : String) (dtype : DType)
  | toStorage (source : String)
  | sameStorage (left right : String)
  | known (source : String)
  | checkCompatible (target source : String)
  | scalarKnown (operand : ScalarRef)
  | scalarGet (operand : ScalarRef)
  | vectorInfo (vector : String)
  | matrixInfo (matrix : String)
  | matrixGet (matrix : String) (row column : Nat)

inductive Step where
  | bind (name : String) (expression : Expression)
  | command (command : Command)
  | query (query : Query)
  | forRange (start stop step : Nat) (counter : String) (body : List Step)
  | forEach (layout : LayoutRef) (counter : String) (body : List Step)
  | branch (condition : String) (onTrue onFalse : List Step)

end TensorGraph.Script

/-
Failures.

An `Error` is a cause that a caller can meet and handle.  A `Fault` is how a
computation stops early: with an error, with an `abort` that reports a violated
protocol and that no caller handles, or with a name that a script never bound.
-/

import TensorGraph.DType

namespace TensorGraph

/-- Why an operation was refused. -/
inductive Error where
  | invalidArgument (reason : String)
  | sizeMismatch (expected got : List Nat)
  | typeMismatch (expected got : String)
  | indexOutOfRange (index length : Nat)
  | rankMismatch (expected got : Nat)
  | unknownNodeKind (kind : String)
  | archive (reason : String)
  | execution (reason : String)
  | other (reason : String)
  deriving DecidableEq, Repr, Inhabited

/-- A list of sizes as messages show it: `[2, 3]`, and `[]` for rank zero. -/
def sizesText (sizes : List Nat) : String :=
  "[" ++ ", ".intercalate (sizes.map toString) ++ "]"

namespace Error

/-- Two element types that should have been one. -/
def dtypes (expected got : DType) : Error :=
  .typeMismatch expected.name got.name

def message : Error → String
  | invalidArgument reason => "invalid argument: " ++ reason
  | sizeMismatch expected got =>
      "size mismatch: expected " ++ sizesText expected ++ ", got " ++ sizesText got
  | typeMismatch expected got => "type mismatch: expected " ++ expected ++ ", got " ++ got
  | indexOutOfRange index length =>
      "index out of range: index " ++ toString index ++ " for extent " ++ toString length
  | rankMismatch expected got =>
      "rank mismatch: expected rank " ++ toString expected ++ ", got " ++ toString got
  | unknownNodeKind kind => "unknown node kind '" ++ kind ++ "'"
  | archive reason => "archive error: " ++ reason
  | execution reason => "execution error: " ++ reason
  | other reason => reason

end Error

/-- How a computation stops early. -/
inductive Fault where
  | error (cause : Error)
  | abort (message : String)
  | unbound (name : String)
  deriving DecidableEq, Repr, Inhabited

/-- A computation that may stop early and keeps its state when it does. -/
abbrev Action (σ : Type) := EStateM Fault σ

/-- Stops with an error. -/
@[inline]
def Action.fail {σ α : Type} (cause : Error) : Action σ α :=
  throw (.error cause)

/-- Stops with an abort. -/
@[inline]
def Action.abort {σ α : Type} (message : String) : Action σ α :=
  throw (.abort message)

/-- A pure result inside an action. -/
@[inline]
def Action.ofExcept {σ α : Type} (result : Except Error α) : Action σ α :=
  match result with
  | .ok value => pure value
  | .error cause => throw (.error cause)

/-- The state in which an action ends. -/
def Action.last {σ α : Type} : EStateM.Result Fault σ α → σ
  | .ok _ state => state
  | .error _ state => state

/-- What an action answers. -/
def Action.outcome {σ α : Type} : EStateM.Result Fault σ α → Except Fault α
  | .ok answer _ => .ok answer
  | .error fault _ => .error fault

/-- An action on one part of a larger state. -/
@[inline]
def Action.within {σ τ α : Type} (part : σ → τ) (replace : τ → σ → σ) (action : Action τ α) :
    Action σ α := fun state =>
  match action (part state) with
  | .ok answer changed => .ok answer (replace changed state)
  | .error fault changed => .error fault (replace changed state)

end TensorGraph

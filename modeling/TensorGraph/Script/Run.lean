/-
Running kernel scripts.

The interpreter turns a script into a kernel, so a script means whatever the
strategy of that kernel makes of the primitives.  The operands of a step are
looked up before anything else happens, in the order in which they are written.
-/

import TensorGraph.Script.Syntax
import TensorGraph.Kernel.Window

namespace TensorGraph.Script

/-- What a variable holds. -/
inductive Handle where
  | value (value : Value)
  | scalar (scalar : Scalar)
  | vector (vector : Vector)
  | matrix (matrix : Matrix)

def Handle.toValue : Handle → Value
  | value held => held
  | scalar held => held.value
  | vector held => held.value
  | matrix held => held.value

/-- The variables, the latest binding first. -/
structure Environment where
  bindings : List (String × Handle)

def Environment.empty : Environment :=
  { bindings := [] }

def Environment.bind (environment : Environment) (name : String) (handle : Handle) :
    Environment :=
  { bindings := (name, handle) :: environment.bindings.filter fun entry => entry.1 != name }

def Environment.lookup? (environment : Environment) (name : String) : Option Handle :=
  environment.bindings.lookup name

/-- How a handle looks at one moment. -/
inductive Picture where
  | literal (value : Literal)
  | elements (dtype : DType) (sizes : List Nat) (data : Except Error Storage)
  | unconstrained (dtype : DType)
  | emitted (dtype : DType) (register : Nat) (sizes? : Option (List Nat))
  | unbound (sizes? : Option (List Nat))

def Picture.ofValue (value : Value) (heap : Heap) : Picture :=
  let sizes? := value.layout?.map Layout.logicalSizes
  match value.place, value.dtype? with
  | .host _ _, some dtype =>
      match sizes? with
      | some sizes => elements dtype sizes (value.toStorage heap)
      | none => unconstrained dtype
  | .emitted register, some dtype => emitted dtype register sizes?
  | _, _ => unbound sizes?

def Picture.ofHandle (handle : Handle) (heap : Heap) : Picture :=
  match handle with
  | .scalar scalar =>
      match scalar.value.literal heap with
      | .ok value => literal value
      | .error _ => ofValue scalar.value heap
  | other => ofValue other.toValue heap

/-- What a step answers with. -/
inductive Answer where
  | done
  | picture (picture : Picture)
  | literal (value : Literal)
  | literal? (value? : Option Literal)
  | numbers (values : List Float)
  | elements (values : List Literal)
  | storage (storage : Storage)
  | truth (value : Bool)
  | info (value : Value)
  | vector (size : Nat) (dtype : DType) (increment : Nat)
  | matrix (rows columns : Nat) (dtype : DType)
  | shifted (buffer : Picture) (dropped? : Option Picture)

variable {m : Type → Type} [Kernel m] [MonadStateOf Environment m]

def unbound {α : Type} (name : String) : m α :=
  Kernel.onHost (throw (.unbound name))

/-! ### Operands -/

def handleOf (name : String) : m Handle := do
  match (← getThe Environment).lookup? name with
  | some handle => pure handle
  | none => unbound name

def valueOf (name : String) : m Value :=
  Handle.toValue <$> handleOf name

def vectorNamed (name : String) : m Vector := do
  match ← handleOf name with
  | .vector vector => pure vector
  | _ => unbound name

def matrixNamed (name : String) : m Matrix := do
  match ← handleOf name with
  | .matrix matrix => pure matrix
  | _ => unbound name

def scalarOf (reference : ScalarRef) : m Scalar := do
  match reference with
  | .index position => Scalar.index position
  | .literal value => Scalar.constant value
  | .name name =>
      match ← handleOf name with
      | .scalar scalar => pure scalar
      | _ => unbound name

def scalarsOf : List ScalarRef → m (List Scalar)
  | [] => pure []
  | reference :: rest => do
      let scalar ← scalarOf reference
      return scalar :: (← scalarsOf rest)

/-! ### Single steps -/

private def view (source : Value) (offset : Nat) (layout : Layout) : m Value :=
  Kernel.read fun heap => do
    let (storage, base) ← source.host
    Value.ofShared storage (base + offset) layout heap

/-- The handle that an expression makes. -/
def evaluate : Expression → m Handle
  | .scalarOf source => do
      let value ← valueOf source
      .scalar <$> Kernel.ofExcept (Scalar.ofValue value)
  | .vectorOf source => do
      let value ← valueOf source
      .vector <$> Kernel.ofExcept (Vector.ofValue value)
  | .matrixOf source => do
      let value ← valueOf source
      .matrix <$> Kernel.ofExcept (Matrix.ofValue value)
  | .constant value => .scalar <$> Scalar.constant value
  | .storage data layout => do
      let layout ← Kernel.ofExcept layout
      .value <$> Kernel.onHost (Value.ofStorage data layout)
  | .row data => .value <$> Kernel.onHost (Value.ofRow data)
  | .undefined => pure (.value Value.undefined)
  | .view source offset layout => do
      let value ← valueOf source
      .value <$> view value offset (← Kernel.ofExcept layout)
  | .withLayout source layout => do
      let value ← valueOf source
      .value <$> Kernel.withLayout value (← Kernel.ofExcept layout)
  | .clearLayout source => do return .value (← valueOf source).clearLayout
  | .advanced source elements => do
      let value ← valueOf source
      .value <$> Kernel.read (value.advanced elements)
  | .duplicate source => do
      let value ← valueOf source
      .value <$> Kernel.onHost value.duplicate
  | .flatten source => do
      let value ← valueOf source
      .value <$> Kernel.read value.flatten
  | .allocate dtype layout => do
      .value <$> Kernel.allocate dtype (← Kernel.ofExcept layout)
  | .state name source => do
      let value ← valueOf source
      .value <$> Kernel.state name value
  | .offset source indices => do
      let value ← valueOf source
      .value <$> Kernel.offset value (← scalarsOf indices)
  | .binary op left right => do
      let left ← valueOf left
      .value <$> Kernel.binary op left (← valueOf right)
  | .unary op operand => do .value <$> Kernel.unary op (← valueOf operand)
  | .compare op left right => do
      let left ← valueOf left
      .value <$> Kernel.compare op left (← valueOf right)
  | .cast operand dtype => do
      let value ← valueOf operand
      .value <$> Kernel.cast value dtype
  | .element source indices => do
      let value ← valueOf source
      .scalar <$> Kernel.element value (← scalarsOf indices)
  | .copy source => do .value <$> Kernel.copy (← valueOf source)
  | .scalarBinary op left right => do
      let left ← scalarOf left
      .scalar <$> left.binary op (← scalarOf right)
  | .scalarUnary op operand => do .scalar <$> (← scalarOf operand).unary op
  | .scalarCompare op left right => do
      let left ← scalarOf left
      .scalar <$> left.compare op (← scalarOf right)
  | .scalarCast operand dtype => do .scalar <$> (← scalarOf operand).cast dtype
  | .scalarLike operand number => do .scalar <$> (← scalarOf operand).like number
  | .vectorElement vector index => do
      let vector ← vectorNamed vector
      .scalar <$> vector.element (← scalarOf index)
  | .vectorPart vector start size => do
      let vector ← vectorNamed vector
      .vector <$> vector.part (← scalarOf start) size
  | .vectorCopy vector => do .vector <$> (← vectorNamed vector).copy
  | .vectorCombined op left right => do
      let left ← vectorNamed left
      .vector <$> Vector.combined op left (← vectorNamed right)
  | .dot left right => do
      let left ← vectorNamed left
      .scalar <$> left.dot (← vectorNamed right)
  | .matrixAllocate dtype rows columns => .matrix <$> Matrix.allocate dtype rows columns
  | .matrixOfRows dtype rows columns data =>
      .matrix <$> Kernel.onHost (Matrix.ofRows dtype rows columns data)
  | .matrixElement matrix row column => do
      let matrix ← matrixNamed matrix
      let row ← scalarOf row
      .scalar <$> matrix.element row (← scalarOf column)
  | .matrixRow matrix index => do
      let matrix ← matrixNamed matrix
      .vector <$> matrix.row (← scalarOf index)
  | .matrixColumn matrix index => do
      let matrix ← matrixNamed matrix
      .vector <$> matrix.column (← scalarOf index)
  | .matrixPart matrix row column rows columns => do
      let matrix ← matrixNamed matrix
      .matrix <$> matrix.part row column rows columns
  | .matrixCopy matrix => do .matrix <$> (← matrixNamed matrix).copy
  | .matrixAdded left right => do
      let left ← matrixNamed left
      .matrix <$> left.added (← matrixNamed right)

private def pictured (handle : Handle) : m Answer :=
  Kernel.read fun heap => .ok (.picture (Picture.ofHandle handle heap))

private def afterwards (target : Handle) (change : Value → m Unit) : m Answer := do
  change target.toValue
  pictured target

private def afterwardsVector (target : Vector) (change : m Unit) : m Answer := do
  change
  pictured (.vector target)

private def afterwardsMatrix (target : Matrix) (change : m Unit) : m Answer := do
  change
  pictured (.matrix target)

/-- Carries out a command and answers with the operand that it changed. -/
def perform : Command → m Answer
  | .set target coordinates value => do
      afterwards (← handleOf target) fun target => Kernel.onHost (target.set coordinates value)
  | .setFlat target index value => do
      afterwards (← handleOf target) fun target => Kernel.onHost (target.setFlat index value)
  | .copyFromStorage target data => do
      afterwards (← handleOf target) fun target => Kernel.onHost (target.copyFromStorage data)
  | .copyFromFloats target data => do
      afterwards (← handleOf target) fun target => Kernel.onHost (target.copyFromFloats data)
  | .fillZero target => do
      afterwards (← handleOf target) fun target => Kernel.onHost target.fillZero
  | .store target source => do
      let target ← handleOf target
      let source ← valueOf source
      afterwards target fun target => Kernel.store target source
  | .move target targetOffset source sourceOffset count => do
      let target ← handleOf target
      let source ← valueOf source
      afterwards target fun target => Kernel.move target targetOffset source sourceOffset count
  | .elementwise target source op => do
      let target ← handleOf target
      let source ← valueOf source
      afterwards target fun target => Kernel.elementwise target source op
  | .elementwiseScalar target scalar op => do
      let target ← handleOf target
      let scalar ← scalarOf scalar
      afterwards target fun target => Kernel.elementwiseScalar target scalar op
  | .mapUnary target op => do
      afterwards (← handleOf target) fun target => Kernel.mapUnary target op
  | .assign target source => do
      let target ← handleOf target
      let source ← valueOf source
      afterwards target fun target => Kernel.assign target source
  | .fill target scalar => do
      let target ← handleOf target
      let scalar ← scalarOf scalar
      afterwards target fun target => Kernel.fill target scalar
  | .shift buffer newest dropped? => do
      let buffer ← vectorNamed buffer
      let newest ← vectorNamed newest
      let dropped? ← dropped?.mapM vectorNamed
      Kernel.shift buffer newest dropped?
      Kernel.read fun heap =>
        .ok (.shifted (Picture.ofValue buffer.value heap)
          (dropped?.map fun dropped => Picture.ofValue dropped.value heap))
  | .scalarAssign target source => do
      let target ← scalarOf target
      target.assign (← scalarOf source)
      pictured (.scalar target)
  | .vectorFill target scalar => do
      let target ← vectorNamed target
      let scalar ← scalarOf scalar
      afterwardsVector target (target.fill scalar)
  | .vectorCombineScalar op target scalar => do
      let target ← vectorNamed target
      let scalar ← scalarOf scalar
      afterwardsVector target (Vector.combineScalar op target scalar)
  | .vectorAssign target source => do
      let target ← vectorNamed target
      let source ← vectorNamed source
      afterwardsVector target (target.assign source)
  | .vectorCombine op target source => do
      let target ← vectorNamed target
      let source ← vectorNamed source
      afterwardsVector target (Vector.combine op target source)
  | .matrixAssign target source => do
      let target ← matrixNamed target
      let source ← matrixNamed source
      afterwardsMatrix target (target.assign source)
  | .matrixCombine op target source => do
      let target ← matrixNamed target
      let source ← matrixNamed source
      afterwardsMatrix target (Matrix.combine op target source)
  | .matrixCombineScalar op target scalar => do
      let target ← matrixNamed target
      let scalar ← scalarOf scalar
      afterwardsMatrix target (Matrix.combineScalar op target scalar)
  | .multiply matrix source target => do
      let matrix ← matrixNamed matrix
      let source ← vectorNamed source
      let target ← vectorNamed target
      afterwardsVector target (matrix.multiply source target)

/-- Answers a query. -/
def ask : Query → m Answer
  | .shown source => do pictured (← handleOf source)
  | .info source => do return .info (← valueOf source)
  | .get source coordinates => do
      let value ← valueOf source
      .literal <$> Kernel.read (value.get coordinates)
  | .getFlat source index => do
      let value ← valueOf source
      .literal <$> Kernel.read (value.getFlat index)
  | .literal source => do
      let value ← valueOf source
      .literal <$> Kernel.read value.literal
  | .toFloats source => do
      let value ← valueOf source
      .numbers <$> Kernel.read value.toFloats
  | .toElements source dtype => do
      let value ← valueOf source
      .elements <$> Kernel.read (value.toElements dtype)
  | .toStorage source => do
      let value ← valueOf source
      .storage <$> Kernel.read value.toStorage
  | .sameStorage left right => do
      let left ← valueOf left
      return .truth (left.sameStorage (← valueOf right))
  | .known source => do .literal? <$> Kernel.known (← valueOf source)
  | .checkCompatible target source => do
      let target ← valueOf target
      Kernel.ofExcept (Kernel.checkCompatible target (← valueOf source))
      return .done
  | .scalarKnown operand => do .literal? <$> (← scalarOf operand).known
  | .scalarGet operand => do
      let scalar ← scalarOf operand
      .literal <$> Kernel.read scalar.value.literal
  | .vectorInfo vector => do
      let vector ← vectorNamed vector
      return .vector vector.size vector.dtype vector.increment
  | .matrixInfo matrix => do
      let matrix ← matrixNamed matrix
      return .matrix matrix.rows matrix.columns matrix.dtype
  | .matrixGet matrix row column => do
      let matrix ← matrixNamed matrix
      .literal <$> Kernel.read (matrix.get row column)

private def bindScalars (counter : String) (scalars : List Scalar) : m Unit :=
  modifyThe Environment fun environment =>
    (scalars.zipIdx).foldl (fun environment (scalar, dimension) =>
      environment.bind (counter ++ toString dimension) (.scalar scalar)) environment

/-! ### Scripts -/

mutual

/-- Runs one step and answers it. -/
def run : Step → m Answer
  | .bind name expression => do
      let handle ← evaluate expression
      modifyThe Environment fun environment => environment.bind name handle
      pictured handle
  | .command command => perform command
  | .query query => ask query
  | .forRange start stop step counter body => do
      Kernel.forRange start stop step fun index => do
        modifyThe Environment fun environment => environment.bind counter (.scalar index)
        runAll body
      return .done
  | .forEach layout counter body => do
      Kernel.forEach (← Kernel.ofExcept layout) fun indices => do
        bindScalars counter indices
        runAll body
      return .done
  | .branch condition onTrue onFalse => do
      let condition ← valueOf condition
      Kernel.ifElse condition (runAll onTrue) (runAll onFalse)
      return .done

/-- Runs steps for their effect; the first one that fails ends the run. -/
def runAll : List Step → m Unit
  | [] => pure ()
  | step :: rest => do
      let _ ← run step
      runAll rest

end

end TensorGraph.Script

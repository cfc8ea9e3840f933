/-
Tensors and loops on a ground.

A loop hands out positions below its end, so the coordinates of a visit are
inside the layout that it visits.  An element at such coordinates lies in the
storage of every tensor of this layout, however the layout places it.
-/

import TensorGraph.Kernel.Window
import TensorGraph.Proofs.Kernel.Ground.Basic

namespace TensorGraph.Ground

variable {allowed : Fault → Prop} {ground later : Ground allowed} {ρ α β : Type}
  {dtype : DType} {layout : Layout} {value : Value}

/-! ### Coordinates -/

/-- The coordinates are below the sizes. -/
def Within (ground : Ground allowed) (sizes : List Nat) (coordinates : List Scalar) : Prop :=
  ∃ limits, List.Forall₂ (· < ·) limits sizes ∧ List.Forall₂ ground.Names limits coordinates

@[grind →]
theorem Within.mono {sizes : List Nat} {coordinates : List Scalar}
    (within : ground.Within sizes coordinates) (growing : ground.Later later) :
    later.Within sizes coordinates := by
  obtain ⟨limits, below, names⟩ := within
  exact ⟨limits, below, names.imp fun _ _ named => named.mono growing⟩

theorem Within.nil : ground.Within [] [] :=
  ⟨[], .nil, .nil⟩

theorem Within.cons {size limit : Nat} {sizes : List Nat} {coordinate : Scalar}
    {coordinates : List Scalar} (names : ground.Names limit coordinate) (below : limit < size)
    (within : ground.Within sizes coordinates) :
    ground.Within (size :: sizes) (coordinate :: coordinates) := by
  obtain ⟨limits, below', names'⟩ := within
  exact ⟨limit :: limits, .cons below below', .cons names names'⟩

theorem Within.head {size : Nat} {sizes : List Nat} {coordinates : List Scalar}
    (within : ground.Within (size :: sizes) coordinates) :
    ∃ coordinate rest, coordinates = coordinate :: rest ∧
      (∃ limit < size, ground.Names limit coordinate) ∧ ground.Within sizes rest := by
  obtain ⟨limits, below, names⟩ := within
  cases below with
  | cons least below =>
      cases names with
      | cons named names => exact ⟨_, _, rfl, ⟨_, least, named⟩, _, below, names⟩

theorem Within.empty {coordinates : List Scalar} (within : ground.Within [] coordinates) :
    coordinates = [] := by
  obtain ⟨limits, below, names⟩ := within
  cases below
  cases names
  rfl

/-! ### Tensors -/

/-- The value is a tensor in a storage that may be written and that has room for it. -/
structure Tensor (ground : Ground allowed) (type : DType) (shape : Layout) (value : Value) :
    Prop where
  dtype : value.dtype? = some type
  layout : value.layout? = some shape
  place : ∃ name base size, value.place = .host name base ∧
    ground.room? name = some (.row type size) ∧ base + shape.span ≤ size
  counts : Counts allowed (elementCount shape.logicalSizes)

@[grind →]
theorem Tensor.mono (tensor : ground.Tensor dtype layout value) (growing : ground.Later later) :
    later.Tensor dtype layout value := by
  obtain ⟨name, base, size, placed, known, fits⟩ := tensor.place
  exact ⟨tensor.dtype, tensor.layout, ⟨name, base, size, placed, growing _ _ known, fits⟩,
    tensor.counts⟩

theorem Tensor.typed (tensor : ground.Tensor dtype layout value) : value.dtype = .ok dtype := by
  unfold Value.dtype
  rw [tensor.dtype]

theorem Tensor.laid (tensor : ground.Tensor dtype layout value) : value.layout = .ok layout := by
  unfold Value.layout
  rw [tensor.layout]

theorem Tensor.ready (tensor : ground.Tensor dtype layout value) : value.ready = .ok layout := by
  obtain ⟨name, base, size, placed, -⟩ := tensor.place
  have defined : value.isDefined = true := by
    unfold Value.isDefined
    rw [tensor.dtype, placed]
    rfl
  unfold Value.ready
  rw [if_pos defined, tensor.laid]

/-- A value that is the whole of one packed storage. -/
def packedAt (dtype : DType) (sizes : List Nat) (name : Nat) : Value :=
  { dtype? := some dtype
    layout? := some (Layout.packed sizes)
    place := .host name 0 }

theorem tensor_packedAt {sizes : List Nat} {name size : Nat}
    (known : ground.room? name = some (.row dtype size)) (room : elementCount sizes ≤ size)
    (counts : Counts allowed (elementCount sizes)) :
    ground.Tensor dtype (Layout.packed sizes) (packedAt dtype sizes name) := by
  refine ⟨rfl, rfl, ⟨name, 0, size, rfl, known, ?_⟩, ?_⟩
  · rwa [Nat.zero_add, Layout.span_packed]
  · rwa [Layout.logicalSizes_packed]

namespace Runs

theorem allocate (dtype : DType) (layout : Layout)
    (counts : Counts allowed (elementCount layout.logicalSizes)) :
    ground.Runs (Kernel.allocate dtype layout : Host ρ Value) fun later value =>
      later.Tensor dtype layout value ∧
        ∃ name, value.place = .host name 0 ∧
          later.room? name = some (.row dtype layout.memorySize) := by
  have room : 0 + layout.span ≤ layout.memorySize := by
    rw [Nat.zero_add]
    exact layout.span_le_memorySize
  let answer (name : Nat) : Value :=
    { dtype? := some dtype
      layout? := some layout
      place := .host name 0 }
  exact fresh (Room.fits_zeros dtype layout.memorySize) answer fun later name _ known =>
    ⟨⟨rfl, rfl, ⟨name, 0, _, rfl, known, room⟩, counts⟩, name, rfl, known⟩

theorem storage {data : Storage} {sizes : List Nat} (room : elementCount sizes ≤ data.size)
    (counts : Counts allowed (elementCount sizes)) :
    ground.Runs (Kernel.onHost (Value.ofStorage data (Layout.packed sizes)) : Host ρ Value)
      fun later value => later.Tensor data.dtype (Layout.packed sizes) value := by
  have fits : Value.checkFits (Layout.packed sizes) 0 data.size = .ok () := by
    unfold Value.checkFits
    rw [Layout.span_packed, if_neg (by omega)]
  have made : Value.ofStorage data (Layout.packed sizes) = (do
      let name ← Heap.allocate data
      return packedAt data.dtype sizes name) := by
    unfold Value.ofStorage
    rw [fits]
    rfl
  rw [made]
  exact fresh (Room.fits_storage data) (packedAt data.dtype sizes)
    fun later name _ known => tensor_packedAt known room counts

theorem cell (dtype : DType) :
    ground.Runs (Kernel.cell dtype : Host ρ Scalar) fun later scalar =>
      later.Spot dtype scalar := by
  have held : ground.Runs (Kernel.allocate dtype Layout.scalar : Host ρ Value)
      fun later value => ∃ name, value = (Host.item dtype name 0).value ∧
        later.room? name = some (.row dtype 1) :=
    fresh (Room.fits_zeros dtype 1) (fun name => (Host.item dtype name 0).value)
      fun _ name _ known => ⟨name, rfl, known⟩
  refine held.bind ?_
  rintro one _ growing ⟨name, rfl, known⟩
  exact answered rfl ⟨name, 0, 1, rfl, known, Nat.one_pos⟩

/-! ### Elements -/

private theorem positions {limits : List Nat} {coordinates : List Scalar}
    (names : List.Forall₂ ground.Names limits coordinates)
    (counts : ∀ limit ∈ limits, Counts allowed (limit + 1)) :
    ground.Runs (coordinates.mapM fun index => do
      Host.ofExcept (Scalar.position (← Host.readLiteral index.value)) : Host ρ (List Nat))
      fun _ answer => List.Forall₂ (· ≤ ·) answer limits := by
  induction limits generalizing ground coordinates with
  | nil =>
      cases names
      exact pure .nil
  | cons limit limits ih =>
      cases names with
      | cons named names =>
          rw [List.mapM_cons]
          refine (position named (counts limit List.mem_cons_self)).bind ?_
          intro one place growing least
          have later : List.Forall₂ one.Names limits _ := names.imp fun _ _ known =>
            known.mono growing
          have others := ih later fun other member => counts other (List.mem_cons_of_mem _ member)
          exact others.bind fun two places _ rest => pure (.cons least rest)

private theorem getD_le {first second : List Nat} (all : List.Forall₂ (· ≤ ·) first second)
    (place : Nat) : first.getD place 0 ≤ second.getD place 0 := by
  induction all generalizing place with
  | nil => exact le_rfl
  | cons head _ ih =>
      cases place with
      | zero => exact head
      | succ place => exact ih place

/-- An address in a storage with room up to the place of the greatest coordinates. -/
theorem offset {limits : List Nat} {coordinates : List Scalar} {name base size : Nat}
    (typed : value.dtype? = some dtype) (laid : value.layout? = some layout)
    (placed : value.place = .host name base) (known : ground.room? name = some (.row dtype size))
    (names : List.Forall₂ ground.Names limits coordinates)
    (counts : ∀ limit ∈ limits, Counts allowed (limit + 1)) (rank : limits.length = layout.rank)
    (room : base + layout.place limits ≤ size) :
    ground.Runs (Kernel.offset value coordinates : Host ρ Value) fun _ answer =>
      ∃ place ≤ layout.place limits, answer =
        { dtype? := some dtype
          layout? := none
          place := .host name (base + place) } := by
  obtain ⟨_, _, _⟩ := value
  cases typed
  cases laid
  cases placed
  change ground.Runs (Host.offset _ coordinates) _
  unfold Host.offset
  refine (exactly rfl).bind ?_
  rintro one _ growing rfl
  rw [if_neg (not_not.mpr (names.length_eq.symm.trans rank))]
  refine (positions (names.imp fun _ _ named => named.mono growing) counts).bind ?_
  intro two places growing' least
  have reach := layout.place_mono (getD_le least)
  have found := Layout.flatOffset_ok (least.length_eq.trans rank)
  refine (exactly found).bind ?_
  rintro three _ growing₃ rfl
  refine read fun heap holds => .inl ⟨_, ?_, layout.place places, reach, rfl⟩
  obtain ⟨-, -, sized⟩ := holds name _ (growing₃ _ _ (growing' _ _ (growing _ _ known)))
  have inside : ¬ base + layout.place places > (heap.storage name).size := by omega
  exact if_neg inside

theorem withLayout (value : Value) (shape : Layout) {name base size : Nat}
    (placed : value.place = .host name base)
    (known : ground.room? name = some (.row dtype size)) (room : base + shape.span ≤ size) :
    ground.Runs (Kernel.withLayout value shape : Host ρ Value) fun _ answer =>
      answer = { value with layout? := some shape } := by
  refine read fun heap holds => .inl ⟨_, ?_, rfl⟩
  obtain ⟨-, -, sized⟩ := holds name _ known
  have fits : Value.checkFits shape base (heap.storage name).size = .ok () := by
    unfold Value.checkFits
    rw [if_neg (by omega)]
  unfold Value.withLayout
  simp only [placed, fits]
  rfl

/-- An element of a tensor at coordinates inside it. -/
theorem element {coordinates : List Scalar} (tensor : ground.Tensor dtype layout value)
    (within : ground.Within layout.logicalSizes coordinates) :
    ground.Runs (Kernel.element value coordinates : Host ρ Scalar) fun later scalar =>
      later.Spot dtype scalar := by
  obtain ⟨limits, inside, names⟩ := within
  obtain ⟨name, base, size, placed, known, fits⟩ := tensor.place
  have inside : layout.Inside limits := inside
  have reach := inside.place_lt
  refine (offset tensor.dtype tensor.layout placed known names ?_ ?_ (by omega)).bind ?_
  · exact fun limit member => tensor.counts.mono (inside.lt_elementCount member)
  · exact inside.length_eq.trans layout.length_logicalSizes
  rintro one _ growing ⟨place, least, rfl⟩
  have single : Layout.scalar.span = 1 := rfl
  refine (withLayout _ Layout.scalar rfl (growing _ _ known) (by omega)).bind ?_
  rintro two _ growing' rfl
  exact answered rfl ⟨name, base + place, size, rfl, growing' _ _ (growing _ _ known), by omega⟩

/-! ### Loops -/

private theorem runOver {size : Nat} {body : Scalar → Host ρ Unit}
    (turn : ∀ index < size, ∀ (later : Ground allowed) (scalar : Scalar), ground.Later later →
      later.Names index scalar → later.Runs (body scalar) fun _ _ => True) {indices : List Nat}
    (below : ∀ index ∈ indices, index < size) :
    ground.Runs (Host.runOver body indices) fun _ _ => True := by
  induction indices generalizing ground with
  | nil => exact pure trivial
  | cons first rest ih =>
      refine (index first).bind fun one scalar growing named => ?_
      refine (turn first (below first List.mem_cons_self) one scalar growing named).bind ?_
      intro two _ growing' _
      refine ih (fun position inside later scalar growing₃ => ?_) fun position member =>
        below position (List.mem_cons_of_mem _ member)
      exact turn position inside later scalar ((growing.trans growing').trans growing₃)

theorem forRange {size : Nat} {body : Scalar → Host ρ Unit}
    (turn : ∀ index < size, ∀ (later : Ground allowed) (scalar : Scalar), ground.Later later →
      later.Names index scalar → later.Runs (body scalar) fun _ _ => True) :
    ground.Runs (Kernel.forRange 0 size 1 body) fun _ _ => True := by
  change ground.Runs (Host.forRange 0 size 1 body) _
  unfold Host.forRange
  rw [if_neg Nat.one_ne_zero]
  refine runOver turn fun index member => ?_
  rw [Host.indices_one, List.mem_range'_1] at member
  omega

private theorem visit {sizes : List Nat} {outer : List Scalar} {body : List Scalar → Host ρ Unit}
    (turn : ∀ (later : Ground allowed) (inner : List Scalar), ground.Later later →
      later.Within sizes inner → later.Runs (body (outer ++ inner)) fun _ _ => True) :
    ground.Runs (Kernel.visit sizes outer body) fun _ _ => True := by
  induction sizes generalizing ground outer with
  | nil =>
      have here := turn ground [] (.refl ground) .nil
      rwa [List.append_nil] at here
  | cons size inner ih =>
      refine forRange fun limit below one scalar growing named => ih ?_
      intro two others growing' within
      have step := turn two (scalar :: others) (growing.trans growing')
        (.cons (named.mono growing') below within)
      rwa [List.append_assoc]

theorem forEach {body : List Scalar → Host ρ Unit}
    (turn : ∀ (later : Ground allowed) (coordinates : List Scalar), ground.Later later →
      later.Within layout.logicalSizes coordinates →
        later.Runs (body coordinates) fun _ _ => True) :
    ground.Runs (Kernel.forEach layout body) fun _ _ => True :=
  visit turn

/-- A loop over the elements of a tensor. -/
theorem forEachOf {body : List Scalar → Host ρ Unit} (tensor : ground.Tensor dtype layout value)
    (turn : ∀ (later : Ground allowed) (coordinates : List Scalar), ground.Later later →
      later.Within layout.logicalSizes coordinates →
        later.Runs (body coordinates) fun _ _ => True) :
    ground.Runs (do Kernel.forEach (← Kernel.ofExcept value.layout) body) fun _ _ => True := by
  refine (exactly tensor.laid).bind ?_
  rintro one _ growing rfl
  exact forEach fun later coordinates growing' =>
    turn later coordinates (growing.trans growing')

theorem ifElse {condition : Scalar} {onTrue onFalse : Host ρ Unit}
    (spot : ground.Spot dtype condition)
    (one : ∀ later : Ground allowed, ground.Later later → later.Runs onTrue fun _ _ => True)
    (two : ∀ later : Ground allowed, ground.Later later → later.Runs onFalse fun _ _ => True) :
    ground.Runs (Kernel.ifElse condition.value onTrue onFalse) fun _ _ => True := by
  refine (literal spot).bind fun later element growing _ => ?_
  split
  · exact one later growing
  · exact two later growing

end Runs

end TensorGraph.Ground

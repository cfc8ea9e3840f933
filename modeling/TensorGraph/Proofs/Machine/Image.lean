/-
Images of literals and storages.

The image of an element holds everything about it.  For floats this rests on
their bits: a bit pattern that a float can have is taken apart into sign,
exponent and mantissa and put together again without loss.

An allocation that holds the image of a storage answers a read of some elements
with their bytes, and a write of elements leaves the image of the storage in
which they were replaced.  Decoding an image gives the storage back.  So loads,
stores and moves of whole elements are the operations of the storage.
-/

import Mathlib
import TensorGraph.Literal.Bytes
import TensorGraph.Proofs.Heap
import TensorGraph.Proofs.Machine.Effect

namespace TensorGraph

open Float.Model UnpackedFloat

/-! ### Bits of floats -/

private theorem toBitVec_ofBitVec (sign : BitVec 1) :
    (Sign.ofBitVec sign).toBitVec = sign := by
  revert sign
  decide

private theorem packComponents_fields {format : Format} (bits : BitVec format.numBits) :
    packComponents format (Sign.ofBitVec (unpackSign bits)) (unpackExponent bits)
      (unpackMantissa bits) = bits := by
  have mantissa := format.hm
  have exponent := format.he
  ext index within
  simp only [packComponents, toBitVec_ofBitVec, unpackSign, unpackExponent, unpackMantissa,
    BitVec.getElem_append]
  rw [← BitVec.getLsbD_eq_getElem]
  split
  · simp
  · split
    · simp only [BitVec.getElem_cast, BitVec.extractLsb, BitVec.getElem_extractLsb']
      congr 1
      omega
    · simp only [BitVec.getElem_cast, BitVec.extractLsb, BitVec.getElem_extractLsb']
      congr 1
      omega

private theorem log2_normal {width : Nat} (mantissa : BitVec width) :
    (1#1 ++ mantissa).toNat.log2 = width := by
  have value : (1#1 ++ mantissa).toNat = 2 ^ width + mantissa.toNat := by
    rw [BitVec.toNat_append, BitVec.toNat_ofNat, Nat.shiftLeft_eq, Nat.mod_eq_of_lt (by decide),
      Nat.one_mul, Nat.or_comm, Nat.or_two_pow_eq_add_of_lt mantissa.isLt, Nat.add_comm]
  have small := mantissa.isLt
  rw [value, Nat.log2_eq_iff (by have := Nat.two_pow_pos width; omega), Nat.pow_succ]
  omega

private theorem log2_subnormal {width : Nat} {mantissa : BitVec width}
    (part : mantissa ≠ BitVec.ofNat width 0) :
    mantissa.toNat.log2 < width := by
  have positive : mantissa.toNat ≠ 0 := by
    intro zero
    exact part (BitVec.eq_of_toNat_eq (by simpa using zero))
  exact (Nat.log2_lt positive).mpr mantissa.isLt

private theorem pack_unpack (format : Format) (wide : 2 ≤ format.exponentBits)
    {bits : BitVec format.numBits} (valid : format.Valid bits) :
    UnpackedFloat.pack format (UnpackedFloat.unpack format bits) = bits := by
  conv => rhs; rw [← packComponents_fields bits]
  simp only [UnpackedFloat.unpack]
  by_cases top : unpackExponent bits = -BitVec.ofNat format.exponentBits 1
  · rw [if_pos top]
    by_cases whole : unpackMantissa bits = BitVec.ofNat format.mantissaBitsWithoutImplicit 0
    · rw [if_pos whole, top, whole]
      rfl
    · rw [if_neg whole, packComponents_fields]
      exact (valid.eq_packedNaN top whole).symm
  rw [if_neg top]
  by_cases bottom : unpackExponent bits = BitVec.ofNat format.exponentBits 0
  · rw [if_pos bottom]
    by_cases whole : unpackMantissa bits = BitVec.ofNat format.mantissaBitsWithoutImplicit 0
    · rw [dif_pos whole, bottom, whole]
      rfl
    · have subnormal := log2_subnormal whole
      have four : 2 ^ 2 ≤ 2 ^ format.exponentBits := Nat.pow_le_pow_right (by decide) wide
      rw [dif_neg whole, bottom]
      have short : (unpackMantissa bits).toNat.log2 + 1 ≠ format.mantissaBits := by
        simp only [Format.mantissaBits]
        omega
      simp only [UnpackedFloat.pack, if_neg short]
      rw [if_neg (by simp only [BitVec.toNat_ofNat, Nat.zero_mod]; omega), BitVec.ofNat_toNat,
        BitVec.setWidth_eq]
  · have exponentLt := (unpackExponent bits).isLt
    have notTop : (unpackExponent bits).toNat + 1 ≠ 2 ^ format.exponentBits := by
      intro full
      apply top
      apply BitVec.eq_of_toNat_eq
      rw [BitVec.neg_one_eq_allOnes, BitVec.toNat_allOnes]
      omega
    have biased : ((unpackExponent bits).toNat -
        (format.exponentBias + format.mantissaBitsWithoutImplicit : Int) + format.exponentBias +
          format.mantissaBitsWithoutImplicit).toNat = (unpackExponent bits).toNat := by
      omega
    rw [if_neg bottom]
    have full : (1#1 ++ unpackMantissa bits).toNat.log2 + 1 = format.mantissaBits := by
      rw [log2_normal, Format.mantissaBits, Nat.add_comm]
    simp only [UnpackedFloat.pack, biased, if_pos full]
    rw [if_neg (by omega), BitVec.ofNat_toNat, BitVec.setWidth_eq]
    congr 1
    apply BitVec.eq_of_toNat_eq
    rw [BitVec.toNat_ofNat, BitVec.toNat_append, BitVec.toNat_ofNat, Nat.shiftLeft_eq,
      Nat.mod_eq_of_lt (a := 1) (by decide), Nat.one_mul, Nat.or_comm,
      Nat.or_two_pow_eq_add_of_lt (unpackMantissa bits).isLt, Nat.add_mod_right,
      Nat.mod_eq_of_lt (unpackMantissa bits).isLt]

private theorem ofBits_toBits (value : Float) : Float.ofBits value.toBits = value := by
  rcases value with ⟨bits, valid⟩
  simp only [Float.ofBits, Float.toBits, Float.Model.ofBits, Float.Model.pack,
    pack_unpack .binary64 (by decide) valid]

private theorem ofBits_toBits32 (value : Float32) : Float32.ofBits value.toBits = value := by
  rcases value with ⟨bits, valid⟩
  simp only [Float32.ofBits, Float32.toBits, Float32.Model.ofBits, Float32.Model.pack,
    pack_unpack .binary32 (by decide) valid]

/-! ### Bytes of literals -/

private theorem ofLittleEndian_full {count number : Nat} (small : number < Nat.pow 256 count) :
    ofLittleEndian (littleEndian count number) = number := by
  rw [ofLittleEndian_littleEndian, Nat.mod_eq_of_lt small]

/-- An element comes back from its image. -/
theorem Literal.ofImage_bytes (literal : Literal) :
    ofImage literal.dtype literal.bytes = literal := by
  cases literal with
  | bool value => cases value <;> rfl
  | u8 value => simp [ofImage, bytes, dtype, ofLittleEndian]
  | i32 value =>
      have small : value.toUInt32.toNat < Nat.pow 256 4 := value.toUInt32.toNat_lt
      simp only [ofImage, bytes, dtype, ofLittleEndian_full small]
      simp [Int32.ofNat]
  | i64 value =>
      have small : value.toUInt64.toNat < Nat.pow 256 8 := value.toUInt64.toNat_lt
      simp only [ofImage, bytes, dtype, ofLittleEndian_full small]
      simp [Int64.ofNat]
  | f32 value =>
      have small : value.toBits.toNat < Nat.pow 256 4 := value.toBits.toNat_lt
      simp only [ofImage, bytes, dtype, ofLittleEndian_full small, UInt32.ofNat_toNat,
        ofBits_toBits32]
  | f64 value =>
      have small : value.toBits.toNat < Nat.pow 256 8 := value.toBits.toNat_lt
      simp only [ofImage, bytes, dtype, ofLittleEndian_full small, UInt64.ofNat_toNat,
        ofBits_toBits]

end TensorGraph

namespace TensorGraph

/-! ### Rows of elements -/

section Rows

variable {dtype : DType} {cells : List Literal}

theorem length_flatMap_bytes (typed : ∀ cell ∈ cells, cell.dtype = dtype) :
    (cells.flatMap Literal.bytes).length = cells.length * dtype.width := by
  induction cells with
  | nil => simp
  | cons cell rest inductionHypothesis =>
      rw [List.forall_mem_cons] at typed
      rw [List.flatMap_cons, List.length_append, inductionHypothesis typed.2, Literal.length_bytes,
        typed.1, List.length_cons, Nat.add_mul, Nat.one_mul, Nat.add_comm]

theorem take_flatMap_bytes (typed : ∀ cell ∈ cells, cell.dtype = dtype) (count : Nat) :
    (cells.flatMap Literal.bytes).take (count * dtype.width) =
      (cells.take count).flatMap Literal.bytes := by
  induction cells generalizing count with
  | nil => simp
  | cons cell rest inductionHypothesis =>
      rw [List.forall_mem_cons] at typed
      cases count with
      | zero => simp
      | succ count =>
          have width : cell.bytes.length = dtype.width := by rw [Literal.length_bytes, typed.1]
          rw [List.take_succ_cons, List.flatMap_cons, List.flatMap_cons, Nat.add_mul, Nat.one_mul,
            Nat.add_comm, ← width, List.take_length_add_append, width,
            inductionHypothesis typed.2]

theorem drop_flatMap_bytes (typed : ∀ cell ∈ cells, cell.dtype = dtype) (count : Nat) :
    (cells.flatMap Literal.bytes).drop (count * dtype.width) =
      (cells.drop count).flatMap Literal.bytes := by
  induction cells generalizing count with
  | nil => simp
  | cons cell rest inductionHypothesis =>
      rw [List.forall_mem_cons] at typed
      cases count with
      | zero => simp
      | succ count =>
          have width : cell.bytes.length = dtype.width := by rw [Literal.length_bytes, typed.1]
          rw [List.drop_succ_cons, List.flatMap_cons, Nat.add_mul, Nat.one_mul, Nat.add_comm,
            ← width, List.drop_length_add_append, width, inductionHypothesis typed.2]

end Rows

theorem Literal.ofBytes_bytes (literal : Literal) :
    ofBytes literal.dtype literal.bytes = .ok literal := by
  have enough : ¬literal.bytes.length < literal.dtype.width := by
    rw [length_bytes]
    exact Nat.lt_irrefl _
  rw [ofBytes, if_neg enough, List.take_of_length_le (Nat.le_of_eq literal.length_bytes),
    ofImage_bytes]

namespace Storage

/-- The image of a storage as memory holds it. -/
def image (storage : Storage) : Array UInt8 :=
  storage.bytes.toArray

theorem typed_toList (storage : Storage) : ∀ cell ∈ storage.cells.toList, cell.dtype = storage.dtype :=
  fun cell member => storage.typed cell (Array.mem_toList_iff.mp member)

theorem length_bytes (storage : Storage) :
    storage.bytes.length = storage.size * storage.dtype.width := by
  rw [bytes, length_flatMap_bytes storage.typed_toList, Array.length_toList, size]

@[simp]
theorem size_image (storage : Storage) :
    storage.image.size = storage.size * storage.dtype.width := by
  rw [image, List.size_toArray, length_bytes]

theorem bytes_zeros (dtype : DType) (count : Nat) :
    (zeros dtype count).bytes = List.replicate (count * dtype.width) 0 := by
  have zero : (Literal.zero dtype).bytes = List.replicate dtype.width 0 := by
    cases dtype <;> decide +kernel
  rw [bytes, zeros, Array.toList_replicate]
  induction count with
  | zero => simp
  | succ count inductionHypothesis =>
      rw [List.replicate_succ, List.flatMap_cons, inductionHypothesis, zero, Nat.add_mul,
        Nat.one_mul, Nat.add_comm, List.replicate_append_replicate]

theorem set_eq_ok {storage after : Storage} {index : Nat} {literal : Literal} :
    storage.set index literal = .ok after ↔
      index < storage.size ∧ literal.dtype = storage.dtype ∧ after.dtype = storage.dtype ∧
        after.cells = storage.cells.setIfInBounds index literal := by
  unfold set
  split
  case isFalse outside =>
    simp only [reduceCtorEq, false_iff, not_and]
    exact fun within => absurd within outside
  case isTrue within =>
    split
    case isFalse mistyped => simp [mistyped]
    case isTrue sameType =>
      rw [Array.setIfInBounds, dif_pos within]
      constructor
      · rintro ⟨⟩
        exact ⟨within, sameType, rfl, rfl⟩
      · rintro ⟨_, _, dtype, cells⟩
        exact congrArg Except.ok (ext_cells dtype.symm cells.symm)

private theorem toList_overwritten {cells : Array Literal} {items : List Literal} {start : Nat} :
    (overwritten cells items.toArray start).toList =
      cells.toList.take start ++ items ++ cells.toList.drop (start + items.length) := by
  have rest : (cells.toList.drop (start + items.length)).take (cells.size - (start + items.length)) =
      cells.toList.drop (start + items.length) :=
    List.take_of_length_le (by simp)
  simp [overwritten, List.extract_eq_take_drop, rest]

theorem copyFrom_eq_ok {storage other after : Storage} {target source count : Nat}
    (done : storage.copyFrom target other source count = .ok after) :
    other.dtype = storage.dtype ∧ source + count ≤ other.size ∧ target + count ≤ storage.size ∧
      after.dtype = storage.dtype ∧ after.cells.toList =
        storage.cells.toList.take target ++ (other.cells.toList.drop source).take count ++
          storage.cells.toList.drop (target + count) := by
  unfold copyFrom at done
  split at done
  case isFalse mistyped => cases done
  case isTrue sameType =>
    split at done
    case isTrue outside => cases done
    case isFalse within =>
      simp only [Bool.or_eq_true, decide_eq_true_eq, not_or, Nat.not_lt] at within
      cases done
      refine ⟨sameType, within.1, within.2, rfl, ?_⟩
      have items : other.cells.extract source (source + count) =
          ((other.cells.toList.drop source).take count).toArray := by
        apply Array.toList_inj.mp
        rw [Array.toList_extract, List.extract_eq_take_drop, Nat.add_sub_cancel_left]
      have length : ((other.cells.toList.drop source).take count).length = count := by
        have within := within.1
        simp only [size] at within
        rw [List.length_take, List.length_drop, Array.length_toList]
        omega
      simp only [items, toList_overwritten, length]

/-- Within one storage, elements are moved as from a copy of it. -/
theorem copyWithin_eq_copyFrom (storage : Storage) {target source count : Nat} {after : Storage}
    (done : storage.copyWithin source target count = .ok after) :
    storage.copyFrom target storage source count = .ok after := by
  unfold copyWithin at done
  split at done
  case isTrue outside => cases done
  case isFalse within =>
    cases done
    rw [copyFrom, dif_pos rfl, if_neg within]

theorem copyWithin_eq_ok {storage after : Storage} {target source count : Nat} :
    storage.copyWithin source target count = .ok after ↔
      storage.copyFrom target storage source count = .ok after := by
  constructor
  · exact copyWithin_eq_copyFrom storage
  · intro done
    obtain ⟨_, inside, within, _⟩ := copyFrom_eq_ok done
    have accepted : ¬(decide (source + count > storage.size) ||
        decide (target + count > storage.size)) = true := by
      simp only [Bool.or_eq_true, decide_eq_true_eq]
      omega
    rw [copyFrom, dif_pos rfl, if_neg accepted] at done
    rw [copyWithin, if_neg accepted]
    exact done

/-- Memory filled with zeros is the image of zeros of any type. -/
theorem image_zeros (dtype : DType) (count : Nat) :
    (zeros dtype count).image = Array.replicate (dtype.width * count) 0 := by
  rw [image, bytes_zeros, List.toArray_replicate, Nat.mul_comm]

private theorem groups_flatMap {dtype : DType} {cells : List Literal}
    (typed : ∀ cell ∈ cells, cell.dtype = dtype) :
    groups dtype.width dtype.width_pos (cells.flatMap Literal.bytes) =
      cells.map Literal.bytes := by
  induction cells with
  | nil => simp [groups]
  | cons cell rest inductionHypothesis =>
      rw [List.forall_mem_cons] at typed
      have width : cell.bytes.length = dtype.width := by rw [Literal.length_bytes, typed.1]
      have nonempty : (cell.bytes ++ rest.flatMap Literal.bytes).isEmpty = false := by
        have positive := dtype.width_pos
        rw [← width] at positive
        cases shape : cell.bytes with
        | nil => rw [shape] at positive; exact absurd positive (Nat.lt_irrefl 0)
        | cons byte others => rfl
      rw [List.flatMap_cons, groups, nonempty, if_neg Bool.false_ne_true]
      simp only [← width, List.take_left, List.drop_left]
      simp only [width, inductionHypothesis typed.2, List.map_cons]

/-- A storage comes back from its image. -/
theorem ofBytes_bytes (storage : Storage) : ofBytes storage.dtype storage.bytes = .ok storage := by
  have whole : storage.bytes.length % storage.dtype.width = 0 := by
    rw [length_bytes, Nat.mul_mod_left]
  have cells : (groups storage.dtype.width storage.dtype.width_pos storage.bytes).map
      (Literal.ofImage storage.dtype) = storage.cells.toList := by
    rw [bytes, groups_flatMap storage.typed_toList, List.map_map]
    conv => rhs; rw [← List.map_id storage.cells.toList]
    apply List.map_congr_left
    intro cell member
    rw [Function.comp_apply, ← storage.typed_toList cell member, Literal.ofImage_bytes, id]
  rw [ofBytes, if_pos whole]
  exact congrArg Except.ok (ext_cells rfl (by simp only [cells, Array.toArray_toList]))

private theorem length_groups {width count : Nat} (positive : 0 < width) {source : List UInt8}
    (sized : source.length = count * width) : (groups width positive source).length = count := by
  induction count generalizing source with
  | zero =>
      rw [List.length_eq_zero_iff.mp (sized.trans (Nat.zero_mul width))]
      simp [groups]
  | succ count inductionHypothesis =>
      rw [Nat.succ_mul] at sized
      have nonempty : source.isEmpty = false := by
        rw [List.isEmpty_eq_false_iff, ← List.length_pos_iff]
        omega
      have shorter : (source.drop width).length = count * width := by
        rw [List.length_drop]
        omega
      rw [groups, nonempty, if_neg Bool.false_ne_true, List.length_cons,
        inductionHypothesis shorter]

/-- Any bytes of the right number are the image of a storage. -/
theorem ofBytes_of_length {dtype : DType} {count : Nat} {source : List UInt8}
    (sized : source.length = count * dtype.width) :
    ∃ storage, ofBytes dtype source = .ok storage ∧ storage.dtype = dtype ∧
      storage.size = count := by
  have whole : source.length % dtype.width = 0 := by
    rw [sized, Nat.mul_mod_left]
  rw [ofBytes, if_pos whole]
  refine ⟨_, rfl, rfl, ?_⟩
  simp only [size, List.size_toArray, List.length_map]
  exact length_groups dtype.width_pos sized

/-- Bytes are the image of a storage exactly when they make up whole elements. -/
theorem ofBytes_fails {dtype : DType} {source : List UInt8} :
    (∃ cause, ofBytes dtype source = .error cause) ↔ ¬dtype.width ∣ source.length := by
  rw [Nat.dvd_iff_mod_eq_zero]
  unfold ofBytes
  split
  case isTrue whole => simp [whole]
  case isFalse part => simpa using part

end Storage

namespace Machine

open Code

/-! ### Reading and writing -/

theorem overwrite_eq (image : Array UInt8) (offset : Nat) (bytes : List UInt8)
    (within : offset + bytes.length ≤ image.size) :
    (Memory.overwrite image offset bytes).toList =
      image.toList.take offset ++ bytes ++ image.toList.drop (offset + bytes.length) := by
  induction bytes generalizing image offset with
  | nil => simp [Memory.overwrite]
  | cons byte rest inductionHypothesis =>
      simp only [List.length_cons] at within
      have length : image.toList.length = image.size := Array.length_toList
      rw [Memory.overwrite, inductionHypothesis _ _ (by simp only [Array.size_setIfInBounds]; omega),
        Array.toList_setIfInBounds, List.take_add_one, List.getElem?_set_self (by omega),
        List.take_set_of_le (Nat.le_refl offset), List.drop_set_of_lt (by omega)]
      simp only [Option.toList_some, List.append_assoc, List.cons_append, List.nil_append,
        List.length_cons]
      rw [show offset + 1 + rest.length = offset + (rest.length + 1) by omega]

section Images

variable {memory : Memory} {allocation : Nat} {storage : Storage}

/-- Some elements are read as their bytes. -/
theorem read_of_image (holds : memory.allocations[allocation]? = some storage.image)
    {index count : Nat} (within : index + count ≤ storage.size) :
    memory.read ⟨allocation, index * storage.dtype.width⟩ (count * storage.dtype.width) =
      .ok ((storage.cells.toList.drop index).take count |>.flatMap Literal.bytes) := by
  have fits : index * storage.dtype.width + count * storage.dtype.width ≤ storage.image.size := by
    rw [Storage.size_image, ← Nat.add_mul]
    exact Nat.mul_le_mul_right _ within
  have typed : ∀ cell ∈ storage.cells.toList.drop index, cell.dtype = storage.dtype :=
    fun cell member => storage.typed_toList cell (List.mem_of_mem_drop member)
  rw [Memory.read, holds]
  simp only [if_pos fits]
  rw [Array.toList_extract, List.extract_eq_take_drop, Nat.add_sub_cancel_left, Storage.image,
    List.toList_toArray, Storage.bytes, drop_flatMap_bytes storage.typed_toList,
    take_flatMap_bytes typed]

/-- One element is read as its bytes. -/
theorem read_element (holds : memory.allocations[allocation]? = some storage.image)
    {index : Nat} {literal : Literal} (found : storage.get index = .ok literal) :
    memory.read ⟨allocation, index * storage.dtype.width⟩ storage.dtype.width =
      .ok literal.bytes := by
  unfold Storage.get at found
  split at found
  case isFalse outside => cases found
  case isTrue within =>
    cases found
    have inside : index < storage.cells.toList.length := by simpa using within
    have one := read_of_image holds (show index + 1 ≤ storage.size from within)
    rw [Nat.one_mul, List.drop_eq_getElem_cons inside, List.take_succ_cons, List.take_zero,
      List.flatMap_singleton, Array.getElem_toList] at one
    exact one

theorem check_of_image (holds : memory.allocations[allocation]? = some storage.image)
    {index count : Nat} (within : index + count ≤ storage.size) :
    memory.check ⟨allocation, index * storage.dtype.width⟩ (count * storage.dtype.width) =
      .ok () := by
  have fits : index * storage.dtype.width + count * storage.dtype.width ≤ storage.image.size := by
    rw [Storage.size_image, ← Nat.add_mul]
    exact Nat.mul_le_mul_right _ within
  rw [Memory.check, holds]
  exact if_pos fits

theorem getElem?_put_self (holds : memory.allocations[allocation]? = some storage.image)
    (offset : Nat) (bytes : List UInt8) :
    (memory.put ⟨allocation, offset⟩ bytes).allocations[allocation]? =
      some (Memory.overwrite storage.image offset bytes) := by
  simp only [Memory.put, Array.getElem?_modify, if_true, holds, Option.map_some]

theorem getElem?_put_of_ne {other : Nat} (different : other ≠ allocation) (offset : Nat)
    (bytes : List UInt8) :
    (memory.put ⟨allocation, offset⟩ bytes).allocations[other]? = memory.allocations[other]? := by
  simp only [Memory.put, Array.getElem?_modify, if_neg (Ne.symm different)]

/-- Bytes of elements written over an image leave the image of the storage in which these
elements were replaced. -/
theorem put_of_image (holds : memory.allocations[allocation]? = some storage.image)
    {after : Storage} {index : Nat} {items : List Literal}
    (typed : ∀ item ∈ items, item.dtype = storage.dtype)
    (within : index + items.length ≤ storage.size)
    (cells : after.cells.toList = storage.cells.toList.take index ++ items ++
      storage.cells.toList.drop (index + items.length)) :
    (memory.put ⟨allocation, index * storage.dtype.width⟩
        (items.flatMap Literal.bytes)).allocations[allocation]? = some after.image := by
  have length : (items.flatMap Literal.bytes).length = items.length * storage.dtype.width :=
    length_flatMap_bytes typed
  have fits : index * storage.dtype.width + (items.flatMap Literal.bytes).length ≤
      storage.image.size := by
    rw [Storage.size_image, length, ← Nat.add_mul]
    exact Nat.mul_le_mul_right _ within
  rw [getElem?_put_self holds]
  congr 1
  apply Array.toList_inj.mp
  rw [overwrite_eq _ _ _ fits, length, ← Nat.add_mul, Storage.image, Storage.image,
    List.toList_toArray, List.toList_toArray, Storage.bytes, Storage.bytes, cells,
    List.flatMap_append, List.flatMap_append, take_flatMap_bytes storage.typed_toList,
    drop_flatMap_bytes storage.typed_toList]

/-- One element written. -/
theorem put_element (holds : memory.allocations[allocation]? = some storage.image)
    {after : Storage} {index : Nat} {literal : Literal}
    (changed : storage.set index literal = .ok after) :
    (memory.put ⟨allocation, index * storage.dtype.width⟩ literal.bytes).allocations[allocation]? =
      some after.image := by
  obtain ⟨within, sameType, _, cells⟩ := Storage.set_eq_ok.mp changed
  have inside : index < storage.cells.toList.length := by
    rw [Array.length_toList]
    exact within
  have replaced : after.cells.toList = storage.cells.toList.take index ++ [literal] ++
      storage.cells.toList.drop (index + [literal].length) := by
    rw [cells, Array.toList_setIfInBounds, List.set_eq_take_append_cons_drop, if_pos inside]
    simp
  have typed : ∀ item ∈ [literal], item.dtype = storage.dtype := by simpa using sameType
  have written := put_of_image holds typed within replaced
  simpa using written

end Images

/-! ### Instructions on images -/

/-- The memory in which an allocation holds the image of a storage. -/
def Memory.holding (memory : Memory) (allocation : Nat) (storage : Storage) : Memory :=
  { allocations := memory.allocations.setIfInBounds allocation storage.image }

section Instructions

variable {memory : Memory} {allocation : Nat} {storage : Storage}

private theorem fits_image {index count : Nat} :
    index * storage.dtype.width + count * storage.dtype.width ≤ storage.image.size ↔
      index + count ≤ storage.size := by
  rw [Storage.size_image, ← Nat.add_mul]
  exact Nat.mul_le_mul_right_iff storage.dtype.width_pos

/-- The bytes of an allocation only change where they are written. -/
theorem put_eq_holding {after : Storage} {offset : Nat} {bytes : List UInt8}
    (written : (memory.put ⟨allocation, offset⟩ bytes).allocations[allocation]? =
      some after.image) :
    memory.put ⟨allocation, offset⟩ bytes = memory.holding allocation after := by
  have within : allocation < memory.allocations.size := by
    have inside := (Array.getElem?_eq_some_iff.mp written).1
    have size := Memory.size_put memory ⟨allocation, offset⟩ bytes
    simp only [Memory.size] at size
    omega
  have same : (memory.put ⟨allocation, offset⟩ bytes).allocations =
      (memory.holding allocation after).allocations := by
    apply Array.ext_getElem?
    intro other
    by_cases here : other = allocation
    · rw [here, written, Memory.holding, Array.getElem?_setIfInBounds_self_of_lt within]
    · rw [getElem?_put_of_ne here, Memory.holding,
        Array.getElem?_setIfInBounds_ne (Ne.symm here)]
  exact congrArg Memory.mk same

/-- Elements can be read exactly when they are there. -/
theorem read_ok_of_image (holds : memory.allocations[allocation]? = some storage.image)
    {index count : Nat} {image : List UInt8} :
    memory.read ⟨allocation, index * storage.dtype.width⟩ (count * storage.dtype.width) =
        .ok image ↔
      index + count ≤ storage.size ∧
        image = ((storage.cells.toList.drop index).take count).flatMap Literal.bytes := by
  by_cases within : index + count ≤ storage.size
  · rw [read_of_image holds within, Except.ok.injEq]
    exact ⟨fun same => ⟨within, same.symm⟩, fun same => same.2.symm⟩
  · have outside := mt fits_image.mp within
    rw [Memory.read, holds]
    simp only [if_neg outside, reduceCtorEq, within, false_and]

/-- Elements can be written exactly where there are elements. -/
theorem check_ok_of_image (holds : memory.allocations[allocation]? = some storage.image)
    {index count : Nat} :
    memory.check ⟨allocation, index * storage.dtype.width⟩ (count * storage.dtype.width) =
      .ok () ↔ index + count ≤ storage.size := by
  by_cases within : index + count ≤ storage.size
  · simp [check_of_image holds within, within]
  · have outside := mt fits_image.mp within
    rw [Memory.check, holds]
    simp only [if_neg outside, reduceCtorEq, within]

variable {program : Program} {state next : State}

theorem execute_load_ok {target pointer : Register} {place : Pointer} {dtype : DType}
    (pointed : state.frame.pointer pointer = .ok place)
    (pointee : state.frame.pointee pointer = .ok dtype) :
    execute program (.load target pointer) state = .ok () next ↔
      ∃ image, state.memory.read place dtype.width = .ok image ∧
        next = { state with
          frame := state.frame.define target (.element (Literal.ofImage dtype image)) } := by
  rw [execute_ok rfl]
  simp only [effect, pointed, pointee, bind, Except.bind]
  cases state.memory.read place dtype.width with
  | error fault => simp [Except.mapError]
  | ok image => simp [Except.mapError, pure, Except.pure, State.after, Frame.defining]

theorem execute_store_ok {pointer : Register} {value : Operand} {place : Pointer}
    {literal : Literal} (pointed : state.frame.pointer pointer = .ok place)
    (read : state.frame.element value = .ok literal) :
    execute program (.store pointer value) state = .ok () next ↔
      state.memory.check place literal.bytes.length = .ok () ∧
        next = { state with memory := state.memory.put place literal.bytes } := by
  rw [execute_ok rfl]
  simp only [effect, pointed, read, bind, Except.bind]
  cases state.memory.check place literal.bytes.length with
  | error fault => simp [Except.mapError]
  | ok checked => simp [Except.mapError, pure, Except.pure, State.after, Frame.defining]

theorem execute_move_ok {destination source : Register} {bytes : Nat} {place origin : Pointer}
    (pointed : state.frame.pointer destination = .ok place)
    (pointed' : state.frame.pointer source = .ok origin) :
    execute program (.move destination source bytes) state = .ok () next ↔
      ∃ image, state.memory.read origin bytes = .ok image ∧
        state.memory.check place image.length = .ok () ∧
        next = { state with memory := state.memory.put place image } := by
  rw [execute_ok rfl]
  simp only [effect, pointed, pointed', bind, Except.bind]
  cases state.memory.read origin bytes with
  | error fault => simp [Except.mapError]
  | ok image =>
      simp only [Except.mapError, Except.ok.injEq, exists_eq_left']
      cases state.memory.check place image.length with
      | error fault => simp
      | ok checked => simp [pure, Except.pure, State.after, Frame.defining]

section Executed

variable (holds : state.memory.allocations[allocation]? = some storage.image)

include holds

/-- The bytes of an element can be read exactly when the element can. -/
theorem read_element_ok {index : Nat} {image : List UInt8} :
    state.memory.read ⟨allocation, index * storage.dtype.width⟩ storage.dtype.width = .ok image ↔
      ∃ literal, storage.get index = .ok literal ∧ image = literal.bytes := by
  constructor
  · intro read
    have one : state.memory.read ⟨allocation, index * storage.dtype.width⟩
        (1 * storage.dtype.width) = .ok image := by rwa [Nat.one_mul]
    obtain ⟨literal, found⟩ := Storage.exists_get ((read_ok_of_image holds).mp one).1
    rw [read_element holds found, Except.ok.injEq] at read
    exact ⟨literal, found, read.symm⟩
  · rintro ⟨literal, found, rfl⟩
    exact read_element holds found

/-- A load defines a register with the element of the storage. -/
theorem execute_load {index : Nat} {target pointer : Register}
    (place : state.frame.pointer pointer = .ok ⟨allocation, index * storage.dtype.width⟩)
    (pointee : state.frame.pointee pointer = .ok storage.dtype) :
    execute program (.load target pointer) state = .ok () next ↔
      ∃ literal, storage.get index = .ok literal ∧
        next = { state with frame := state.frame.define target (.element literal) } := by
  rw [execute_load_ok place pointee]
  simp only [read_element_ok holds]
  have decoded : ∀ literal, storage.get index = .ok literal →
      Literal.ofImage storage.dtype literal.bytes = literal := by
    intro literal found
    rw [← Storage.dtype_of_get found, Literal.ofImage_bytes]
  constructor
  · rintro ⟨_, ⟨literal, found, rfl⟩, rfl⟩
    exact ⟨literal, found, by rw [decoded literal found]⟩
  · rintro ⟨literal, found, rfl⟩
    exact ⟨_, ⟨literal, found, rfl⟩, by rw [decoded literal found]⟩

/-- A store leaves the image of the storage with the element replaced. -/
theorem execute_store {index : Nat} {pointer : Register} {value : Operand} {literal : Literal}
    (place : state.frame.pointer pointer = .ok ⟨allocation, index * storage.dtype.width⟩)
    (read : state.frame.element value = .ok literal) (sameType : literal.dtype = storage.dtype) :
    execute program (.store pointer value) state = .ok () next ↔
      ∃ after, storage.set index literal = .ok after ∧
        next = { state with memory := state.memory.holding allocation after } := by
  have width : literal.bytes.length = storage.dtype.width := by
    rw [Literal.length_bytes, sameType]
  have accepted : state.memory.check ⟨allocation, index * storage.dtype.width⟩
      (1 * storage.dtype.width) = .ok () ↔ index + 1 ≤ storage.size := check_ok_of_image holds
  rw [Nat.one_mul] at accepted
  rw [execute_store_ok place read, width, accepted]
  constructor
  · rintro ⟨within, rfl⟩
    obtain ⟨after, changed⟩ := Storage.set_done within sameType
    exact ⟨after, changed, by rw [put_eq_holding (put_element holds changed)]⟩
  · rintro ⟨after, changed, rfl⟩
    exact ⟨(Storage.set_eq_ok.mp changed).1,
      by rw [put_eq_holding (put_element holds changed)]⟩

/-- A move of whole elements leaves the image of the storage into which they were copied. -/
theorem execute_move {origin target source count : Nat} {other : Storage}
    (holds' : state.memory.allocations[origin]? = some other.image)
    (sameType : other.dtype = storage.dtype) {destination register : Register}
    (place : state.frame.pointer destination = .ok ⟨allocation, target * storage.dtype.width⟩)
    (place' : state.frame.pointer register = .ok ⟨origin, source * storage.dtype.width⟩) :
    execute program (.move destination register (count * storage.dtype.width)) state =
        .ok () next ↔
      ∃ after, storage.copyFrom target other source count = .ok after ∧
        next = { state with memory := state.memory.holding allocation after } := by
  have typed : ∀ item ∈ (other.cells.toList.drop source).take count, item.dtype = storage.dtype :=
    fun item member => (other.typed_toList item
      (List.mem_of_mem_drop (List.mem_of_mem_take member))).trans sameType
  have length : source + count ≤ other.size →
      ((other.cells.toList.drop source).take count).length = count := by
    intro inside
    rw [Storage.size, ← Array.length_toList] at inside
    rw [List.length_take, List.length_drop]
    omega
  have readable : ∀ image, state.memory.read ⟨origin, source * storage.dtype.width⟩
      (count * storage.dtype.width) = .ok image ↔ source + count ≤ other.size ∧
        image = ((other.cells.toList.drop source).take count).flatMap Literal.bytes := by
    intro image
    rw [← sameType]
    exact read_ok_of_image holds'
  have written : ∀ after, storage.copyFrom target other source count = .ok after →
      state.memory.put ⟨allocation, target * storage.dtype.width⟩
          (((other.cells.toList.drop source).take count).flatMap Literal.bytes) =
        state.memory.holding allocation after := by
    intro after copied
    obtain ⟨_, inside, within, _, cells⟩ := Storage.copyFrom_eq_ok copied
    rw [← length inside] at within
    refine put_eq_holding (put_of_image holds typed within ?_)
    rw [length inside]
    exact cells
  rw [execute_move_ok place place']
  simp only [readable]
  constructor
  · rintro ⟨_, ⟨inside, rfl⟩, accepted, rfl⟩
    rw [length_flatMap_bytes typed, length inside, check_ok_of_image holds] at accepted
    obtain ⟨after, copied⟩ := Storage.copyFrom_done sameType inside accepted
    exact ⟨after, copied, by rw [written after copied]⟩
  · rintro ⟨after, copied, rfl⟩
    obtain ⟨_, inside, within, _⟩ := Storage.copyFrom_eq_ok copied
    refine ⟨_, ⟨inside, rfl⟩, ?_, by rw [written after copied]⟩
    rw [length_flatMap_bytes typed, length inside, check_ok_of_image holds]
    exact within

end Executed
end Instructions

/-! ### Memory and storages -/

/-- Byte memory represents typed storage.  A storage comes back from its bytes, and bytes that
are not whole elements are refused.  Where memory holds the image of a storage, its elements
are read as the storage gives them, and loads, stores and moves of whole elements succeed
exactly when the operation of the storage does, with its element or the image of its result. -/
theorem memory_represents (storage : Storage) :
    Storage.ofBytes storage.dtype storage.bytes = .ok storage ∧
    (∀ dtype source, (∃ cause, Storage.ofBytes dtype source = .error cause) ↔
      ¬dtype.width ∣ source.length) ∧
    ∀ (program : Program) (state : State) (allocation : Nat),
      state.memory.allocations[allocation]? = some storage.image →
      (∀ index, index < storage.size → ∃ image,
        state.memory.read ⟨allocation, index * storage.dtype.width⟩ storage.dtype.width =
            .ok image ∧
          Literal.ofBytes storage.dtype image = storage.get index) ∧
      (∀ index target pointer next,
        state.frame.pointer pointer = .ok ⟨allocation, index * storage.dtype.width⟩ →
        state.frame.pointee pointer = .ok storage.dtype →
        (execute program (.load target pointer) state = .ok () next ↔
          ∃ literal, storage.get index = .ok literal ∧
            next = { state with frame := state.frame.define target (.element literal) })) ∧
      (∀ index pointer value literal next,
        state.frame.pointer pointer = .ok ⟨allocation, index * storage.dtype.width⟩ →
        state.frame.element value = .ok literal → literal.dtype = storage.dtype →
        (execute program (.store pointer value) state = .ok () next ↔
          ∃ after, storage.set index literal = .ok after ∧
            next = { state with memory := state.memory.holding allocation after })) ∧
      (∀ source target count destination register next,
        state.frame.pointer destination = .ok ⟨allocation, target * storage.dtype.width⟩ →
        state.frame.pointer register = .ok ⟨allocation, source * storage.dtype.width⟩ →
        (execute program (.move destination register (count * storage.dtype.width)) state =
            .ok () next ↔
          ∃ after, storage.copyWithin source target count = .ok after ∧
            next = { state with memory := state.memory.holding allocation after })) ∧
      ∀ origin other source target count destination register next,
        state.memory.allocations[origin]? = some other.image → other.dtype = storage.dtype →
        state.frame.pointer destination = .ok ⟨allocation, target * storage.dtype.width⟩ →
        state.frame.pointer register = .ok ⟨origin, source * storage.dtype.width⟩ →
        (execute program (.move destination register (count * storage.dtype.width)) state =
            .ok () next ↔
          ∃ after, storage.copyFrom target other source count = .ok after ∧
            next = { state with memory := state.memory.holding allocation after }) := by
  refine ⟨Storage.ofBytes_bytes storage, fun dtype source => Storage.ofBytes_fails,
    fun program state allocation holds => ⟨?_, ?_, ?_, ?_, ?_⟩⟩
  · intro index within
    obtain ⟨literal, found⟩ := Storage.exists_get within
    refine ⟨literal.bytes, read_element holds found, ?_⟩
    rw [found, ← Storage.dtype_of_get found, Literal.ofBytes_bytes]
  · intro index target pointer next place pointee
    exact execute_load holds place pointee
  · intro index pointer value literal next place read sameType
    exact execute_store holds place read sameType
  · intro source target count destination register next place place'
    simp only [Storage.copyWithin_eq_ok]
    exact execute_move holds holds rfl place place'
  · intro origin other source target count destination register next holds' sameType place place'
    exact execute_move holds holds' sameType place place'

private def countedStorage : Storage :=
  { dtype := .i32
    cells := #[.i32 1, .i32 2, .i32 3, .i32 4]
    typed := by decide }

private def pairStorage : Storage :=
  { dtype := .i32
    cells := #[.i32 8, .i32 9]
    typed := by decide }

/-- Registers that point at the second and the first of four elements, and at a pair. -/
private def countedState : State :=
  { memory := ⟨#[countedStorage.image, pairStorage.image]⟩
    frame :=
      { function :=
          { name := "counted"
            parameters := []
            registerTypes := #[.pointer .i32, .pointer .i32, .pointer .i32, .element .i32]
            blocks := []
            exported := true }
        registers := #[some (.pointer ⟨0, 4⟩), some (.pointer ⟨0, 0⟩), some (.pointer ⟨1, 0⟩), none]
        block :=
          { id := 0
            label := "entry"
            instructions := []
            terminator? := some .leave }
        pending := []
        floor := 0 }
    callers := []
    steps := 0 }

theorem memory_represents_counted :
    (∃ next, execute ⟨.empty "counted", 10⟩ (.load 3 0) countedState = .ok () next ∧
      next.frame.registers[3]? = some (some (.element (.i32 2)))) ∧
    (∃ next, execute ⟨.empty "counted", 10⟩ (.store 0 (.constant (.i32 7))) countedState =
        .ok () next ∧
      next.memory.allocations = #[#[1, 0, 0, 0, 7, 0, 0, 0, 3, 0, 0, 0, 4, 0, 0, 0],
        #[8, 0, 0, 0, 9, 0, 0, 0]]) ∧
    (∃ next, execute ⟨.empty "counted", 10⟩ (.move 0 1 12) countedState = .ok () next ∧
      next.memory.allocations = #[#[1, 0, 0, 0, 1, 0, 0, 0, 2, 0, 0, 0, 3, 0, 0, 0],
        #[8, 0, 0, 0, 9, 0, 0, 0]]) ∧
    ∃ next, execute ⟨.empty "counted", 10⟩ (.move 0 2 8) countedState = .ok () next ∧
      next.memory.allocations = #[#[1, 0, 0, 0, 8, 0, 0, 0, 9, 0, 0, 0, 4, 0, 0, 0],
        #[8, 0, 0, 0, 9, 0, 0, 0]] := by
  obtain ⟨_, loads, stores, moves, copies⟩ :=
    (memory_represents countedStorage).2.2 ⟨.empty "counted", 10⟩ countedState 0 rfl
  refine ⟨⟨_, (loads 1 3 0 _ rfl rfl).mpr ⟨.i32 2, rfl, rfl⟩, rfl⟩,
    ⟨_, (stores 1 0 _ (.i32 7) _ rfl rfl rfl).mpr ⟨_, rfl, rfl⟩, by decide +kernel⟩,
    ⟨_, (moves 0 1 3 0 1 _ rfl rfl).mpr ⟨_, rfl, rfl⟩, by decide +kernel⟩,
    ⟨_, (copies 1 pairStorage 0 1 2 0 2 _ rfl rfl rfl rfl).mpr ⟨_, rfl, rfl⟩,
      by decide +kernel⟩⟩

end Machine
end TensorGraph

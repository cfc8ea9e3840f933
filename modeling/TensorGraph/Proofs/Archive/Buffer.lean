/-
Archived buffers read back.

A byte is written as two digits and a digit reads back as its value, so a
memory image in hexadecimal is the image again, and a buffer is its storage.
Of other texts a pair is also read when its first character is a plus sign,
which then counts as a zero; nothing else is let through, and no character that
takes more than one byte.  A buffer of an integer type that was read is written
in lower case again, with zeros for the plus signs.
-/

import TensorGraph.Archive.Buffer
import TensorGraph.Proofs.Machine.Image

namespace TensorGraph

namespace Hex

/-! ### Codes of characters -/

/-- The code of a character that takes one byte. -/
private def code (character : Char) : UInt8 :=
  character.val.toUInt8

private def Narrow (character : Char) : Prop :=
  character.toNat < 0x80

private theorem utf8_narrow {character : Char} (narrow : Narrow character) :
    String.utf8EncodeChar character = [code character] := by
  apply String.utf8EncodeChar_eq_singleton
  rw [Char.utf8Size_eq_one_iff]
  exact Nat.le_of_lt_succ narrow

private theorem flatMap_utf8_narrow {text : List Char}
    (narrow : ∀ character ∈ text, Narrow character) :
    text.flatMap String.utf8EncodeChar = text.map code := by
  induction text with
  | nil => rfl
  | cons character rest ih =>
      rw [List.forall_mem_cons] at narrow
      rw [List.flatMap_cons, utf8_narrow narrow.1, ih narrow.2]
      rfl

private theorem toUTF8_bytes (text : String) :
    text.toUTF8.data.toList = text.toList.flatMap String.utf8EncodeChar := by
  conv => lhs; rw [← String.ofList_toList (s := text)]
  rw [String.toUTF8, String.toByteArray_ofList, List.utf8Encode, List.data_toByteArray]

/-! ### Images that are written -/

private theorem digit_small : ∀ value < 16,
    (digit value).toNat < 0x80 ∧ digitValue? (code (digit value)) = some value ∧
      (code (digit value)).toNat ≠ '+'.toNat := by
  decide

private theorem halves (byte : UInt8) : byte.toNat / 16 < 16 ∧ byte.toNat % 16 < 16 := by
  have := byte.toNat_lt
  omega

private theorem toList_encode_cons (byte : UInt8) (rest : List UInt8) :
    (encode (byte :: rest)).toList =
      digit (byte.toNat / 16) :: digit (byte.toNat % 16) :: (encode rest).toList := by
  rw [encode, encode, String.toList_ofList, String.toList_ofList, List.flatMap_cons]
  rfl

private theorem narrow_encode (bytes : List UInt8) :
    ∀ character ∈ (encode bytes).toList, Narrow character := by
  induction bytes with
  | nil => exact List.forall_mem_nil _
  | cons byte rest ih =>
      rw [toList_encode_cons, List.forall_mem_cons, List.forall_mem_cons]
      exact ⟨(digit_small _ (halves byte).1).1, (digit_small _ (halves byte).2).1, ih⟩

private theorem decodePairs_encode (bytes : List UInt8) :
    decodePairs ((encode bytes).toList.map code) = .ok bytes := by
  induction bytes with
  | nil => rfl
  | cons byte rest ih =>
      obtain ⟨high, low⟩ := halves byte
      obtain ⟨-, readHigh, noPlus⟩ := digit_small _ high
      obtain ⟨-, readLow, -⟩ := digit_small _ low
      have pair : pairValue? (code (digit (byte.toNat / 16))) (code (digit (byte.toNat % 16))) =
          some byte := by
        simp only [pairValue?, readLow, if_neg noPlus, readHigh, Option.map_some, Option.some.injEq]
        rw [Nat.div_add_mod', UInt8.ofNat_toNat]
      rw [toList_encode_cons]
      simp only [List.map_cons, decodePairs, pair, ih]
      rfl

theorem length_encode (image : List UInt8) : (encode image).length = 2 * image.length := by
  rw [encode, String.length_ofList]
  simp [List.length_flatMap, Nat.mul_comm]

/-- Bytes that were written down read back. -/
theorem decode_encode (bytes : List UInt8) : decode (encode bytes) = .ok bytes := by
  have even : (encode bytes).toList.length % 2 = 0 := by
    rw [String.length_toList, length_encode, Nat.mul_mod_right]
  unfold decode
  dsimp only
  rw [toUTF8_bytes, flatMap_utf8_narrow (narrow_encode bytes), List.length_map, if_pos even]
  exact decodePairs_encode bytes

end Hex

namespace BufferRecord

/-- A storage that was written down reads back, every element as it was. -/
theorem toStorage_ofStorage (storage : Storage) :
    (ofStorage storage).toStorage = .ok storage := by
  have whole : storage.bytes.length % storage.dtype.width = 0 := by
    rw [Storage.length_bytes, Nat.mul_mod_left]
  unfold toStorage ofStorage
  simp only [Hex.decode_encode, bind, Except.bind, whole]
  exact Storage.ofBytes_bytes storage

theorem ofDocument?_fieldDocument (buffer : BufferRecord) :
    ofDocument? buffer.fieldDocument = some buffer := by
  simp [fieldDocument, ofDocument?, Json.record?, List.lookup, DType.ofDocument?, Json.choice?,
    DType.ofName?_name, Json.text?]

end BufferRecord

/-! ### Texts that are read -/

namespace Hex

/-- A hexadecimal digit of either case. -/
def IsDigit (character : Char) : Prop :=
  ('0' ≤ character ∧ character ≤ '9') ∨ ('a' ≤ character ∧ character ≤ 'f') ∨
    ('A' ≤ character ∧ character ≤ 'F')

instance : DecidablePred IsDigit := fun _ => inferInstanceAs (Decidable (_ ∨ _ ∨ _))

/-- Characters that can be read in pairs. -/
def Paired : List Char → Prop
  | [] => True
  | [_] => False
  | first :: second :: rest => (first = '+' ∨ IsDigit first) ∧ IsDigit second ∧ Paired rest

/-- The digit that is written for a character that was read. -/
def rewritten (character : Char) : Char :=
  if character = '+' then '0' else character.toLower

/-! ### Characters of several bytes -/

/-- A character that takes several bytes ends with one that is no code of its own. -/
private theorem exists_wide_of_not_narrow {character : Char} (wide : ¬ Narrow character) :
    ∃ byte ∈ String.utf8EncodeChar character, 0x80 ≤ byte.toNat := by
  have many : ¬ character.val.toNat ≤ 127 := fun few => wide (Nat.lt_succ_of_le few)
  refine ⟨UInt8.ofNat (character.val.toNat % 64 + 128), ?_, ?_⟩
  · simp only [String.utf8EncodeChar, if_neg many]
    split
    · simp
    · split <;> simp
  · rw [UInt8.toNat_ofNat']
    omega

private theorem narrow_of_bytes {text : List Char}
    (small : ∀ byte ∈ text.flatMap String.utf8EncodeChar, byte.toNat < 0x80) :
    ∀ character ∈ text, Narrow character := by
  intro character member
  by_contra wide
  obtain ⟨byte, last, large⟩ := exists_wide_of_not_narrow wide
  have := small byte (List.mem_flatMap.mpr ⟨character, member, last⟩)
  omega

/-! ### Digits -/

private theorem digits_of_codes : ∀ number < 0x80,
    (IsDigit (Char.ofNat number) ↔ (digitValue? (code (Char.ofNat number))).isSome) ∧
      ∀ value < 16, digitValue? (code (Char.ofNat number)) = some value →
        digit value = (Char.ofNat number).toLower := by
  decide +kernel

private theorem digitValue?_lt {byte : UInt8} {value : Nat} (read : digitValue? byte = some value) :
    value < 16 ∧ byte.toNat < 0x80 := by
  simp only [digitValue?, Char.reduceToNat, Bool.and_eq_true, decide_eq_true_eq] at read
  split at read
  case isTrue => cases read; omega
  case isFalse =>
    split at read
    case isTrue => cases read; omega
    case isFalse =>
      split at read
      case isTrue => cases read; omega
      case isFalse => cases read

section

variable {character first second : Char} {byte : UInt8} {value : Nat}

private theorem isDigit_iff (narrow : Narrow character) :
    IsDigit character ↔ ∃ value, digitValue? (code character) = some value := by
  have known := (digits_of_codes _ narrow).1
  rw [Char.ofNat_toNat] at known
  rw [known, Option.isSome_iff_exists]

private theorem digit_of_digitValue? (narrow : Narrow character)
    (read : digitValue? (code character) = some value) : digit value = character.toLower := by
  have known := (digits_of_codes _ narrow).2 value (digitValue?_lt read).1
  rw [Char.ofNat_toNat] at known
  exact known read

theorem IsDigit.narrow (known : IsDigit character) : character.toNat < 0x80 := by
  rcases known with ⟨_, last⟩ | ⟨_, last⟩ | ⟨_, last⟩
  all_goals exact Nat.lt_of_le_of_lt last (by decide)

theorem IsDigit.rewritten (known : IsDigit character) :
    rewritten character = character.toLower := by
  have different : character ≠ '+' := by
    rintro rfl
    revert known
    decide
  rw [Hex.rewritten, if_neg different]

private theorem code_eq_plus (narrow : Narrow character) :
    (code character).toNat = '+'.toNat ↔ character = '+' := by
  have same : (code character).toNat = character.toNat := by
    rw [code, UInt32.toNat_toUInt8]
    exact Nat.mod_eq_of_lt (Nat.lt_trans narrow (by decide))
  rw [same]
  exact Char.toNat_inj

/-- Only characters of one byte are read. -/
private theorem pairValue?_small {first second : UInt8}
    (read : pairValue? first second = some byte) :
    first.toNat < 0x80 ∧ second.toNat < 0x80 := by
  unfold pairValue? at read
  split at read
  case h_1 => cases read
  case h_2 low readLow =>
    split at read
    case isTrue plus => exact ⟨plus ▸ by decide, (digitValue?_lt readLow).2⟩
    case isFalse =>
      obtain ⟨high, readHigh, -⟩ := Option.map_eq_some_iff.mp read
      exact ⟨(digitValue?_lt readHigh).2, (digitValue?_lt readLow).2⟩

/-- A pair that is read consists of two digits but for a plus sign in front, and the byte is
written with the same digits. -/
private theorem pairValue?_eq_some (narrow : Narrow first ∧ Narrow second)
    (read : pairValue? (code first) (code second) = some byte) :
    (first = '+' ∨ IsDigit first) ∧ IsDigit second ∧
      digit (byte.toNat / 16) = rewritten first ∧ digit (byte.toNat % 16) = rewritten second := by
  unfold pairValue? at read
  split at read
  case h_1 => cases read
  case h_2 low readLow =>
    have small := (digitValue?_lt readLow).1
    have second_digit : IsDigit second := (isDigit_iff narrow.2).mpr ⟨low, readLow⟩
    have second_same : digit low = rewritten second :=
      (digit_of_digitValue? narrow.2 readLow).trans second_digit.rewritten.symm
    split at read
    case isTrue plus =>
      cases read
      have sign := (code_eq_plus narrow.1).mp plus
      have value : (UInt8.ofNat low).toNat = low := by
        rw [UInt8.toNat_ofNat']
        omega
      refine ⟨.inl sign, second_digit, ?_, ?_⟩
      · rw [value, Nat.div_eq_of_lt small, sign]
        decide
      · rw [value, Nat.mod_eq_of_lt small, second_same]
    case isFalse =>
      obtain ⟨high, readHigh, same⟩ := Option.map_eq_some_iff.mp read
      have smallHigh := (digitValue?_lt readHigh).1
      have first_digit : IsDigit first := (isDigit_iff narrow.1).mpr ⟨high, readHigh⟩
      have value : byte.toNat = high * 16 + low := by
        rw [← same, UInt8.toNat_ofNat']
        omega
      refine ⟨.inr first_digit, second_digit, ?_, ?_⟩
      · rw [show byte.toNat / 16 = high by omega, digit_of_digitValue? narrow.1 readHigh,
          first_digit.rewritten]
      · rw [show byte.toNat % 16 = low by omega, second_same]

private theorem exists_pairValue? (first_read : first = '+' ∨ IsDigit first)
    (second_digit : IsDigit second) :
    ∃ byte, pairValue? (code first) (code second) = some byte := by
  obtain ⟨low, readLow⟩ := (isDigit_iff second_digit.narrow).mp second_digit
  rw [pairValue?, readLow]
  dsimp only
  split
  case isTrue => exact ⟨_, rfl⟩
  case isFalse noPlus =>
    rcases first_read with rfl | first_digit
    · exact absurd rfl noPlus
    · obtain ⟨high, readHigh⟩ := (isDigit_iff first_digit.narrow).mp first_digit
      exact ⟨_, by rw [readHigh, Option.map_some]⟩

end

/-! ### Pairs -/

theorem Paired.narrow {text : List Char} (paired : Paired text) :
    ∀ character ∈ text, character.toNat < 0x80 := by
  induction text using Paired.induct with
  | case1 => exact List.forall_mem_nil _
  | case2 => exact paired.elim
  | case3 first second rest ih =>
      obtain ⟨first_read, second_digit, paired⟩ := paired
      rw [List.forall_mem_cons, List.forall_mem_cons]
      refine ⟨?_, second_digit.narrow, ih paired⟩
      rcases first_read with rfl | first_digit
      · decide
      · exact first_digit.narrow

theorem Paired.even {text : List Char} (paired : Paired text) : text.length % 2 = 0 := by
  induction text using Paired.induct with
  | case1 => rfl
  | case2 => exact paired.elim
  | case3 first second rest ih =>
      exact (Nat.add_mod_right rest.length 2).trans (ih paired.2.2)

/-- Without a plus sign the characters are digits. -/
theorem paired_iff {text : List Char} (unsigned : '+' ∉ text) :
    Paired text ↔ text.length % 2 = 0 ∧ ∀ character ∈ text, IsDigit character := by
  induction text using Paired.induct with
  | case1 => simp [Paired]
  | case2 => simp [Paired]
  | case3 first second rest ih =>
      rw [List.mem_cons, List.mem_cons, not_or, not_or] at unsigned
      obtain ⟨first_other, -, rest_unsigned⟩ := unsigned
      have even : (first :: second :: rest).length % 2 = rest.length % 2 :=
        Nat.add_mod_right rest.length 2
      rw [Paired, ih rest_unsigned, even, List.forall_mem_cons, List.forall_mem_cons,
        or_iff_right (Ne.symm first_other)]
      tauto

theorem map_rewritten {text : List Char} (digits : ∀ character ∈ text, IsDigit character) :
    text.map rewritten = text.map Char.toLower :=
  List.map_congr_left fun character member => (digits character member).rewritten

private theorem decodePairs_cons_eq_ok {first second : UInt8} {rest image : List UInt8} :
    decodePairs (first :: second :: rest) = .ok image ↔
      ∃ byte others, pairValue? first second = some byte ∧ decodePairs rest = .ok others ∧
        image = byte :: others := by
  rw [decodePairs]
  cases pairValue? first second with
  | none => simp
  | some byte =>
      cases decodePairs rest with
      | error failure => simp [Functor.map, Except.map]
      | ok others => simp [Functor.map, Except.map, eq_comm]

/-- All bytes that are read are characters of their own. -/
private theorem small_of_decodePairs {bytes image : List UInt8} (even : bytes.length % 2 = 0)
    (done : decodePairs bytes = .ok image) : ∀ byte ∈ bytes, byte.toNat < 0x80 := by
  induction bytes using List.twoStepInduction generalizing image with
  | nil => exact List.forall_mem_nil _
  | singleton => exact absurd even Nat.one_ne_zero
  | cons_cons first second rest ih _ =>
      obtain ⟨byte, others, read, doneRest, -⟩ := decodePairs_cons_eq_ok.mp done
      have evenRest : rest.length % 2 = 0 := (Nat.add_mod_right rest.length 2).symm.trans even
      rw [List.forall_mem_cons, List.forall_mem_cons]
      exact ⟨(pairValue?_small read).1, (pairValue?_small read).2, ih evenRest doneRest⟩

private theorem paired_of_decodePairs {text : List Char} {image : List UInt8}
    (narrow : ∀ character ∈ text, Narrow character) (even : text.length % 2 = 0)
    (done : decodePairs (text.map code) = .ok image) :
    Paired text ∧ (encode image).toList = text.map rewritten := by
  induction text using List.twoStepInduction generalizing image with
  | nil =>
      cases done
      exact ⟨trivial, by rw [encode, String.toList_ofList]; rfl⟩
  | singleton => exact absurd even Nat.one_ne_zero
  | cons_cons first second rest ih _ =>
      rw [List.forall_mem_cons, List.forall_mem_cons, ← and_assoc] at narrow
      obtain ⟨byte, others, read, doneRest, rfl⟩ := decodePairs_cons_eq_ok.mp done
      have evenRest : rest.length % 2 = 0 := (Nat.add_mod_right rest.length 2).symm.trans even
      obtain ⟨paired, written⟩ := ih narrow.2 evenRest doneRest
      obtain ⟨first_read, second_digit, high, low⟩ := pairValue?_eq_some narrow.1 read
      refine ⟨⟨first_read, second_digit, paired⟩, ?_⟩
      rw [toList_encode_cons, written, high, low]
      rfl

private theorem exists_decodePairs {text : List Char} (paired : Paired text) :
    ∃ image, decodePairs (text.map code) = .ok image := by
  induction text using Paired.induct with
  | case1 => exact ⟨[], rfl⟩
  | case2 => exact paired.elim
  | case3 first second rest ih =>
      obtain ⟨first_read, second_digit, paired⟩ := paired
      obtain ⟨byte, read⟩ := exists_pairValue? first_read second_digit
      obtain ⟨others, done⟩ := ih paired
      exact ⟨byte :: others, decodePairs_cons_eq_ok.mpr ⟨byte, others, read, done, rfl⟩⟩

private theorem decodePairs_error {bytes : List UInt8} {failure : Error}
    (failed : decodePairs bytes = .error failure) : ∃ reason, failure = .archive reason := by
  induction bytes using List.twoStepInduction generalizing failure with
  | nil => cases failed
  | singleton => cases failed
  | cons_cons first second rest ih _ =>
      rw [decodePairs] at failed
      split at failed
      case h_1 byte read =>
        cases rest_failed : decodePairs rest with
        | ok others => rw [rest_failed] at failed; cases failed
        | error failure =>
            rw [rest_failed] at failed
            cases failed
            exact ih rest_failed
      case h_2 => exact ⟨_, (Except.error.inj failed).symm⟩

/-! ### Texts -/

/-- What was read is made of pairs and is written with the same digits. -/
theorem paired_of_decode {text : String} {image : List UInt8} (done : decode text = .ok image) :
    Paired text.toList ∧ encode image = text.map rewritten := by
  unfold decode at done
  dsimp only at done
  split at done
  case isFalse => cases done
  case isTrue even =>
    have narrow := narrow_of_bytes
      (toUTF8_bytes text ▸ small_of_decodePairs even done)
    rw [toUTF8_bytes, flatMap_utf8_narrow narrow] at even done
    rw [List.length_map] at even
    obtain ⟨paired, written⟩ := paired_of_decodePairs narrow even done
    exact ⟨paired, String.toList_inj.mp (written.trans String.toList_map.symm)⟩

theorem exists_decode {text : String} (paired : Paired text.toList) :
    ∃ image, decode text = .ok image := by
  unfold decode
  dsimp only
  rw [toUTF8_bytes, flatMap_utf8_narrow paired.narrow, List.length_map, if_pos paired.even]
  exact exists_decodePairs paired

theorem decode_error {text : String} {failure : Error} (failed : decode text = .error failure) :
    ∃ reason, failure = .archive reason := by
  unfold decode at failed
  dsimp only at failed
  split at failed
  case isTrue => exact decodePairs_error failed
  case isFalse => exact ⟨_, (Except.error.inj failed).symm⟩

end Hex

/-! ### Images of integers -/

theorem littleEndian_ofLittleEndian (image : List UInt8) :
    littleEndian image.length (ofLittleEndian image) = image := by
  induction image with
  | nil => rfl
  | cons byte rest ih =>
      have small := byte.toNat_lt
      have low : UInt8.ofNat (byte.toNat + 256 * ofLittleEndian rest) = byte := by
        apply UInt8.toNat_inj.mp
        rw [UInt8.toNat_ofNat']
        omega
      have high : (byte.toNat + 256 * ofLittleEndian rest) / 256 = ofLittleEndian rest := by
        omega
      rw [List.length_cons, ofLittleEndian, littleEndian, low, high, ih]

theorem ofLittleEndian_lt (image : List UInt8) :
    ofLittleEndian image < Nat.pow 256 image.length := by
  induction image with
  | nil => decide
  | cons byte rest ih =>
      have small := byte.toNat_lt
      have split : Nat.pow 256 (rest.length + 1) = 256 * Nat.pow 256 rest.length :=
        Nat.mul_comm _ _
      rw [List.length_cons, ofLittleEndian, split]
      omega

/-- An integer keeps its image, whatever bytes these are. -/
theorem Literal.bytes_ofImage {dtype : DType} (whole : dtype.isInteger = true)
    {image : List UInt8} (sized : image.length = dtype.width) :
    (ofImage dtype image).bytes = image := by
  have back := littleEndian_ofLittleEndian image
  have bound := ofLittleEndian_lt image
  rw [sized] at back bound
  cases dtype with
  | bool => cases whole
  | f32 => cases whole
  | f64 => cases whole
  | u8 =>
      have same : [UInt8.ofNat (ofLittleEndian image)] = image := by
        rw [← Nat.mod_eq_of_lt bound, Nat.mod_eq_of_lt bound]
        exact back
      exact same
  | i32 =>
      have same : (Int32.ofNat (ofLittleEndian image)).toUInt32.toNat = ofLittleEndian image :=
        UInt32.toNat_ofNat_of_lt' bound
      rw [ofImage, bytes, same]
      exact back
  | i64 =>
      have same : (Int64.ofNat (ofLittleEndian image)).toUInt64.toNat = ofLittleEndian image :=
        UInt64.toNat_ofNat_of_lt' bound
      rw [ofImage, bytes, same]
      exact back

/-- The groups of an image make up the image. -/
private theorem Storage.flatten_groups {width : Nat} (positive : 0 < width) {image : List UInt8}
    (aligned : width ∣ image.length) {show_group : List UInt8 → List UInt8}
    (kept : ∀ group : List UInt8, group.length = width → show_group group = group) :
    (groups width positive image).flatMap show_group = image := by
  induction image using groups.induct width positive with
  | case1 image none =>
      rw [groups, if_pos none, List.isEmpty_iff.mp none]
      rfl
  | case2 image some ih =>
      have nonempty : 0 < image.length := by
        rw [List.length_pos_iff]
        exact fun none => some (List.isEmpty_iff.mpr none)
      have enough := Nat.le_of_dvd nonempty aligned
      have rest : width ∣ (image.drop width).length := by
        rw [List.length_drop]
        exact Nat.dvd_sub aligned (Nat.dvd_refl width)
      rw [groups, if_neg some, List.flatMap_cons, ih rest,
        kept _ (List.length_take_of_le enough), List.take_append_drop]

/-- A storage of integers has the image that it was read from. -/
theorem Storage.bytes_ofBytes {dtype : DType} (whole : dtype.isInteger = true)
    {image : List UInt8} {storage : Storage} (done : ofBytes dtype image = .ok storage) :
    storage.bytes = image := by
  unfold ofBytes at done
  split at done
  case isFalse => cases done
  case isTrue aligned =>
    cases done
    simp only [bytes, List.flatMap_map]
    exact flatten_groups dtype.width_pos (Nat.dvd_of_mod_eq_zero aligned)
      fun _ sized => Literal.bytes_ofImage whole sized

/-! ### Buffers -/

namespace BufferRecord

/-- A buffer is read when its text is, and when the image holds whole elements. -/
private theorem toStorage_eq_ok {buffer : BufferRecord} {storage : Storage} :
    buffer.toStorage = .ok storage ↔
      ∃ image, Hex.decode buffer.data = .ok image ∧ buffer.dtype.width ∣ image.length ∧
        Storage.ofBytes buffer.dtype image = .ok storage := by
  unfold toStorage
  cases Hex.decode buffer.data with
  | error failure => simp [bind, Except.bind]
  | ok image =>
      simp only [bind, Except.bind, Except.ok.injEq, exists_eq_left', Nat.dvd_iff_mod_eq_zero]
      split
      case isTrue broken => simp [throw, throwThe, MonadExceptOf.throw, broken]
      case isFalse aligned => simp [not_not.mp aligned]

private theorem toStorage_error {buffer : BufferRecord} {failure : Error}
    (failed : buffer.toStorage = .error failure) : ∃ reason, failure = .archive reason := by
  unfold toStorage at failed
  cases decoded : Hex.decode buffer.data with
  | error other =>
      rw [decoded] at failed
      cases failed
      exact Hex.decode_error decoded
  | ok image =>
      rw [decoded] at failed
      simp only [bind, Except.bind] at failed
      split at failed
      case isTrue => exact ⟨_, (Except.error.inj failed).symm⟩
      case isFalse aligned =>
        have whole := not_not.mp aligned
        simp only [Storage.ofBytes, if_pos whole] at failed
        cases failed

private theorem isOk_toStorage_iff (buffer : BufferRecord) :
    (∃ storage, buffer.toStorage = .ok storage) ↔
      Hex.Paired buffer.data.toList ∧ 2 * buffer.dtype.width ∣ buffer.data.length := by
  have sized {image : List UInt8} (decoded : Hex.decode buffer.data = .ok image) :
      buffer.data.length = 2 * image.length := by
    rw [← Hex.length_encode, (Hex.paired_of_decode decoded).2, String.length_map]
  constructor
  · rintro ⟨storage, done⟩
    obtain ⟨image, decoded, aligned, -⟩ := toStorage_eq_ok.mp done
    rw [sized decoded]
    exact ⟨(Hex.paired_of_decode decoded).1, Nat.mul_dvd_mul_left 2 aligned⟩
  · rintro ⟨paired, aligned⟩
    obtain ⟨image, decoded⟩ := Hex.exists_decode paired
    rw [sized decoded] at aligned
    obtain ⟨count, aligned⟩ := Nat.dvd_of_mul_dvd_mul_left Nat.two_pos aligned
    obtain ⟨storage, made, -, -⟩ :=
      Storage.ofBytes_of_length (aligned.trans (Nat.mul_comm _ count))
    exact ⟨storage, toStorage_eq_ok.mpr ⟨image, decoded, ⟨count, aligned⟩, made⟩⟩

private theorem data_ofStorage {buffer : BufferRecord} {storage : Storage}
    (done : buffer.toStorage = .ok storage) (whole : buffer.dtype.isInteger = true) :
    (ofStorage storage).data = buffer.data.map Hex.rewritten := by
  obtain ⟨image, decoded, -, made⟩ := toStorage_eq_ok.mp done
  rw [ofStorage, Storage.bytes_ofBytes whole made]
  exact (Hex.paired_of_decode decoded).2

/-- Exactly the texts of pairs with a whole number of elements are read, every other text is an
archive error, and a buffer of integers that was read is written with the same digits in lower
case, zeros in the place of plus signs.  So a text without plus signs is read if and only if
it consists of digits, as many as whole elements take, and is written in lower case. -/
theorem toStorage_accepts (buffer : BufferRecord) :
    ((∃ storage, buffer.toStorage = .ok storage) ↔
        Hex.Paired buffer.data.toList ∧ 2 * buffer.dtype.width ∣ buffer.data.length) ∧
      (∀ failure, buffer.toStorage = .error failure → ∃ reason, failure = .archive reason) ∧
      (∀ storage, buffer.toStorage = .ok storage → buffer.dtype.isInteger = true →
        (ofStorage storage).data = buffer.data.map Hex.rewritten) ∧
      ('+' ∉ buffer.data.toList →
        ((∃ storage, buffer.toStorage = .ok storage) ↔
          (∀ character ∈ buffer.data.toList, Hex.IsDigit character) ∧
            2 * buffer.dtype.width ∣ buffer.data.length) ∧
        ∀ storage, buffer.toStorage = .ok storage → buffer.dtype.isInteger = true →
          (ofStorage storage).data = buffer.data.toLower) := by
  refine ⟨isOk_toStorage_iff buffer, fun _ => toStorage_error, fun _ => data_ofStorage, ?_⟩
  intro unsigned
  have digits := Hex.paired_iff unsigned
  constructor
  · rw [isOk_toStorage_iff, digits, String.length_toList]
    constructor
    · rintro ⟨⟨-, digits⟩, aligned⟩
      exact ⟨digits, aligned⟩
    · rintro ⟨digits, aligned⟩
      exact ⟨⟨Nat.mod_eq_zero_of_dvd (Nat.dvd_trans (Nat.dvd_mul_right 2 _) aligned), digits⟩,
        aligned⟩
  · intro storage done whole
    have paired := ((isOk_toStorage_iff buffer).mp ⟨storage, done⟩).1
    rw [data_ofStorage done whole]
    apply String.toList_inj.mp
    rw [String.toLower, String.toList_map, String.toList_map]
    exact Hex.map_rewritten (digits.mp paired).2

/-- Four bytes in digits of both cases are read, and written in lower case. -/
theorem toStorage_accepts_mixed :
    '+' ∉ "0aF1c2D3".toList ∧
      ∃ storage, toStorage { dtype := .i32, data := "0aF1c2D3" } = .ok storage ∧
        (ofStorage storage).data = "0aF1c2D3".toLower := by
  have unsigned : '+' ∉ "0aF1c2D3".toList := by simp
  have digits : ∀ character ∈ "0aF1c2D3".toList, Hex.IsDigit character := by simp [Hex.IsDigit]
  obtain ⟨accepted, written⟩ :=
    (toStorage_accepts { dtype := .i32, data := "0aF1c2D3" }).2.2.2 unsigned
  obtain ⟨storage, done⟩ := accepted.mpr ⟨digits, 1, rfl⟩
  exact ⟨unsigned, storage, done, written storage done rfl⟩

/-- A plus sign in front of a digit is read, and is no digit. -/
theorem plus_sign_read :
    (∃ storage, toStorage { dtype := .u8, data := "+f" } = .ok storage) ∧
      ¬ ∀ character ∈ "+f".toList, Hex.IsDigit character :=
  ⟨⟨_, rfl⟩, by simp [Hex.IsDigit]⟩

end BufferRecord
end TensorGraph

import EnergyDisplay.PanicStore

/-! A stored panic message is read back whole, unless it is cut in the middle of
a character, and a record with one byte changed is not read at all. -/
namespace EnergyDisplay.PanicStore

open LittleEndian
open Logging (panicMessageCapacity)

variable {message : List Char} {record : AlignedRecord}

/-! ## The bytes of a record -/

/-- Version, reserved byte and length: the part of the header that is summed. -/
def fields (message : List Char) : List UInt8 :=
  [recordVersion, 0] ++ toLeBytes 2 (payload message).length

def sum (message : List Char) : List UInt8 :=
  toLeBytes 4 (checksum (fields message) (payload message)).toNat

/-- What is left of the erased record behind the message. -/
def padding (message : List Char) : List UInt8 :=
  List.replicate (panicMessageCapacity - (payload message).length) 0xff

theorem length_fields (message : List Char) : (fields message).length = 4 := by simp [fields]

theorem length_sum (message : List Char) : (sum message).length = 4 := length_toLeBytes 4 _

theorem payload_fits (message : List Char) : (payload message).length ≤ panicMessageCapacity :=
  (length_payload message).trans_le (min_le_right _ _)

theorem erased_bytes : AlignedRecord.erased.bytes =
    List.replicate recordHeaderSize 0xff ++ List.replicate panicMessageCapacity 0xff := by
  rw [List.replicate_append_replicate]
  rfl

theorem encode_bytes (message : List Char) : (encode message).bytes =
    recordMagic ++ (fields message ++ (sum message ++ (payload message ++ padding message))) := by
  have tail : ∀ header : List UInt8, header.length = recordHeaderSize →
      (header ++ List.replicate panicMessageCapacity 0xff).drop (recordHeaderSize + (payload message).length) =
        padding message := by
    intro header size
    rw [← size, List.drop_append, List.drop_of_length_le (Nat.le_add_right _ _), Nat.add_sub_cancel_left,
      List.nil_append, List.drop_replicate]
    rfl
  simp [encode, AlignedRecord.copyFromSlice, AlignedRecord.set, AlignedRecord.slice, erased_bytes, recordMagic,
    recordHeaderSize, toLeBytes, List.replicate_succ, fields, sum, checksum]
  exact tail (recordMagic ++ (fields message ++ List.replicate 4 0xff)) rfl

theorem slice_within {before part after : List UInt8} (split : record.bytes = before ++ (part ++ after))
    {start : ℕ} (starts : before.length = start) (first length : ℕ) (inside : first + length ≤ part.length) :
    record.slice (start + first) (start + first + length) = (part.drop first).take length := by
  rw [AlignedRecord.slice, split, ← starts, ← List.drop_drop, List.drop_left, Nat.add_sub_cancel_left,
    List.drop_append_of_le_length (by omega), List.take_append_of_le_length (by rw [List.length_drop]; omega)]

/-- Reading a record, field by field. -/
theorem decode_eq {magic header check rest : List UInt8}
    (bytes : record.bytes = magic ++ (header ++ (check ++ rest))) (magics : magic.length = 8)
    (headers : header.length = 4) (checks : check.length = 4) :
    decode record =
      if magic ≠ recordMagic ∨ header.take 1 ≠ [recordVersion] then none
      else if panicMessageCapacity < fromLeBytes (header.drop 2) then none
      else if (checksum header (rest.take (fromLeBytes (header.drop 2)))).toNat ≠ fromLeBytes check then none
      else (fromUtf8 (rest.take (fromLeBytes (header.drop 2)))).bind
        fun payload => HeaplessString.pushStr .empty payload := by
  have start : record.bytes = [] ++ (magic ++ (header ++ (check ++ rest))) := bytes
  have later : record.bytes = (magic ++ header) ++ (check ++ rest) := by simp [bytes]
  have last : record.bytes = (magic ++ header ++ check) ++ rest := by simp [bytes]
  have empty : ([] : List UInt8).length = 0 := rfl
  have atMagic : record.slice 0 8 = magic := by
    rw [slice_within start empty 0 8 (by omega), List.drop_zero, List.take_of_length_le magics.le]
  have atVersion : record.slice 8 9 = header.take 1 := slice_within bytes magics 0 1 (by omega)
  have atHeader : record.slice 8 12 = header := by
    rw [slice_within bytes magics 0 4 (by omega), List.drop_zero, List.take_of_length_le headers.le]
  have atLength : record.slice 10 12 = header.drop 2 := by
    rw [slice_within bytes magics 2 2 (by omega), List.take_of_length_le (by simp [headers])]
  have atCheck : record.slice 12 16 = check := by
    have starts : (magic ++ header).length = 12 := by simp [magics, headers]
    rw [slice_within later starts 0 4 (by omega), List.drop_zero, List.take_of_length_le checks.le]
  have atRest : ∀ length, record.slice recordHeaderSize (recordHeaderSize + length) = rest.take length := by
    intro length
    have starts : (magic ++ header ++ check).length = recordHeaderSize := by
      simp [magics, headers, checks, recordHeaderSize]
    rw [AlignedRecord.slice, last, ← starts, List.drop_left, Nat.add_sub_cancel_left]
  simp only [decode, atMagic, atVersion, atLength, atHeader, atCheck, atRest]

/-! ## What comes back -/

theorem fields_version (message : List Char) : (fields message).take 1 = [recordVersion] := rfl

theorem fields_length (message : List Char) : fromLeBytes ((fields message).drop 2) = (payload message).length :=
  fromLeBytes_toLeBytes ((payload_fits message).trans_lt (by decide))

theorem fromLeBytes_sum (message : List Char) :
    fromLeBytes (sum message) = (checksum (fields message) (payload message)).toNat :=
  fromLeBytes_toLeBytes (UInt32.toNat_lt _)

theorem take_payload (message : List Char) {stored : List UInt8} (size : stored.length = (payload message).length) :
    (stored ++ padding message).take (payload message).length = stored := by
  rw [← size, List.take_left]

theorem decode_encode (message : List Char) :
    decode (encode message) = (fromUtf8 (payload message)).bind fun text => HeaplessString.pushStr .empty text := by
  rw [decode_eq (encode_bytes message) rfl (length_fields message) (length_sum message), fields_version,
    fields_length, take_payload message rfl, fromLeBytes_sum]
  simp [payload_fits]

/-- The bytes that are kept are those of a front of the message, or no text. -/
theorem fromUtf8_payload {decoded : List Char} : fromUtf8 (payload message) = some decoded ↔
    decoded <+: message ∧ utf8Len decoded = min (utf8Len message) panicMessageCapacity := by
  rw [payload, length_utf8Bytes]
  exact fromUtf8_take (min_le_left _ _)

/-- The longest front of a message that a record has room for. -/
structure LongestFront (message front : List Char) : Prop where
  begins : front <+: message
  fits : utf8Len front ≤ panicMessageCapacity
  longest : ∀ other, other <+: message → utf8Len other ≤ panicMessageCapacity → other.length ≤ front.length

/-- A message is read back: whole if it fits, and its longest front if not. -/
def ComesBack (message : List Char) : Prop :=
  ∃ stored, decode (encode message) = some stored ∧
    (utf8Len message ≤ panicMessageCapacity → stored.items = message) ∧ LongestFront message stored.items

/-- A front as long as a record has room for, or the whole message, is the longest. -/
theorem longestFront_of_full {front : List Char} (begins : front <+: message)
    (full : utf8Len front = min (utf8Len message) panicMessageCapacity) : LongestFront message front := by
  refine ⟨begins, full.trans_le (min_le_right _ _), fun other part fits => ?_⟩
  have shorter : utf8Len other ≤ utf8Len front := by
    obtain ⟨rest, split⟩ := part
    have lengths := congrArg utf8Len split
    rw [utf8Len_append] at lengths
    omega
  exact (prefix_of_utf8Len_le part begins shorter).length_le

/-- **A panic message comes back unless it is cut in a character.** A message
that fits is read back whole. Of a longer one `encode` keeps the first bytes;
they are its longest front that fits if they end with a character, and otherwise
`decode` takes them for no text and nothing comes back. -/
theorem panic_message_comes_back_iff (message : List Char) : ComesBack message ↔
    utf8Len message ≤ panicMessageCapacity ∨ IsCharBoundary message panicMessageCapacity := by
  constructor
  · rintro ⟨stored, decodes, _⟩
    rw [decode_encode, Option.bind_eq_some_iff] at decodes
    obtain ⟨decoded, decodes, _⟩ := decodes
    obtain ⟨begins, full⟩ := fromUtf8_payload.mp decodes
    rcases le_or_gt (utf8Len message) panicMessageCapacity with short | long
    · exact Or.inl short
    · exact Or.inr ⟨decoded, begins, full.trans (min_eq_right long.le)⟩
  · intro whole
    obtain ⟨front, begins, full⟩ : ∃ front, front <+: message ∧
        utf8Len front = min (utf8Len message) panicMessageCapacity := by
      rcases whole with short | ⟨front, begins, full⟩
      · exact ⟨message, List.prefix_refl message, (min_eq_left short).symm⟩
      · obtain ⟨rest, split⟩ := id begins
        have lengths := congrArg utf8Len split
        rw [utf8Len_append] at lengths
        exact ⟨front, begins, by omega⟩
    have longest := longestFront_of_full begins full
    obtain ⟨stored, pushed, items⟩ : ∃ stored : PanicMessage,
        HeaplessString.pushStr .empty front = some stored ∧ stored.items = front :=
      HeaplessString.pushStr_fits (by simpa using longest.fits)
    refine ⟨stored, ?_, fun short => ?_, items ▸ longest⟩
    · rw [decode_encode, fromUtf8_payload.mpr ⟨begins, full⟩]
      exact pushed
    · have whole := longest.longest message (List.prefix_refl message) short
      exact items.trans (begins.eq_of_length_le whole)

/-- 511 letters and a letter of two bytes. -/
def cutMessage : List Char := List.replicate 511 'a' ++ ['é']

theorem cut_message_is_lost : ¬ ∀ message, ComesBack message := by
  intro all
  have letters : utf8Len (List.replicate 511 'a') = 511 := by
    rw [utf8Len, List.map_replicate, List.sum_replicate]
    rfl
  rcases (panic_message_comes_back_iff cutMessage).mp (all cutMessage) with short | ⟨front, begins, full⟩
  · rw [cutMessage, utf8Len_append, letters] at short
    revert short
    decide
  · rcases List.prefix_concat_iff.mp begins with whole | ⟨rest, split⟩
    · rw [whole, utf8Len_append, letters] at full
      revert full
      decide
    · have lengths := congrArg utf8Len split
      rw [utf8Len_append, letters, full, panicMessageCapacity] at lengths
      omega

/-! ## One byte changed -/

theorem checksum_eq (header payload : List UInt8) :
    checksum header payload = Fnv.hash (Fnv.hash Fnv.offsetBasis header) payload := List.foldl_append

theorem set_ne {bytes : List UInt8} {index : ℕ} {byte : UInt8} (inside : index < bytes.length)
    (differs : bytes[index]? ≠ some byte) : bytes.set index byte ≠ bytes := by
  intro same
  apply differs
  rw [← same]
  exact List.getElem?_set_self inside

theorem hash_changed {bytes : List UInt8} {index : ℕ} {byte : UInt8} (inside : index < bytes.length)
    (differs : bytes[index]? ≠ some byte) (value : UInt32) :
    Fnv.hash value (bytes.set index byte) ≠ Fnv.hash value bytes := by
  refine Fnv.hash_set_ne inside ?_ value
  rintro rfl
  exact differs (List.getElem?_eq_getElem inside)

/-- A record that promises the length of the message and the sum of its own
bytes, but holds others with another sum. -/
theorem decode_unsummed (message : List Char) {header stored check : List UInt8} (size : header.length = 4)
    (checks : check.length = 4) (sized : stored.length = (payload message).length)
    (bytes : record.bytes = recordMagic ++ (header ++ (check ++ (stored ++ padding message))))
    (length : header.drop 2 = (fields message).drop 2)
    (changed : (checksum header stored).toNat ≠ fromLeBytes check) : decode record = none := by
  rw [decode_eq bytes rfl size checks, length, fields_length, take_payload message sized,
    if_neg (Nat.not_lt.mpr (payload_fits message)), if_pos changed, ite_self]

variable {index : ℕ} {byte : UInt8}

theorem magic_changed (message : List Char) (inside : index < recordMagic.length)
    (differs : recordMagic[index]? ≠ some byte)
    (bytes : record.bytes = recordMagic.set index byte ++
      (fields message ++ (sum message ++ (payload message ++ padding message)))) : decode record = none := by
  rw [decode_eq bytes (by rw [List.length_set]; rfl) (length_fields message) (length_sum message),
    if_pos (Or.inl (set_ne inside differs))]

theorem fields_changed (message : List Char) (inside : index < 2)
    (differs : (fields message)[index]? ≠ some byte)
    (bytes : record.bytes = recordMagic ++
      ((fields message).set index byte ++ (sum message ++ (payload message ++ padding message)))) :
    decode record = none := by
  have size : ((fields message).set index byte).length = 4 := by rw [List.length_set, length_fields]
  have length : ((fields message).set index byte).drop 2 = (fields message).drop 2 := by
    rw [List.drop_set_of_lt inside]
  have hashes := hash_changed (by rw [length_fields]; omega) differs Fnv.offsetBasis
  refine decode_unsummed message size (length_sum message) rfl bytes length ?_
  rw [fromLeBytes_sum]
  intro same
  have whole := UInt32.toNat_inj.mp same
  rw [checksum_eq, checksum_eq] at whole
  exact hashes (Fnv.hash_injective (payload message) whole)

theorem sum_changed (message : List Char) (inside : index < (sum message).length)
    (differs : (sum message)[index]? ≠ some byte)
    (bytes : record.bytes = recordMagic ++
      (fields message ++ ((sum message).set index byte ++ (payload message ++ padding message)))) :
    decode record = none := by
  refine decode_unsummed message (length_fields message) (by rw [List.length_set, length_sum]) rfl bytes rfl ?_
  rw [← fromLeBytes_sum]
  intro same
  exact set_ne inside differs (fromLeBytes_injective (List.length_set ..) same.symm)

theorem payload_changed (message : List Char) (inside : index < (payload message).length)
    (differs : (payload message)[index]? ≠ some byte)
    (bytes : record.bytes = recordMagic ++
      (fields message ++ (sum message ++ ((payload message).set index byte ++ padding message)))) :
    decode record = none := by
  refine decode_unsummed message (length_fields message) (length_sum message) (List.length_set ..) bytes rfl ?_
  rw [fromLeBytes_sum]
  intro same
  have whole := UInt32.toNat_inj.mp same
  rw [checksum_eq, checksum_eq] at whole
  exact hash_changed inside differs _ whole

/-- **One changed byte of a record is always noticed.** Whatever byte up to the
end of the message is replaced by another value, except the two of the length,
`decode` refuses the record. -/
theorem corrupted_byte_detected (message : List Char) (short : utf8Len message ≤ panicMessageCapacity)
    (index : ℕ) (inside : index < recordHeaderSize + utf8Len message) (low : index ≠ 10) (high : index ≠ 11)
    (byte : UInt8) (differs : (encode message).bytes[index]? ≠ some byte) :
    decode ((encode message).set index byte) = none := by
  have size : (payload message).length = utf8Len message := by rw [length_payload, min_eq_left short]
  have changed : ((encode message).set index byte).bytes = (encode message).bytes.set index byte := rfl
  have magics : recordMagic.length = 8 := rfl
  have headers := length_fields message
  have checks := length_sum message
  rw [encode_bytes] at changed differs
  unfold recordHeaderSize at inside
  rcases Nat.lt_or_ge index 8 with inMagic | afterMagic
  · rw [List.getElem?_append_left inMagic] at differs
    rw [List.set_append_left _ _ inMagic] at changed
    exact magic_changed message inMagic differs changed
  rw [List.getElem?_append_right (by omega)] at differs
  rw [List.set_append_right _ _ (by omega)] at changed
  rcases Nat.lt_or_ge index 12 with inFields | afterFields
  · rw [List.getElem?_append_left (by omega)] at differs
    rw [List.set_append_left _ _ (by omega)] at changed
    exact fields_changed message (by omega) differs changed
  rw [List.getElem?_append_right (by omega)] at differs
  rw [List.set_append_right _ _ (by omega)] at changed
  rcases Nat.lt_or_ge index 16 with inSum | afterSum
  · rw [List.getElem?_append_left (by omega)] at differs
    rw [List.set_append_left _ _ (by omega)] at changed
    exact sum_changed message (by omega) differs changed
  rw [List.getElem?_append_right (by omega), List.getElem?_append_left (by omega)] at differs
  rw [List.set_append_right _ _ (by omega), List.set_append_left _ _ (by omega)] at changed
  exact payload_changed message (by omega) differs changed

/-- The record of the source's test. -/
theorem corrupted_panic_detected :
    decode ((encode "panic".toList).set recordHeaderSize 0x71) = none :=
  corrupted_byte_detected "panic".toList (by decide) recordHeaderSize (by decide) (by decide) (by decide) 0x71
    (by decide)

end EnergyDisplay.PanicStore

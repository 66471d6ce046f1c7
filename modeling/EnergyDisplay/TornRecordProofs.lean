import EnergyDisplay.PanicHardware
import EnergyDisplay.PanicStoreProofs

/-! A record whose write was cut short. Flash that was not written still holds
`0xff`, a byte no text has, so what is read back is the message or nothing. -/
namespace EnergyDisplay.PanicStore

open LittleEndian
open Logging (panicMessageCapacity)

variable {message : List Char} {record : AlignedRecord} {bytes more : List UInt8} {done : ℕ}

/-- The bytes of a write that came `done` bytes far, in erased flash. -/
def torn (done : ℕ) (bytes : List UInt8) : List UInt8 :=
  bytes.take done ++ List.replicate (bytes.length - done) 0xff

@[simp] theorem length_torn : (torn done bytes).length = bytes.length := by
  simp only [torn, List.length_append, List.length_take, List.length_replicate]
  omega

theorem torn_append : torn done (bytes ++ more) = torn done bytes ++ torn (done - bytes.length) more := by
  rcases Nat.lt_or_ge done bytes.length with within | beyond
  · have none_ : done - bytes.length = 0 := by omega
    have left : bytes.length + more.length - done = (bytes.length - done) + more.length := by omega
    simp only [torn, List.take_append_of_le_length within.le, none_, List.take_zero, List.nil_append,
      Nat.sub_zero, List.length_append, left, List.append_assoc, List.replicate_append_replicate]
  · have whole : bytes.length - done = 0 := by omega
    have left : bytes.length + more.length - done = more.length - (done - bytes.length) := by omega
    simp only [torn, List.take_append, List.take_of_length_le beyond, whole, List.replicate_zero,
      List.append_nil, List.length_append, left, List.append_assoc]

theorem torn_whole (whole : bytes.length ≤ done) : torn done bytes = bytes := by
  simp [torn, List.take_of_length_le whole, Nat.sub_eq_zero_of_le whole]

/-- A write that is not whole leaves the last byte erased. -/
theorem getLast?_torn (short : done < bytes.length) : (torn done bytes).getLast? = some 0xff := by
  have some_ : List.replicate (bytes.length - done) (0xff : UInt8) ≠ [] := by
    rw [ne_eq, List.replicate_eq_nil_iff]
    omega
  rw [torn, List.getLast?_append_of_ne_nil _ some_, List.getLast?_replicate, if_neg (by omega)]

theorem torn_padding (message : List Char) : torn done (padding message) = padding message := by
  simp only [torn, padding, List.length_replicate, List.take_replicate, List.replicate_append_replicate]
  congr 1
  omega

/-! ## Erased bytes are no text -/

theorem erased_ne_ofNat {value : ℕ} (other : value % 256 ≠ 255) : ¬ (0xff : UInt8) = UInt8.ofNat value := by
  intro same
  apply other
  rw [← UInt8.toNat_ofNat', ← same]
  rfl

theorem utf8EncodeChar_ne_erased (character : Char) : 0xff ∉ String.utf8EncodeChar character := by
  fun_cases String.utf8EncodeChar character
  all_goals simp only [List.mem_cons, List.not_mem_nil, or_false, not_or]
  case case1 => exact erased_ne_ofNat (by omega)
  case case2 => exact ⟨erased_ne_ofNat (by omega), erased_ne_ofNat (by omega)⟩
  case case3 =>
    exact ⟨erased_ne_ofNat (by omega), erased_ne_ofNat (by omega), erased_ne_ofNat (by omega)⟩
  case case4 =>
    refine ⟨erased_ne_ofNat (by omega), erased_ne_ofNat (by omega), erased_ne_ofNat (by omega), ?_⟩
    exact erased_ne_ofNat (by omega)

/-- Flash that was not written is no part of a text. -/
theorem fromUtf8_erased (erased : 0xff ∈ bytes) : fromUtf8 bytes = none := by
  by_contra decodes
  obtain ⟨text, decodes⟩ := Option.ne_none_iff_exists'.mp decodes
  rw [fromUtf8_eq_some.mp decodes, utf8Bytes, List.mem_flatMap] at erased
  obtain ⟨character, _, has⟩ := erased
  exact utf8EncodeChar_ne_erased character has

/-! ## Reading what is left -/

/-- A length whose high byte is erased is above every message. -/
theorem torn_length {header : List UInt8} (size : header.length = 4) (erased : header.getLast? = some 0xff) :
    panicMessageCapacity < fromLeBytes (header.drop 2) := by
  match header, size with
  | [_, _, low, high], _ =>
    obtain rfl : high = 0xff := by simpa using erased
    simp only [List.drop_succ_cons, List.drop_zero, fromLeBytes, panicMessageCapacity]
    have : (0xff : UInt8).toNat = 255 := rfl
    omega

/-- Whatever part of a record is written, it reads as nothing or as the whole. -/
theorem decode_torn (message : List Char) (bytes : record.bytes = torn done (encode message).bytes) :
    decode record = none ∨ decode record = decode (encode message) := by
  rw [encode_bytes, torn_append, torn_append, torn_append, torn_append, torn_padding] at bytes
  rw [decode_eq bytes (by rw [length_torn]; rfl) (by rw [length_torn, length_fields])
    (by rw [length_torn, length_sum])]
  rcases Nat.lt_or_ge done recordMagic.length with short | magics
  · refine Or.inl (if_pos (Or.inl fun same => ?_))
    have last := getLast?_torn short
    rw [same] at last
    revert last
    decide
  rw [torn_whole magics]
  rcases Nat.lt_or_ge (done - recordMagic.length) (fields message).length with short | fieldsWhole
  · have long := torn_length (by rw [length_torn, length_fields]) (getLast?_torn short)
    left
    rw [if_pos long, ite_self]
  rw [torn_whole fieldsWhole, fields_version, fields_length, take_payload message length_torn, if_neg (by simp),
    if_neg (Nat.not_lt.mpr (payload_fits message))]
  generalize done - recordMagic.length - (fields message).length = behind
  rcases Nat.lt_or_ge (behind - (sum message).length) (payload message).length with short | payloadWhole
  · left
    rw [fromUtf8_erased (List.mem_of_getLast? (getLast?_torn short)), Option.bind_none, ite_self]
  · rw [torn_whole payloadWhole, decode_encode]
    split
    · exact Or.inl rfl
    · exact Or.inr rfl

/-- A record whose erase has begun reads as nothing. -/
theorem decode_erasing {rest : List UInt8} (some_ : 0 < done)
    (bytes : record.bytes = List.replicate done 0xff ++ rest) : decode record = none := by
  have size := record.size
  obtain ⟨others, begins⟩ : ∃ others, record.bytes = 0xff :: others := by
    obtain ⟨before, rfl⟩ := Nat.exists_eq_add_of_lt some_
    rw [bytes, List.replicate_succ, List.cons_append]
    exact ⟨_, rfl⟩
  unfold decode
  refine if_pos (Or.inl fun same => ?_)
  rw [AlignedRecord.slice, begins, List.drop_zero, List.take_succ_cons] at same
  exact absurd (List.cons.inj same).1 (by decide)

/-- What fits a record is read back as it is. -/
theorem decode_encode_message (message : PanicMessage) : decode (encode message.items) = some message := by
  have fits : utf8Len message.items ≤ panicMessageCapacity := message.bounded
  obtain ⟨stored, pushed, items⟩ : ∃ stored : PanicMessage,
      HeaplessString.pushStr .empty message.items = some stored ∧ stored.items = [] ++ message.items :=
    HeaplessString.pushStr_fits (by simpa using fits)
  have whole : fromUtf8 (payload message.items) = some message.items :=
    fromUtf8_payload.mpr ⟨List.prefix_refl _, (min_eq_left fits).symm⟩
  rw [decode_encode, whole, Option.bind_some, pushed]
  obtain ⟨items', bounded⟩ := message
  obtain ⟨stored, bounded'⟩ := stored
  cases items
  rfl

end EnergyDisplay.PanicStore

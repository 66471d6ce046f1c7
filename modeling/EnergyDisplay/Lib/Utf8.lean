import EnergyDisplay.Lib.Heapless

/-! Texts as bytes: UTF-8 and `core::str::from_utf8`. No character begins like
another, so a text that is cut decodes only where the cut is between two
characters. -/
namespace EnergyDisplay

variable {text front : List Char} {bytes : List UInt8}

def utf8Bytes (text : List Char) : List UInt8 := text.flatMap String.utf8EncodeChar

/-- `core::str::from_utf8`. -/
def fromUtf8 (bytes : List UInt8) : Option (List Char) :=
  bytes.toByteArray.utf8Decode?.map Array.toList

@[simp] theorem utf8Bytes_nil : utf8Bytes [] = [] := rfl

@[simp] theorem utf8Bytes_cons (character : Char) (text : List Char) :
    utf8Bytes (character :: text) = String.utf8EncodeChar character ++ utf8Bytes text := rfl

@[simp] theorem utf8Bytes_append (first second : List Char) :
    utf8Bytes (first ++ second) = utf8Bytes first ++ utf8Bytes second := List.flatMap_append

@[simp] theorem length_utf8Bytes (text : List Char) : (utf8Bytes text).length = utf8Len text := by
  induction text with
  | nil => rfl
  | cons character text ih => simp [ih]

theorem utf8Bytes_utf8Encode (text : List Char) : (utf8Bytes text).toByteArray = text.utf8Encode := rfl

@[simp] theorem fromUtf8_utf8Bytes (text : List Char) : fromUtf8 (utf8Bytes text) = some text := by
  simp [fromUtf8, utf8Bytes_utf8Encode]

/-- Only the bytes of a text decode to it. -/
theorem fromUtf8_eq_some : fromUtf8 bytes = some text ↔ bytes = utf8Bytes text := by
  constructor
  · intro decodes
    obtain ⟨characters, decoded, rfl⟩ := Option.map_eq_some_iff.mp decodes
    have encoded : (bytes.toByteArray.utf8Decode?.get (by rw [decoded]; rfl)).toList.utf8Encode =
        bytes.toByteArray := ByteArray.utf8Encode_get_utf8Decode?
    simp only [decoded, Option.get_some] at encoded
    exact List.toByteArray_inj.mp (encoded.symm.trans (utf8Bytes_utf8Encode _).symm)
  · rintro rfl
    exact fromUtf8_utf8Bytes text

/-- The first character of a text is read off its bytes. -/
theorem utf8EncodeChar_append {first second : Char} {others rest : List UInt8}
    (same : String.utf8EncodeChar first ++ others = String.utf8EncodeChar second ++ rest) :
    first = second ∧ others = rest := by
  have heads := congrArg (fun bytes : List UInt8 => bytes.toByteArray.utf8DecodeChar? 0) same
  simp only [List.toByteArray_append, ← List.utf8Encode_singleton,
    List.utf8DecodeChar?_utf8Encode_singleton_append, Option.some.injEq] at heads
  subst heads
  exact ⟨rfl, List.append_cancel_left same⟩

/-- A text that begins a text byte for byte begins it character for character. -/
theorem prefix_of_utf8Bytes (begins : utf8Bytes front <+: utf8Bytes text) : front <+: text := by
  induction front generalizing text with
  | nil => exact List.nil_prefix
  | cons character front ih =>
    obtain ⟨rest, same⟩ := begins
    rw [utf8Bytes_cons, List.append_assoc] at same
    cases text with
    | nil =>
      have empty := congrArg List.length same
      have some_ := character.utf8Size_pos
      simp only [List.length_append, String.length_utf8EncodeChar, utf8Bytes_nil, List.length_nil] at empty
      omega
    | cons first text =>
      rw [utf8Bytes_cons] at same
      obtain ⟨rfl, others⟩ := utf8EncodeChar_append same
      exact (List.prefix_cons_inj character).mpr (ih ⟨rest, others⟩)

/-- `is_char_boundary`: the text has a front of this many bytes. -/
def IsCharBoundary (text : List Char) (index : ℕ) : Prop := ∃ front, front <+: text ∧ utf8Len front = index

/-- A text cut in the middle of a character is no text. -/
theorem fromUtf8_take {index : ℕ} (inside : index ≤ utf8Len text) {decoded : List Char} :
    fromUtf8 ((utf8Bytes text).take index) = some decoded ↔ decoded <+: text ∧ utf8Len decoded = index := by
  rw [fromUtf8_eq_some]
  constructor
  · intro cut
    refine ⟨prefix_of_utf8Bytes (cut ▸ List.take_prefix index _), ?_⟩
    have lengths := congrArg List.length cut
    rw [List.length_take, length_utf8Bytes, length_utf8Bytes] at lengths
    omega
  · rintro ⟨⟨rest, rfl⟩, rfl⟩
    rw [utf8Bytes_append, List.take_append_of_le_length (by simp), List.take_of_length_le (by simp)]

/-- Of two fronts of a text the shorter one begins the longer. -/
theorem prefix_of_utf8Len_le {first second : List Char} (left : first <+: text) (right : second <+: text)
    (shorter : utf8Len first ≤ utf8Len second) : first <+: second := by
  rcases List.prefix_or_prefix_of_prefix left right with begins | ⟨rest, rfl⟩
  · exact begins
  · cases rest with
    | nil => simp
    | cons character rest =>
      have some_ := character.utf8Size_pos
      rw [utf8Len_append, utf8Len_cons] at shorter
      omega

end EnergyDisplay

import EnergyDisplay.JsonWriterProofs

/-! Escaping loses nothing: what `JsonWriter` writes for a text is read back as
the text, whatever fragments it comes in. -/
namespace EnergyDisplay.Logging

open JsonText

variable {N : ℕ} {value : List Char}

theorem hex04_printable :
    ∀ code ≤ 0x1f, ∀ piece ∈ JsonWriter.hex04 code, piece.all (fun each => 0x20 ≤ each.toNat) = true := by
  decide

/-- Nothing that is written is a control character. -/
theorem pieces_printable (character : Char) :
    ∀ each ∈ (JsonWriter.pieces character).flatten, 0x20 ≤ each.toNat := by
  rcases pieces_cases character with ⟨letter, same, known⟩ | ⟨control, same⟩ | ⟨plain, same⟩
  · have letters : ∀ pair ∈ shortEscapes, 0x20 ≤ pair.1.toNat := by decide
    have printable : 0x20 ≤ letter.toNat := letters (letter, character) known
    rw [same]
    simpa using printable
  · rw [same, List.flatten_cons]
    refine List.forall_mem_append.mpr ⟨by simp, fun each inside => ?_⟩
    obtain ⟨piece, member, inside⟩ := List.mem_flatten.mp inside
    simpa using List.all_eq_true.mp (hex04_printable _ control piece member) each inside
  · rw [same]
    simpa using plain.1

/-- What is written for a character leaves no mark bare. -/
theorem bareMarks_pieces (character : Char) (rest : List Char) :
    bareMarks ((JsonWriter.pieces character).flatten ++ rest) = bareMarks rest := by
  rcases pieces_cases character with ⟨letter, same, known⟩ | ⟨control, same⟩ | ⟨plain, same⟩
  · rw [same]
    simp [bareMarks]
  · have digits : ∀ each ∈ (JsonWriter.hex04 character.toNat).flatten, each ≠ '"' ∧ each ≠ '\\' := by
      intro each inside
      obtain ⟨piece, member, inside⟩ := List.mem_flatten.mp inside
      obtain ⟨_, quote, backslash, _⟩ := (hex04_spec _ control).2 piece member
      exact ⟨fun mark => quote (mark ▸ inside), fun mark => backslash (mark ▸ inside)⟩
    rw [same]
    exact bareMarks_append digits rest
  · rw [same]
    exact bareMarks_append (by simpa using plain.2) rest

theorem escaped_cons (character : Char) (rest : List Char) :
    escaped (character :: rest) = (JsonWriter.pieces character).flatten ++ escaped rest := by
  rw [escaped, List.flatMap_cons, List.flatten_append]
  rfl

theorem escaped_printable (value : List Char) : ∀ each ∈ escaped value, 0x20 ≤ each.toNat := by
  induction value with
  | nil => simp [escaped]
  | cons character rest ih =>
    rw [escaped_cons]
    exact List.forall_mem_append.mpr ⟨pieces_printable character, ih⟩

theorem bareMarks_escaped (value : List Char) : bareMarks (escaped value) = [] := by
  induction value with
  | nil => rfl
  | cons character rest ih => rw [escaped_cons, bareMarks_pieces, ih]

/-- **Escaping is lossless, in whatever fragments a text comes.** If the escaped
form fits, every split of the text into fragments writes it, and nothing else.
It has no control character and no quote or backslash that is not escaped, and a
JSON reader takes it back for the text. -/
theorem json_escaping_lossless (output : HeaplessString N) (value : List Char) (fragments : List (List Char))
    (split : fragments.flatten = value) (fits : utf8Len output.items + utf8Len (escaped value) ≤ N) :
    (JsonWriter.write output fragments).2 = true ∧
      (JsonWriter.write output fragments).1.items = output.items ++ escaped value ∧
      (∀ each ∈ escaped value, 0x20 ≤ each.toNat) ∧ bareMarks (escaped value) = [] ∧
      unescape (escaped value) = some value := by
  obtain ⟨whole, items⟩ := HeaplessString.writePieces_fits fits
  rw [write_eq, split, writeStr_eq]
  exact ⟨whole, items, escaped_printable value, bareMarks_escaped value, unescape_body (body_escaped value)⟩

/-- A quote, a line break and a bell, cut behind the quote. -/
theorem json_escaping_lossless_bell :
    (JsonWriter.write (.empty : HeaplessString 16) [['"'], ['\n', '\x07']]).2 = true ∧
      (JsonWriter.write (.empty : HeaplessString 16) [['"'], ['\n', '\x07']]).1.items =
        (.empty : HeaplessString 16).items ++ escaped ['"', '\n', '\x07'] ∧
      (∀ each ∈ escaped ['"', '\n', '\x07'], 0x20 ≤ each.toNat) ∧
      bareMarks (escaped ['"', '\n', '\x07']) = [] ∧
      unescape (escaped ['"', '\n', '\x07']) = some ['"', '\n', '\x07'] :=
  json_escaping_lossless .empty ['"', '\n', '\x07'] [['"'], ['\n', '\x07']] rfl (by decide)

example : escaped ['"', '\n', '\x07'] = "\\\"\\n\\u0007".toList := by decide

end EnergyDisplay.Logging

import EnergyDisplay.Lib.Json
import EnergyDisplay.Logging

/-! How `JsonWriter` escapes a text: in pieces that a JSON reader takes back for
its characters, whatever pieces the text itself came in. -/
namespace EnergyDisplay.Logging

open JsonText

variable {N : ℕ} {value : List Char}

/-! ## Escaping -/

/-- A text as it stands between quotes. -/
def escaped (value : List Char) : List Char := (value.flatMap JsonWriter.pieces).flatten

theorem writeStr_eq (output : HeaplessString N) (value : List Char) :
    JsonWriter.writeStr output value = output.writePieces (value.flatMap JsonWriter.pieces) := by
  induction value generalizing output with
  | nil => rfl
  | cons character rest ih =>
    rw [JsonWriter.writeStr, List.flatMap_cons, HeaplessString.writePieces_append]
    rcases output.writePieces (JsonWriter.pieces character) with ⟨longer, whole⟩
    cases whole with
    | true => exact ih longer
    | false => rfl

/-- How the arguments are cut into pieces makes no difference. -/
theorem write_eq (output : HeaplessString N) (values : List (List Char)) :
    JsonWriter.write output values = JsonWriter.writeStr output values.flatten := by
  induction values generalizing output with
  | nil => rfl
  | cons value rest ih =>
    rw [JsonWriter.write, List.flatten_cons, writeStr_eq, writeStr_eq, List.flatMap_append,
      HeaplessString.writePieces_append]
    rcases output.writePieces (value.flatMap JsonWriter.pieces) with ⟨longer, whole⟩
    cases whole with
    | true => exact (ih longer).trans (writeStr_eq longer _)
    | false => rfl

/-- The cases of `pieces`: a backslash and a letter, a code, or the character. -/
theorem pieces_cases (character : Char) :
    (∃ letter, JsonWriter.pieces character = [['\\', letter]] ∧ (letter, character) ∈ shortEscapes) ∨
      (character.toNat ≤ 0x1f ∧
        JsonWriter.pieces character = ['\\', 'u'] :: JsonWriter.hex04 character.toNat) ∨
      (Plain character ∧ JsonWriter.pieces character = [[character]]) := by
  unfold JsonWriter.pieces
  split
  case isTrue same => exact Or.inl ⟨'"', rfl, by subst same; decide⟩
  case isFalse quote =>
  split
  case isTrue same => exact Or.inl ⟨'\\', rfl, by subst same; decide⟩
  case isFalse backslash =>
  split
  case isTrue same => exact Or.inl ⟨'n', rfl, by subst same; decide⟩
  split
  case isTrue same => exact Or.inl ⟨'r', rfl, by subst same; decide⟩
  split
  case isTrue same => exact Or.inl ⟨'t', rfl, by subst same; decide⟩
  split
  case isTrue control => exact Or.inr (Or.inl ⟨control, rfl⟩)
  case isFalse printable => exact Or.inr (Or.inr ⟨⟨by omega, quote, backslash⟩, rfl⟩)

/-- The code of a control character, digit by digit. -/
theorem hex04_spec : ∀ code ≤ 0x1f, codeUnit (JsonWriter.hex04 code).flatten = some code ∧
    ∀ piece ∈ JsonWriter.hex04 code, utf8Len piece ≤ 2 ∧
      '"' ∉ piece ∧ '\\' ∉ piece ∧ '\n' ∉ piece ∧ '\r' ∉ piece := by
  decide

theorem written_pieces (character : Char) : Written (JsonWriter.pieces character).flatten character := by
  rcases pieces_cases character with ⟨letter, same, known⟩ | ⟨control, same⟩ | ⟨plain, same⟩
  · rw [same]
    exact .short known
  · have unit := Written.unit (hex04_spec _ control).1 (Or.inl (by omega))
    rw [same]
    rwa [Char.ofNat_toNat] at unit
  · rw [same]
    exact .plain plain

/-- What is written between quotes is read back. -/
theorem body_escaped (value : List Char) : Body (escaped value) value := by
  induction value with
  | nil => exact .nil
  | cons character rest ih =>
    unfold escaped
    rw [List.flatMap_cons, List.flatten_append]
    exact .cons (written_pieces character) ih

/-- The scanner stays inside the string, whatever is cut between pieces. -/
theorem scan_piece {character : Char} {piece : List Char} (member : piece ∈ JsonWriter.pieces character)
    (depth : ℕ) : scan (.text, depth) piece = some (.text, depth) := by
  rcases pieces_cases character with ⟨letter, same, known⟩ | ⟨control, same⟩ | ⟨plain, same⟩
  · rw [same, List.mem_singleton] at member
    rw [member]
    rfl
  · rw [same, List.mem_cons] at member
    rcases member with rfl | digits
    · rfl
    · obtain ⟨_, quote, backslash, _⟩ := (hex04_spec _ control).2 piece digits
      exact scan_inside (fun each inside =>
        ⟨fun same => quote (same ▸ inside), fun same => backslash (same ▸ inside)⟩) depth
  · rw [same, List.mem_singleton] at member
    rw [member]
    exact scan_written (.plain plain) depth

theorem piece_no_break {character : Char} {piece : List Char}
    (member : piece ∈ JsonWriter.pieces character) : ∀ each ∈ piece, each ≠ '\n' ∧ each ≠ '\r' := by
  rcases pieces_cases character with ⟨letter, same, known⟩ | ⟨control, same⟩ | ⟨plain, same⟩
  · rw [same, List.mem_singleton] at member
    subst member
    have letters : ∀ pair ∈ shortEscapes, pair.1 ≠ '\n' ∧ pair.1 ≠ '\r' := by decide
    simpa using letters _ known
  · rw [same, List.mem_cons] at member
    rcases member with rfl | digits
    · simp
    · obtain ⟨_, _, _, feed, return_⟩ := (hex04_spec _ control).2 piece digits
      exact fun each inside => ⟨fun same => feed (same ▸ inside), fun same => return_ (same ▸ inside)⟩
  · rw [same, List.mem_singleton] at member
    subst member
    have lower := plain.1
    simp only [List.mem_singleton, forall_eq]
    constructor
    · rintro rfl
      revert lower
      decide
    · rintro rfl
      revert lower
      decide

/-- Escapes are cut into pieces of two bytes at most. -/
theorem wide_piece {character : Char} {piece : List Char} (member : piece ∈ JsonWriter.pieces character)
    (wide : 2 < utf8Len piece) : piece = [character] ∧ JsonWriter.pieces character = [[character]] := by
  rcases pieces_cases character with ⟨letter, same, known⟩ | ⟨control, same⟩ | ⟨plain, same⟩
  · rw [same, List.mem_singleton] at member
    subst member
    have two : ∀ pair ∈ shortEscapes, utf8Len ['\\', pair.1] = 2 := by decide
    exact absurd wide (by rw [two _ known]; decide)
  · rw [same, List.mem_cons] at member
    rcases member with rfl | digits
    · exact absurd wide (by decide)
    · exact absurd wide (Nat.not_lt.mpr ((hex04_spec _ control).2 piece digits).1)
  · rw [same, List.mem_singleton] at member
    exact ⟨member, same⟩

end EnergyDisplay.Logging

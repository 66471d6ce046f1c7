import EnergyDisplay.Lib.Rfc3339
import EnergyDisplay.Summary
import Mathlib.Data.Bool.AllAny

/-! The libraries of the wire over small whole numbers, which floats hold and
print exactly. -/
namespace EnergyDisplay

open JsonText

/-- As a float is printed: the digits, and a decimal. -/
def formatWhole (value : Fin 1000) : List Char := Nat.toDigits 10 value ++ ['.', '0']

/-- Nothing but what is printed for a number is read. -/
def parseWhole (text : List Char) : Option (Fin 1000) :=
  let value := Nat.ofDigitChars 10 (text.takeWhile Char.isDigit) 0
  if small : value < 1000 then
    if formatWhole ⟨value, small⟩ = text then some ⟨value, small⟩ else none
  else none

def exactWire : WireLibrary (Fin 1000) where
  isFinite _ := true
  formatNumber := formatWhole
  readNumber
    | .number text => parseWhole text
    | _ => none
  formatTimestamp timestamp := Rfc3339.format timestamp.nanoseconds
  parseTimestamp text := (Rfc3339.parse text).map Timestamp.mk
  toSlice json size := if utf8Len (compact json) ≤ size then some (utf8Bytes (compact json)) else none
  fromSlice bytes := do
    let text ← fromUtf8 bytes
    let (json, characters) ← read text
    return (json, utf8Len (text.take characters))

theorem parseWhole_formatWhole (value : Fin 1000) : parseWhole (formatWhole value) = some value := by
  have digits : ∀ character ∈ Nat.toDigits 10 value, character.isDigit = true :=
    fun character => Nat.isDigit_of_mem_toDigits (by decide) (by decide)
  have point : '.'.isDigit = false := by decide
  have front : (formatWhole value).takeWhile Char.isDigit = Nat.toDigits 10 value := by
    rw [formatWhole, List.takeWhile_append_of_pos digits]
    simp [point]
  simp [parseWhole, front]

theorem isDigit_ascii {character : Char} (digit : character.isDigit = true) : character.val ≤ 127 := by
  simp only [Char.isDigit, Bool.and_eq_true, decide_eq_true_eq] at digit
  exact UInt32.le_trans digit.2 (by decide)

theorem isDigit_plain {character : Char} (digit : character.isDigit = true) : Plain character := by
  refine ⟨?_, ?_, ?_⟩
  · simp only [Char.isDigit, Bool.and_eq_true, decide_eq_true_eq] at digit
    exact (show 0x20 ≤ '0'.toNat by decide).trans (UInt32.le_iff_toNat_le.mp digit.1)
  · rintro rfl
    exact absurd digit (by decide)
  · rintro rfl
    exact absurd digit (by decide)

theorem formatWhole_length (value : Fin 1000) : utf8Len (formatWhole value) ≤ 24 := by
  have digits : ∀ character ∈ Nat.toDigits 10 value, character.isDigit = true :=
    fun character => Nat.isDigit_of_mem_toDigits (by decide) (by decide)
  have ascii := utf8Len_ascii fun character member => isDigit_ascii (digits character member)
  have short := (Nat.length_toDigits_le_iff (show 1 < 10 by decide) (show 0 < 3 by decide)).mpr value.isLt
  have decimal : utf8Len ['.', '0'] = 2 := rfl
  rw [formatWhole, utf8Len_append, ascii, decimal]
  omega

theorem formatWhole_number (value : Fin 1000) : Number (formatWhole value) :=
  ⟨[], Nat.toDigits 10 value, ['.', '0'], [], by simp [formatWhole], Or.inl rfl, whole_toDigits value,
    Or.inr ⟨['0'], rfl, by simp, by simp⟩, Or.inl rfl⟩

/-- Timestamps of this century are among those with four digits for the year. -/
theorem format_valid {timestamp : Timestamp} (valid : validTimestamp timestamp = true) :
    0 ≤ (Calendar.civil (timestamp.nanoseconds / 86400000000000)).year ∧
      (Rfc3339.format timestamp.nanoseconds).length = 30 := by
  obtain ⟨since, before⟩ := (validTimestamp_iff timestamp).mp valid
  exact Rfc3339.format_bounds (by omega) (by omega)

theorem exactWire_documented : exactWire.Documented where
  number value _ := formatWhole_number value
  number_short value _ := formatWhole_length value
  number_read value _ := parseWhole_formatWhole value
  timestamp_plain timestamp _ character member := by
    rcases Rfc3339.Fields.text_characters _ character member with digit | mark
    · exact isDigit_plain digit
    · have marks : ∀ mark ∈ ['-', 'T', ':', '.', 'Z'], Plain mark := List.all_iff_forall_prop.mp rfl
      exact marks character mark
  timestamp_short timestamp valid := by
    have ascii : ∀ character ∈ Rfc3339.format timestamp.nanoseconds, character.val ≤ 127 := by
      intro character member
      rcases Rfc3339.Fields.text_characters _ character member with digit | mark
      · exact isDigit_ascii digit
      · have marks : ∀ mark ∈ ['-', 'T', ':', '.', 'Z'], mark.val ≤ 127 :=
        List.all_iff_forall_prop.mp rfl
        exact marks character mark
    have length := (utf8Len_ascii ascii).trans (format_valid valid).2
    exact length.trans_le (by decide)
  timestamp_read timestamp valid := by
    simp [exactWire, Rfc3339.parse_format (format_valid valid).1]
  written json size _ room := if_pos room
  read json simple := by
    simp [exactWire, read_compact simple]

end EnergyDisplay

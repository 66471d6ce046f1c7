import EnergyDisplay.Lib.Calendar
import Mathlib.Algebra.Group.Nat.Defs

/-! Timestamps in UTC as RFC 3339 has them, with nine decimals of a second. A
timestamp is a number of nanoseconds since the epoch; reading takes back what
writing gives, field by field. -/
namespace EnergyDisplay.Rfc3339

open Calendar

/-! ## Fields -/

/-- A number of at least `width` digits. -/
def field (width number : ℕ) : List Char := (Nat.toDigits 10 number).leftpad width '0'

/-- The number before a mark, and what follows the mark. -/
def readField (text : List Char) : ℕ × List Char :=
  (Nat.ofDigitChars 10 (text.takeWhile Char.isDigit) 0, (text.dropWhile Char.isDigit).drop 1)

theorem field_digits (width number : ℕ) : ∀ character ∈ field width number, character.isDigit = true := by
  intro character member
  rw [field, List.leftpad] at member
  rcases List.mem_append.mp member with padding | digit
  · rw [List.eq_of_mem_replicate padding]
    rfl
  · exact Nat.isDigit_of_mem_toDigits (by decide) (by decide) digit

theorem field_length {width number : ℕ} (positive : 0 < width) (small : number < 10 ^ width) :
    (field width number).length = width := by
  have digits := (Nat.length_toDigits_le_iff (by decide) positive).mpr small
  rw [field, List.length_leftpad]
  omega

theorem readField_field (width number : ℕ) {mark : Char} (ends : mark.isDigit = false) (rest : List Char) :
    readField (field width number ++ mark :: rest) = (number, rest) := by
  have digits := field_digits width number
  have whole : Nat.ofDigitChars 10 (field width number) 0 = number := by
    rw [field, List.leftpad, Nat.ofDigitChars_append, Nat.ofDigitChars_replicate_zero, Nat.mul_zero,
      Nat.ofDigitChars_ten_toDigits]
  rw [readField, List.takeWhile_append_of_pos digits, List.dropWhile_append_of_pos digits]
  simp [ends, whole]

/-! ## Timestamps -/

structure Fields where
  year : ℕ
  month : ℕ
  day : ℕ
  hour : ℕ
  minute : ℕ
  second : ℕ
  nanosecond : ℕ

namespace Fields

def of (nanoseconds : Int) : Fields :=
  let date := civil (nanoseconds / 86400000000000)
  let second := (nanoseconds / 1000000000 % 86400).toNat
  { year := date.year.toNat
    month := date.month
    day := date.day
    hour := second / 3600
    minute := second / 60 % 60
    second := second % 60
    nanosecond := (nanoseconds % 1000000000).toNat }

def nanoseconds (fields : Fields) : Int :=
  let days := dayOf ⟨fields.year, fields.month, fields.day⟩
  (days * 86400 + fields.hour * 3600 + fields.minute * 60 + fields.second) * 1000000000 + fields.nanosecond

def text (fields : Fields) : List Char :=
  field 4 fields.year ++ '-' :: (field 2 fields.month ++ '-' :: (field 2 fields.day ++ 'T' ::
    (field 2 fields.hour ++ ':' :: (field 2 fields.minute ++ ':' :: (field 2 fields.second ++ '.' ::
      (field 9 fields.nanosecond ++ ['Z']))))))

def read (text : List Char) : Fields :=
  let year := readField text
  let month := readField year.2
  let day := readField month.2
  let hour := readField day.2
  let minute := readField hour.2
  let second := readField minute.2
  let nanosecond := readField second.2
  ⟨year.1, month.1, day.1, hour.1, minute.1, second.1, nanosecond.1⟩

theorem read_text (fields : Fields) : read fields.text = fields := by
  have dash : '-'.isDigit = false := by decide
  have time : 'T'.isDigit = false := by decide
  have colon : ':'.isDigit = false := by decide
  have point : '.'.isDigit = false := by decide
  have zulu : 'Z'.isDigit = false := by decide
  simp only [read, text, readField_field _ _ dash, readField_field _ _ time, readField_field _ _ colon,
    readField_field _ _ point, readField_field _ _ zulu]

theorem of_nanoseconds {nanoseconds : Int} (era : 0 ≤ (civil (nanoseconds / 86400000000000)).year) :
    (of nanoseconds).nanoseconds = nanoseconds := by
  have date : (⟨(of nanoseconds).year, (of nanoseconds).month, (of nanoseconds).day⟩ : CivilDate) =
      civil (nanoseconds / 86400000000000) := by
    ext
    · exact Int.toNat_of_nonneg era
    · rfl
    · rfl
  rw [Fields.nanoseconds, date, dayOf_civil]
  simp only [of]
  omega

/-- Four digits, five times two and nine, and seven marks. -/
theorem text_length {fields : Fields} (year : fields.year < 10000) (month : fields.month < 100)
    (day : fields.day < 100) (hour : fields.hour < 100) (minute : fields.minute < 100)
    (second : fields.second < 100) (nanosecond : fields.nanosecond < 1000000000) : fields.text.length = 30 := by
  have two {number : ℕ} (small : number < 100) : (field 2 number).length = 2 := field_length (by decide) small
  have four : (field 4 fields.year).length = 4 := field_length (by decide) year
  have nine : (field 9 fields.nanosecond).length = 9 := field_length (by decide) nanosecond
  simp only [text, List.length_append, List.length_cons, List.length_nil, four, two month, two day, two hour,
    two minute, two second, nine]

theorem text_characters (fields : Fields) :
    ∀ character ∈ fields.text, character.isDigit = true ∨ character ∈ ['-', 'T', ':', '.', 'Z'] := by
  have digits (width number : ℕ) : ∀ character ∈ field width number,
      character.isDigit = true ∨ character ∈ ['-', 'T', ':', '.', 'Z'] :=
    fun character member => Or.inl (field_digits width number character member)
  simp only [text, List.forall_mem_append, List.forall_mem_cons]
  refine ⟨digits _ _, by decide, digits _ _, by decide, digits _ _, by decide, digits _ _, by decide, digits _ _,
    by decide, digits _ _, by decide, digits _ _, by decide, by simp⟩

end Fields

def format (nanoseconds : Int) : List Char := (Fields.of nanoseconds).text

/-- Nothing but what is written for a timestamp is read. -/
def parse (text : List Char) : Option Int :=
  let nanoseconds := (Fields.read text).nanoseconds
  if format nanoseconds = text then some nanoseconds else none

theorem parse_format {nanoseconds : Int} (era : 0 ≤ (civil (nanoseconds / 86400000000000)).year) :
    parse (format nanoseconds) = some nanoseconds := by
  have read : (Fields.read (format nanoseconds)).nanoseconds = nanoseconds := by
    rw [format, Fields.read_text, Fields.of_nanoseconds era]
  rw [parse, read]
  exact if_pos rfl

/-- Within 24 cycles of 400 years. -/
theorem civil_bounds {days : Int} (since : 0 ≤ days) (before : days < 2786860) :
    0 ≤ (civil days).year ∧ (civil days).year < 10000 ∧ (civil days).month < 100 ∧ (civil days).day < 100 := by
  obtain ⟨yearLower, yearUpper, dayLower, dayUpper⟩ := marchDay_bounds days
  have cycle : 0 ≤ (marchDay days).cycle ∧ (marchDay days).cycle < 24 := by
    simp only [marchDay]
    omega
  simp only [civil]
  generalize marchDay days = date at *
  omega

/-- From 1970 to 9599. -/
theorem format_bounds {nanoseconds : Int} (since : 0 ≤ nanoseconds)
    (before : nanoseconds < 240784704000000000000) :
    0 ≤ (civil (nanoseconds / 86400000000000)).year ∧ (format nanoseconds).length = 30 := by
  have days : 0 ≤ nanoseconds / 86400000000000 := by omega
  obtain ⟨era, year, month, day⟩ := civil_bounds days (by omega)
  refine ⟨era, Fields.text_length ?_ month day ?_ ?_ ?_ ?_⟩ <;> simp only [Fields.of] <;> omega

example : format 1789491600236376961 = "2026-09-15T17:00:00.236376961Z".toList := by decide

end EnergyDisplay.Rfc3339

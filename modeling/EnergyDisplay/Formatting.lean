import EnergyDisplay.Lib.Heapless
import Mathlib.Algebra.Group.Int.Defs
import Mathlib.Data.Int.Cast.Defs
import Mathlib.Tactic.IntervalCases

/-! The texts of the dashboard, from `crates/dashboard-core/src/formatting.rs`.

`F` stands for `f64`. How a float is written is up to `core::fmt`. -/
namespace EnergyDisplay

namespace Formatting

/-- What a float is written with: digits, and what `NaN` and `inf` need. -/
def floatChars : List Char := "-.0123456789NaNinf".toList

end Formatting

/-- How `core::fmt` writes a float: `{:.N}` and `{}`. -/
class FloatText (F : Type) where
  fixed : ℕ → F → List Char
  display : F → List Char
  fixed_chars : ∀ places value, ∀ character ∈ fixed places value, character ∈ Formatting.floatChars
  display_chars : ∀ value, ∀ character ∈ display value, character ∈ Formatting.floatChars

namespace Formatting

abbrev DisplayString := HeaplessString 48

/-- What does not fit is replaced as a whole. -/
def formatted (pieces : List (List Char)) : DisplayString :=
  match HeaplessString.writePieces .empty pieces with
  | (output, true) => output
  | (_, false) => (HeaplessString.pushStr .empty "??".toList).getD .empty

/-- `{:N}` of a number. -/
def padded (width : ℕ) (fill : Char) (number : ℕ) : List Char := (Nat.toDigits 10 number).leftpad width fill

section Floats

variable {F : Type} [Zero F] [Div F] [IntCast F] [LT F] [DecidableLT F] [FloatText F]

open FloatText

def watts (value : F) : DisplayString :=
  if value < (1000 : Int) then formatted [fixed 0 value, " W".toList]
  else formatted [fixed 1 (value / (1000 : Int)), " kW".toList]

def wattsValue (value : F) : DisplayString :=
  if value < (1000 : Int) then formatted [fixed 0 value] else formatted [fixed 1 (value / (1000 : Int))]

def kilowattsValue (value : F) : DisplayString := formatted [fixed 1 (value / (1000 : Int))]

def kilowattHoursValue (value : F) : DisplayString := formatted [fixed 1 value]

def wattsInOut (valueIn valueOut : F) : DisplayString :=
  let direction := if 0 < valueIn then "↓".toList else if 0 < valueOut then "↑".toList else []
  let value := if 0 < valueOut then valueOut else valueIn
  if value < (1000 : Int) then formatted [direction, " ".toList, fixed 0 value]
  else formatted [direction, " ".toList, fixed 1 (value / (1000 : Int))]

def kilowattHoursInOut (valueIn valueOut : F) : DisplayString :=
  formatted ["↓".toList, fixed 1 valueIn, " ↑".toList, fixed 1 valueOut]

def powerWithUnit (value : F) : DisplayString :=
  if value < (1000 : Int) then formatted [fixed 0 value, "W".toList]
  else formatted [fixed 1 (value / (1000 : Int)), "kW".toList]

/-- A power that does not fit behind its direction is left out. -/
def batteryPower (valueIn valueOut : F) : DisplayString :=
  let direction := if 0 < valueIn then "↓ ".toList else if 0 < valueOut then "↑ ".toList else " ".toList
  let output := formatted [direction]
  let value := if 0 < valueOut then valueOut else valueIn
  (output.pushStr (powerWithUnit value).items).getD output

def batteryEnergy (value : F) : DisplayString := formatted [display value, "kW".toList]

def percentage (value : F) : DisplayString := formatted [fixed 0 value, "%".toList]

def temperature (value : F) : DisplayString :=
  if value < (-90 : Int) then (HeaplessString.pushStr .empty "??°".toList).getD .empty
  else formatted [display value, "°".toList]

def humidity (value : F) : DisplayString := formatted [display value, "%".toList]

def cop (value : F) : DisplayString := formatted ["COP ".toList, fixed 1 value]

end Floats

def weekdays : List String := ["zo", "ma", "di", "wo", "do", "vr", "za"]

def months : List String :=
  ["jan", "feb", "mrt", "apr", "mei", "jun", "jul", "aug", "sep", "okt", "nov", "dec"]

def date (_year : Int) (month day weekday : ℕ) : DisplayString :=
  let weekday := (weekdays[weekday]?).getD "??"
  let month := (if month = 0 then none else months[month - 1]?).getD "???"
  formatted [weekday.toList, " ".toList, padded 2 ' ' day, " ".toList, month.toList]

def time (hour minute : ℕ) : DisplayString := formatted [padded 2 '0' hour, ":".toList, padded 2 '0' minute]

theorem digit_mem {character : Char} (digit : character.isDigit = true) : character ∈ floatChars := by
  obtain ⟨lower, upper⟩ : 48 ≤ character.toNat ∧ character.toNat ≤ 57 := by
    simp only [Char.isDigit, Bool.and_eq_true, decide_eq_true_eq] at digit
    exact ⟨UInt32.le_iff_toNat_le.mp digit.1, UInt32.le_iff_toNat_le.mp digit.2⟩
  rw [← Char.ofNat_toNat character]
  generalize character.toNat = code at lower upper
  interval_cases code <;> decide

theorem toDigits_subset (number : ℕ) : Nat.toDigits 10 number ⊆ floatChars := fun _ inside =>
  digit_mem (Nat.isDigit_of_mem_toDigits (by decide) (by decide) inside)

theorem mem_padded {width : ℕ} {fill : Char} {number : ℕ} {character : Char}
    (inside : character ∈ padded width fill number) : character = fill ∨ character ∈ floatChars := by
  rcases List.mem_append.mp inside with filled | digit
  · exact Or.inl (List.eq_of_mem_replicate filled)
  · exact Or.inr (toDigits_subset number digit)

example : (date 2026 9 9 3).items = "wo  9 sep".toList ∧ (time 7 5).items = "07:05".toList := by decide

end Formatting

end EnergyDisplay

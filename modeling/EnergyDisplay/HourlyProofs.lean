import EnergyDisplay.Model
import Mathlib.Algebra.Order.Ring.Rat
import Mathlib.Tactic.Linarith
import Mathlib.Tactic.Ring

/-! What one `append_value` does to a series, said once: a reading of another
date starts from the empty series, a reading of the same date either opens a
new baseline for its hour or counts from the one it finds. -/
namespace EnergyDisplay

/-! ## Dates and hours -/

namespace LocalDateTime

variable {first second third : LocalDateTime}

/-- Not later than another time of the same local date. -/
structure NotAfter (first second : LocalDateTime) : Prop where
  sameDate : first.sameDate second = true
  time : first.hour < second.hour ∨ (first.hour = second.hour ∧ first.minute ≤ second.minute)

instance : Decidable (first.NotAfter second) :=
  decidable_of_iff (first.sameDate second = true ∧
      (first.hour < second.hour ∨ (first.hour = second.hour ∧ first.minute ≤ second.minute)))
    ⟨fun both => ⟨both.1, both.2⟩, fun order => ⟨order.sameDate, order.time⟩⟩

theorem NotAfter.hour_le (order : first.NotAfter second) : first.hour ≤ second.hour := by
  rcases order.time with later | ⟨same, _⟩ <;> omega

theorem sameDate_iff : first.sameDate second = true ↔
    first.year = second.year ∧ first.month = second.month ∧ first.day = second.day := by
  simp [sameDate, and_assoc]

theorem sameDate_symm (same : first.sameDate second = true) : second.sameDate first = true := by
  rw [sameDate_iff] at *
  exact ⟨same.1.symm, same.2.1.symm, same.2.2.symm⟩

theorem sameDate_trans (left : first.sameDate second = true) (right : second.sameDate third = true) :
    first.sameDate third = true := by
  rw [sameDate_iff] at *
  exact ⟨left.1.trans right.1, left.2.1.trans right.2.1, left.2.2.trans right.2.2⟩

theorem slot_of_hour (same : first.hour = second.hour) : first.slot = second.slot := by
  simp [slot, same]

theorem slot_le_of_hour (order : first.hour ≤ second.hour) : first.slot ≤ second.slot := by
  simp only [slot, Fin.mk_le_mk]
  omega

theorem slot_lt_of_hour (later : first.hour < second.hour) (clock : second.hour < 24) :
    first.slot < second.slot := by
  simp only [slot, Fin.mk_lt_mk]
  omega

end LocalDateTime

namespace HourlyData

section Clock
variable {F : Type} {data : HourlyData F} {now previous : LocalDateTime}

theorem dateChanged_of_update (update : data.lastUpdate = some previous) :
    data.dateChanged now = !previous.sameDate now := by
  simp [dateChanged, update]

theorem hourChanged_of_update (update : data.lastUpdate = some previous) :
    data.hourChanged now = (previous.hour != now.hour) := by
  simp [hourChanged, update]

end Clock

/-! ## One reading -/

variable {F : Type} [Zero F] [Sub F] [Mul F] [NatCast F] [LT F] [DecidableLT F]
variable {data : HourlyData F} {cumulative : F} {now previous : LocalDateTime} {hour : Fin 24}

/-- A reading of the same date opens a new baseline when the hour moved on,
when its hour has none, or when the counter dropped. -/
def rebaselines (data : HourlyData F) (cumulative : F) (now : LocalDateTime) : Bool :=
  data.hourChanged now || !data.baselinePresent now.slot ||
    data.lastValue.any fun previous => cumulative < previous

/-- A series without a timestamp or a baseline treats a reading as its first. -/
theorem append_first (update : data.lastUpdate = none) (absent : data.baselinePresent now.slot = false) :
    data.appendValue cumulative now =
      { data.setBaseline now.slot cumulative with
        lastUpdate := some now, lastValue := some cumulative } := by
  simp [appendValue, dateChanged, hourChanged, update, absent]

/-- Nothing of another date survives into a new day. -/
theorem append_new_day (changed : data.dateChanged now = true) :
    data.appendValue cumulative now = HourlyData.default.appendValue cumulative now := by
  rw [append_first (rfl : (HourlyData.default : HourlyData F).lastUpdate = none) rfl]
  simp [appendValue, changed, setBaseline, clearDay, HourlyData.default]

/-- On one date the two outcomes are a new baseline and a count from the old. -/
theorem append_same_day (same : data.dateChanged now = false) :
    data.appendValue cumulative now =
      if data.rebaselines cumulative now then
        { data.setBaseline now.slot cumulative with
          lastUpdate := some now, lastValue := some cumulative }
      else
        { data with
          values := Function.update data.values now.slot
            ((cumulative - data.valuesAtHourStart now.slot) * (1000 : ℕ))
          lastUpdate := some now
          lastValue := some cumulative } := by
  simp only [appendValue, same, rebaselines, Bool.false_or, Bool.false_eq_true, ↓reduceIte,
    Bool.or_eq_true, Bool.not_eq_true']
  by_cases opens : data.hourChanged now = true ∨ data.baselinePresent now.slot = false
  · simp [opens]
  · simp only [opens, ↓reduceIte, false_or]
    split <;> rfl

theorem append_rebaselined (same : data.dateChanged now = false)
    (opens : data.rebaselines cumulative now = true) :
    data.appendValue cumulative now =
      { data.setBaseline now.slot cumulative with
        lastUpdate := some now, lastValue := some cumulative } := by
  rw [append_same_day same, if_pos opens]

theorem append_counted (same : data.dateChanged now = false)
    (counts : data.rebaselines cumulative now = false) :
    data.appendValue cumulative now =
      { data with
        values := Function.update data.values now.slot
          ((cumulative - data.valuesAtHourStart now.slot) * (1000 : ℕ))
        lastUpdate := some now
        lastValue := some cumulative } := by
  rw [append_same_day same, if_neg (by simp [counts])]

@[simp] theorem append_lastUpdate :
    (data.appendValue cumulative now).lastUpdate = some now := rfl

@[simp] theorem append_lastValue :
    (data.appendValue cumulative now).lastValue = some cumulative := rfl

/-- A reading touches its own hour only, as long as the date stays. -/
theorem append_other_hour (cumulative : F) (same : data.dateChanged now = false)
    (other : hour ≠ now.slot) :
    (data.appendValue cumulative now).valuesAtHourStart hour = data.valuesAtHourStart hour ∧
      (data.appendValue cumulative now).values hour = data.values hour ∧
      (data.appendValue cumulative now).baselinePresent hour = data.baselinePresent hour := by
  rw [append_same_day same]
  split <;> simp [setBaseline, other]

theorem append_present (data : HourlyData F) (cumulative : F) (now : LocalDateTime) :
    (data.appendValue cumulative now).baselinePresent now.slot = true := by
  cases changed : data.dateChanged now with
  | true =>
    rw [append_new_day changed, append_first rfl rfl]
    simp [setBaseline]
  | false =>
    cases opens : data.rebaselines cumulative now with
    | true => simp [append_rebaselined changed opens, setBaseline]
    | false =>
      rw [append_counted changed opens]
      simp only [rebaselines, Bool.or_eq_false_iff, Bool.not_eq_false'] at opens
      exact opens.1.2

/-! ## The open hour -/

/-- The series was last given `cumulative` at `now`, and the hour of that
reading has counted exactly what the counter gained since its baseline. -/
structure Tracks (data : HourlyData ℚ) (cumulative : ℚ) (now : LocalDateTime) : Prop where
  lastUpdate : data.lastUpdate = some now
  lastValue : data.lastValue = some cumulative
  present : data.baselinePresent now.slot = true
  counted : data.values now.slot = (cumulative - data.valuesAtHourStart now.slot) * 1000

/-- Every reading leaves its hour open, whatever the series held before. -/
theorem append_tracks (data : HourlyData ℚ) (cumulative : ℚ) (now : LocalDateTime) :
    (data.appendValue cumulative now).Tracks cumulative now where
  lastUpdate := rfl
  lastValue := rfl
  present := append_present data cumulative now
  counted := by
    cases changed : data.dateChanged now with
    | true =>
      rw [append_new_day changed, append_first rfl rfl]
      simp [setBaseline]
    | false =>
      cases opens : data.rebaselines cumulative now with
      | true => simp [append_rebaselined changed opens, setBaseline]
      | false => simp [append_counted changed opens]

/-- In the open hour a counter that has not dropped keeps the baseline. -/
theorem Tracks.counts {data : HourlyData ℚ} {last cumulative : ℚ} (open_ : data.Tracks last previous)
    (sameHour : previous.hour = now.hour) (grown : last ≤ cumulative) :
    data.rebaselines cumulative now = false := by
  have present := open_.present
  rw [LocalDateTime.slot_of_hour sameHour] at present
  simp [rebaselines, hourChanged_of_update open_.lastUpdate, open_.lastValue, present, sameHour,
    not_lt.mpr grown]

end HourlyData

end EnergyDisplay

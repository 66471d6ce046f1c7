import EnergyDisplay.HourlyReferenceProofs
import EnergyDisplay.LocalHourProofs
import EnergyDisplay.SeriesProjection
import EnergyDisplay.Tasks
import Mathlib.Algebra.BigOperators.Ring.Finset
import Mathlib.Data.Fintype.BigOperators

/-! The balance of a day: what the 24 bars add up to, against what the counter
gained. Each bar counts from a baseline of its own, and the two meet only if no
bar counts what another has counted. -/
namespace EnergyDisplay

open Runs

namespace Reading

/-- A sum over the neighbours in a list. -/
def sumPairs (each : Reading → Reading → ℚ) : List Reading → ℚ
  | first :: second :: rest => each first second + sumPairs each (second :: rest)
  | _ => 0

/-- What the counter gained, a drop counted for nothing. -/
def rise (first second : Reading) : ℚ := max 0 (second.cumulative - first.cumulative)

def gain (first second : Reading) : ℚ := second.cumulative - first.cumulative

variable {each : Reading → Reading → ℚ} {readings : List Reading} {reading last : Reading}

@[simp] theorem sumPairs_singleton : sumPairs each [reading] = 0 := rfl

theorem sumPairs_concat (ends : readings.getLast? = some last) :
    sumPairs each (readings ++ [reading]) = sumPairs each readings + each last reading := by
  induction readings with
  | nil => cases ends
  | cons first rest ih =>
    cases rest with
    | nil =>
      cases ends
      simp [sumPairs]
    | cons second rest =>
      have tail := ih (by simpa using ends)
      rw [List.cons_append, List.cons_append, sumPairs, ← List.cons_append, tail, sumPairs, add_assoc]

end Reading

open Reading

namespace HourlyData

variable {data : HourlyData ℚ} {reading last : Reading} {readings : List Reading} {hour : Fin 24} {total : ℚ}

/-- What the bars add up to. -/
def energy (data : HourlyData ℚ) : ℚ := ∑ hour, data.values hour

theorem sum_update (bars : Fin 24 → ℚ) (hour : Fin 24) (value : ℚ) :
    ∑ other, Function.update bars hour value other = ∑ other, bars other + (value - bars hour) := by
  rw [Finset.sum_update_of_mem (Finset.mem_univ hour), ← Finset.add_sum_erase _ bars (Finset.mem_univ hour),
    Finset.sdiff_singleton_eq_erase]
  ring

/-- The induction over a history: a day begins with its first reading, whatever
was before, and goes on with readings of its date. -/
theorem history_induction (property : HourlyData ℚ → List Reading → Prop) (nothing : property .default [])
    (first : ∀ reading, property (HourlyData.default.append reading) [reading])
    (next : ∀ data day last reading, data.Tracks last.cumulative last.now → day.getLast? = some last →
      last.now.sameDate reading.now = true → property data day → property (data.append reading) (day ++ [reading]))
    (readings : List Reading) : property (HourlyData.default.appendAll readings) (lastDay readings) := by
  induction readings using List.reverseRecOn with
  | nil => exact nothing
  | append_singleton readings reading ih =>
    rw [appendAll_append, appendAll_cons, appendAll_nil]
    cases ends : readings.getLast? with
    | none =>
      have new : lastDay (readings ++ [reading]) = [reading] := lastDay_concat_new (by simp [ends])
      rw [List.getLast?_eq_none_iff.mp ends] at new ⊢
      rw [new]
      exact first reading
    | some last =>
      have tracks : (HourlyData.default.appendAll readings).Tracks last.cumulative last.now := by
        obtain ⟨before, rfl⟩ := List.getLast?_eq_some_iff.mp ends
        exact appendAll_tracks
      cases same : last.now.sameDate reading.now with
      | true =>
        rw [lastDay_concat_same ends same]
        exact next _ _ last reading tracks (lastDay_ends ends) same ih
      | false =>
        have changed : (HourlyData.default.appendAll readings).dateChanged reading.now = true := by
          simp [dateChanged_of_update tracks.lastUpdate, same]
        have new : lastDay (readings ++ [reading]) = [reading] := lastDay_concat_new (by simp [ends, same])
        rw [new, append, append_new_day changed]
        exact first reading

/-- Nothing is shown of a day but its first reading. -/
theorem first_values (reading : Reading) : (HourlyData.default.append reading).values = fun _ => 0 := by
  rw [append, append_first rfl rfl]
  simp [setBaseline, HourlyData.default]

/-! ## Never more than the counter -/

/-- The bars hold no more than was gained. -/
structure Within (data : HourlyData ℚ) (total : ℚ) : Prop where
  nonneg : ∀ hour, 0 ≤ data.values hour
  energy : data.energy ≤ 1000 * total

theorem first_within (reading : Reading) : (HourlyData.default.append reading).Within 0 := by
  refine ⟨fun hour => ?_, ?_⟩
  · rw [first_values]
  · rw [HourlyData.energy, first_values]
    simp

theorem append_within (tracks : data.Tracks last.cumulative last.now)
    (same : last.now.sameDate reading.now = true) (within : data.Within total) :
    (data.append reading).Within (total + rise last reading) := by
  have unchanged := tracks.dateChanged same
  have risen : 0 ≤ rise last reading := le_max_left _ _
  have grown : reading.cumulative - last.cumulative ≤ rise last reading := le_max_right _ _
  cases opens : data.rebaselines reading.cumulative reading.now with
  | true =>
    rw [append, append_rebaselined unchanged opens]
    refine ⟨fun hour => ?_, ?_⟩
    · by_cases here : hour = reading.now.slot
      · simp [setBaseline, here]
      · simpa [setBaseline, here] using within.nonneg hour
    · have before := within.nonneg reading.now.slot
      have bound := within.energy
      simp only [HourlyData.energy, setBaseline, sum_update] at bound ⊢
      linarith
  | false =>
    rw [append, append_counted unchanged opens]
    simp only [rebaselines, Bool.or_eq_false_iff, hourChanged_of_update tracks.lastUpdate,
      tracks.lastValue, Option.any_some, decide_eq_false_iff_not, not_lt, bne_eq_false_iff_eq] at opens
    obtain ⟨⟨hours, _⟩, above⟩ := opens
    have slot := LocalDateTime.slot_of_hour hours
    have counted := tracks.counted
    rw [slot] at counted
    have before := within.nonneg reading.now.slot
    refine ⟨fun hour => ?_, ?_⟩
    · by_cases here : hour = reading.now.slot
      · subst here
        simp only [Function.update_self]
        push_cast
        linarith
      · simpa [here] using within.nonneg hour
    · have bound := within.energy
      simp only [HourlyData.energy, sum_update, counted] at bound ⊢
      push_cast
      linarith

theorem appendAll_within (readings : List Reading) :
    (HourlyData.default.appendAll readings).Within (sumPairs rise (lastDay readings)) := by
  refine history_induction (fun data day => data.Within (sumPairs rise day)) ?_ first_within ?_ readings
  · exact ⟨fun _ => le_refl _, by simp [sumPairs, HourlyData.energy, HourlyData.default]⟩
  · intro data day last reading tracks ends same within
    rw [sumPairs_concat ends]
    exact append_within tracks same within

/-! ## Exactly the counter -/

end HourlyData

/-! ## Runs of the dashboard -/

namespace Dashboard

/-- An update with the UTC time it was applied at, if the clock is synchronized. -/
def applyAt (dashboard : Dashboard ℚ) (event : Update ℚ × Option Timestamp) : Dashboard ℚ :=
  dashboard.step (event.1, event.2.bind localDatetime)

/-- The reading that an update is for a series. -/
def readings (series : Series) (dashboard : Dashboard ℚ) (event : Update ℚ × Option Timestamp) : List Reading :=
  match event.2.bind localDatetime, dashboard.cumulative event.1 series with
  | some now, some cumulative => [⟨cumulative, now⟩]
  | _, _ => []

variable {dashboard : Dashboard ℚ} {events : List (Update ℚ × Option Timestamp)} {series : Series}
  {event : Update ℚ × Option Timestamp}

theorem hourly_applyAt (live : event.1.isDailySummary = false) :
    (dashboard.applyAt event).hourly series = (dashboard.hourly series).appendAll (dashboard.readings series event) := by
  obtain ⟨update, stamp⟩ := event
  unfold applyAt step readings
  rw [hourly_live live]
  cases shown : stamp.bind localDatetime with
  | none => rfl
  | some now => cases dashboard.cumulative update series <;> rfl

/-- The readings of a run. -/
def runReadings (series : Series) (events : List (Update ℚ × Option Timestamp)) : List Reading :=
  observed applyAt (readings series) .default events

/-- A series is what its readings make of it. -/
theorem hourly_run (live : ∀ event ∈ events, event.1.isDailySummary = false) :
    (run applyAt dashboard events).hourly series =
      (dashboard.hourly series).appendAll (observed applyAt (readings series) dashboard events) := by
  induction events generalizing dashboard with
  | nil => rfl
  | cons event rest ih =>
    obtain ⟨here, later⟩ := List.forall_mem_cons.mp live
    rw [run_cons, observed_cons, HourlyData.appendAll_append, ih later, hourly_applyAt here]

theorem hourly_default_run (live : ∀ event ∈ events, event.1.isDailySummary = false) :
    (run applyAt .default events).hourly series = HourlyData.default.appendAll (runReadings series events) := by
  rw [hourly_run live]
  cases series <;> rfl

/-- **The bars never add up to more than the counter gained.** For every run of
the dashboard from power-on, whatever the times and however the counter drops:
the bars of a series hold no more than the rises of its counter on the last
date, until a summary is restored. -/
theorem bars_within_counter (series : Series) (events : List (Update ℚ × Option Timestamp))
    (live : ∀ event ∈ events, event.1.isDailySummary = false) :
    ((run applyAt .default events).hourly series).energy ≤
      1000 * Reading.sumPairs Reading.rise (Reading.lastDay (runReadings series events)) := by
  rw [hourly_default_run live]
  exact (HourlyData.appendAll_within _).energy

/-- The night the clocks go back: both readings of the third hour say 02:30. -/
def autumnNight : List (Update ℚ × Option Timestamp) :=
  [(.grid (.counting 5 0), some ⟨1792888200000000000⟩), (.grid (.counting 6 0), some ⟨1792891800000000000⟩),
    (.grid (.counting 7 0), some ⟨1792894200000000000⟩)]

theorem autumnNight_live : ∀ event ∈ autumnNight, event.1.isDailySummary = false := by
  simp [autumnNight, Update.isDailySummary]

theorem bars_within_counter_autumn : ((run applyAt .default autumnNight).hourly .gridImport).energy ≤
    1000 * Reading.sumPairs Reading.rise (Reading.lastDay (runReadings .gridImport autumnNight)) :=
  bars_within_counter .gridImport autumnNight autumnNight_live

end Dashboard

end EnergyDisplay

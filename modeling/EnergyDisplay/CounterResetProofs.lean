import EnergyDisplay.SeriesProjection

/-! Negative hourly spikes. A counter that drops opens a new baseline, except
on the first reading after a restore: a restore forgets the last value but
keeps the baselines, so that reading is compared with nothing. The condition
found here is exact: a run stays free of negative values if and only if no
such reading lies below the baseline it meets. -/
namespace EnergyDisplay

open Runs

/-- The counters of an update and the contents of a summary are not negative. -/
def Update.NonNegative : Update ℚ → Prop
  | .solar home => 0 ≤ home.energyToday
  | .garageSolar garage => 0 ≤ garage.energyToday
  | .grid meter => 0 ≤ meter.powerImportToday ∧ 0 ≤ meter.powerExportToday
  | .dailySummary summary => ∀ series hour,
    0 ≤ (summary.hourly series).values hour ∧ 0 ≤ (summary.hourly series).valuesAtHourStart hour
  | _ => True

namespace HourlyData

def NonNegative (data : HourlyData ℚ) : Prop := ∀ hour, 0 ≤ data.values hour

/-- A series that knows no previous value, but holds a baseline for the hour
of this reading, is not given less than that baseline. -/
def AboveBaseline (data : HourlyData ℚ) : SeriesStep ℚ → Prop
  | .reading cumulative now => data.lastValue = none → data.dateChanged now = false →
    data.hourChanged now = false → data.baselinePresent now.slot = true →
    data.valuesAtHourStart now.slot ≤ cumulative
  | .restored _ _ => True

/-- The invariant: besides the values themselves, a remembered counter is
never below the baseline of the hour it was read in. -/
structure Sound (data : HourlyData ℚ) : Prop where
  nonneg : data.NonNegative
  timed : data.lastValue.isSome → data.lastUpdate.isSome
  baseline : ∀ now last, data.lastUpdate = some now → data.lastValue = some last →
    data.valuesAtHourStart now.slot ≤ last

theorem default_sound : (HourlyData.default : HourlyData ℚ).Sound where
  nonneg := fun _ => le_refl _
  timed := by simp [HourlyData.default]
  baseline := by simp [HourlyData.default]

theorem restore_sound {data : HourlyData ℚ} (nonneg : data.NonNegative) (now : Option LocalDateTime) :
    (data.restore now).Sound := by
  cases now with
  | none => exact ⟨nonneg, by simp [restore, markRestoredWithoutTime, markBaselinesPresent],
      by simp [restore, markRestoredWithoutTime, markBaselinesPresent]⟩
  | some now => exact ⟨nonneg, by simp [restore, markRestored, markBaselinesPresent],
      by simp [restore, markRestored, markBaselinesPresent]⟩

variable {data : HourlyData ℚ} {cumulative : ℚ} {now : LocalDateTime}

/-- Opening a baseline is always sound: the hour restarts at zero. -/
theorem baseline_sound (nonneg : data.NonNegative) :
    ({ data.setBaseline now.slot cumulative with
      lastUpdate := some now, lastValue := some cumulative } : HourlyData ℚ).Sound where
  nonneg := by
    intro hour
    by_cases here : hour = now.slot
    · simp [setBaseline, here]
    · simpa [setBaseline, here] using nonneg hour
  timed := by simp
  baseline := by
    rintro at_ last ⟨⟩ ⟨⟩
    simp [setBaseline]

/-- A reading that counts starts from a baseline it is not below. -/
theorem counted_from_baseline (sound : data.Sound) (same : data.dateChanged now = false)
    (counts : data.rebaselines cumulative now = false)
    (above : data.AboveBaseline (.reading cumulative now)) :
    data.valuesAtHourStart now.slot ≤ cumulative := by
  simp only [rebaselines, Bool.or_eq_false_iff, Bool.not_eq_false'] at counts
  obtain ⟨⟨sameHour, present⟩, noDrop⟩ := counts
  cases last : data.lastValue with
  | none => exact above last same sameHour present
  | some last' =>
    obtain ⟨previous, update⟩ := Option.isSome_iff_exists.mp (sound.timed (by simp [last]))
    have hour : previous.hour = now.hour := by
      simpa [hourChanged_of_update update] using sameHour
    have bound := sound.baseline previous last' update last
    rw [LocalDateTime.slot_of_hour hour] at bound
    have grown : last' ≤ cumulative := by simpa [last] using noDrop
    exact bound.trans grown

/-- Step lemma: a reading above its baseline keeps the invariant. -/
theorem append_sound (sound : data.Sound) (above : data.AboveBaseline (.reading cumulative now)) :
    (data.appendValue cumulative now).Sound := by
  cases changed : data.dateChanged now with
  | true =>
    rw [append_new_day changed, append_first rfl rfl]
    exact baseline_sound default_sound.nonneg
  | false =>
    cases opens : data.rebaselines cumulative now with
    | true =>
      rw [append_rebaselined changed opens]
      exact baseline_sound sound.nonneg
    | false =>
      have bound := counted_from_baseline sound changed opens above
      rw [append_counted changed opens]
      refine ⟨fun hour => ?_, by simp, ?_⟩
      · by_cases here : hour = now.slot
        · subst here
          simp only [Function.update_self]
          have : 0 ≤ cumulative - data.valuesAtHourStart now.slot := by linarith
          positivity
        · simpa [here] using sound.nonneg hour
      · rintro at_ last ⟨⟩ ⟨⟩
        exact bound

/-- A reading below the baseline it meets makes its hour negative at once. -/
theorem append_negative (below : ¬ data.AboveBaseline (.reading cumulative now)) :
    (data.appendValue cumulative now).values now.slot < 0 := by
  simp only [AboveBaseline, Classical.not_imp, not_le] at below
  obtain ⟨last, same, sameHour, present, below⟩ := below
  have counts : data.rebaselines cumulative now = false := by
    simp [rebaselines, sameHour, present, last]
  rw [append_counted same counts]
  simp only [Function.update_self]
  have negative : cumulative - data.valuesAtHourStart now.slot < 0 := by linarith
  exact mul_neg_of_neg_of_pos negative (by norm_num)

end HourlyData

namespace Dashboard

/-- No series is given a reading below a baseline whose last value it does not
know. -/
def AboveBaselines (dashboard : Dashboard ℚ) (event : Update ℚ × Option LocalDateTime) : Prop :=
  ∀ series step, dashboard.seriesStep series event.1 event.2 = some step →
    (dashboard.hourly series).AboveBaseline step

private theorem restored_nonneg {dashboard : Dashboard ℚ} {update : Update ℚ}
    {now restoredAt : Option LocalDateTime} {series : Series} {data : HourlyData ℚ}
    (nonneg : update.NonNegative)
    (acts : dashboard.seriesStep series update now = some (.restored data restoredAt)) :
    data.NonNegative := by
  cases update with
  | dailySummary summary =>
    simp only [seriesStep] at acts
    split at acts
    · contradiction
    · cases acts
      exact fun hour => (nonneg series hour).1
  | _ => simp [seriesStep, Option.bind_eq_some_iff] at acts

/-- Step lemma for the dashboard: all three series keep the invariant. -/
theorem apply_sound {dashboard : Dashboard ℚ} {event : Update ℚ × Option LocalDateTime}
    (sound : ∀ series, (dashboard.hourly series).Sound) (nonneg : event.1.NonNegative)
    (above : dashboard.AboveBaselines event) (series : Series) :
    ((dashboard.step event).hourly series).Sound := by
  cases acts : dashboard.seriesStep series event.1 event.2 with
  | none =>
    rw [step, hourly_untouched acts]
    exact sound series
  | some happened =>
    rw [step, hourly_of_step acts]
    cases happened with
    | reading cumulative now =>
      exact HourlyData.append_sound (sound series) (above series _ acts)
    | restored data now => exact HourlyData.restore_sound (restored_nonneg nonneg acts) now

theorem apply_negative {dashboard : Dashboard ℚ} {event : Update ℚ × Option LocalDateTime}
    (below : ¬ dashboard.AboveBaselines event) :
    ∃ series hour, ((dashboard.step event).hourly series).values hour < 0 := by
  simp only [AboveBaselines, not_forall] at below
  obtain ⟨series, happened, acts, below⟩ := below
  cases happened with
  | reading cumulative now =>
    refine ⟨series, now.slot, ?_⟩
    rw [step, hourly_of_step acts]
    exact HourlyData.append_negative below
  | restored data now => exact absurd trivial below

/-- **Hourly values stay non-negative exactly above the baselines.** From the
empty dashboard, with non-negative counters and summaries and counters that
may drop at any time, no hourly value is ever negative if and only if no
series without a last value is read below a baseline it holds. -/
theorem hourly_nonnegative_iff (events : List (Update ℚ × Option LocalDateTime))
    (nonneg : ∀ event ∈ events, event.1.NonNegative) :
    (∀ dashboard ∈ visited step .default events, ∀ series hour,
        0 ≤ (dashboard.hourly series).values hour) ↔
      StepsMeet step AboveBaselines .default events := by
  refine visited_iff_steps_meet (fun event => event.1.NonNegative)
    (fun dashboard => ∀ series, (dashboard.hourly series).Sound) ?_ ?_ ?_ ?_ nonneg
  · exact fun dashboard sound series => (sound series).nonneg
  · exact fun dashboard event sound admitted above => apply_sound sound admitted above
  · intro dashboard event _ _ below holds
    obtain ⟨series, hour, negative⟩ := apply_negative below
    exact absurd (holds series hour) (not_le.mpr negative)
  · intro series
    cases series <;> exact HourlyData.default_sound

/-- One ordinary reading: no series has a baseline yet. -/
def firstReading : List (Update ℚ × Option LocalDateTime) :=
  [(.solar { SolarData.default with energyToday := 8 }, some .morning)]

theorem hourly_nonnegative_first_reading :
    ((run step .default firstReading).hourly .solarProduction).lastValue = some 8 ∧
      ∀ dashboard ∈ visited step .default firstReading, ∀ series hour,
        0 ≤ (dashboard.hourly series).values hour := by
  have first : ∀ event ∈ firstReading, event.1.NonNegative := by simp [firstReading, Update.NonNegative]
  refine ⟨by decide +kernel, (hourly_nonnegative_iff firstReading first).mpr ⟨fun series happened _ => ?_, trivial⟩⟩
  cases happened with
  | reading cumulative now =>
    intro _ _ _ present
    cases series <;> cases present
  | restored data now => trivial

/-- A summary of today with a baseline of 21.5 kWh at 10:00, then the first
reading of the home inverter after a restart. -/
def restoreThenLowReading : List (Update ℚ × Option LocalDateTime) :=
  [(.dailySummary
      { date := ⟨2026, 9, 9⟩
        solarProduction :=
          { HourlyData.default with valuesAtHourStart := fun hour => if hour.val = 10 then 43 / 2 else 0 }
        gridImport := .default
        gridExport := .default }, some .morning),
    (.solar { SolarData.default with energyToday := 5 }, some .morning)]

/-- Every input of the run is non-negative, and 10:00 shows -16500 Wh. -/
theorem restored_baseline_spike :
    (∀ event ∈ restoreThenLowReading, event.1.NonNegative) ∧
      ∃ dashboard ∈ visited step .default restoreThenLowReading,
        (dashboard.hourly .solarProduction).values 10 = -16500 := by
  refine ⟨?_, run step .default restoreThenLowReading, last_visited, by decide +kernel⟩
  simp only [restoreThenLowReading, List.forall_mem_cons, Update.NonNegative]
  refine ⟨fun series hour => ?_, by norm_num, by simp⟩
  cases series <;> simp [DailySummary.hourly, HourlyData.default]
  split <;> norm_num

end Dashboard

end EnergyDisplay

import EnergyDisplay.Household
import EnergyDisplay.PublicationProofs
import Mathlib.Tactic.Linarith

/-! An hour of a meter on one date. Whatever is appended or restored in order, its
bar grows: what a summary shows has been counted by then, and what is read after
it is counted on top. -/
namespace EnergyDisplay

open Household Mqtt

variable {date : SummaryDate} {now : LocalDateTime} {k : Fin 24} {reading next : ℚ} {hour later : ℕ}

namespace Household

/-- Two readings of the clock on one date. -/
theorem FallsOn.sameDate {first second : LocalDateTime} (left : FallsOn date first) (right : FallsOn date second) :
    first.sameDate second = true := by
  obtain ⟨year, month, day, -⟩ := left
  obtain ⟨year', month', day', -⟩ := right
  simp [LocalDateTime.sameDate, ← year, ← year', ← month, ← month', ← day, ← day']

theorem FallsOn.isFor_iff (falls : FallsOn date now) (summary : DailySummary ℚ) :
    summary.isFor now = true ↔ summary.date = date := by
  obtain ⟨year, month, day, -⟩ := falls
  obtain ⟨⟨year', month', day'⟩, -, -, -⟩ := summary
  obtain ⟨year'', month'', day''⟩ := date
  simp_all [DailySummary.isFor, and_assoc]

theorem FallsOn.slot (falls : FallsOn date now) : (now.slot : ℕ) = now.hour := by
  have clock := falls.2.2.2
  simp only [LocalDateTime.slot]
  omega

end Household

namespace HourlyData

variable {data : HourlyData ℚ}

/-- The bar of hour `k` has been counted by a meter that shows `reading`, and not after
the hour. -/
structure Backed (data : HourlyData ℚ) (k : Fin 24) (reading : ℚ) (hour : ℕ) : Prop where
  counted : data.valuesAtHourStart k ≠ 0 → data.values k ≤ (reading - data.valuesAtHourStart k) * 1000
  idle : data.valuesAtHourStart k = 0 → data.values k ≤ 0
  fresh : hour < k → data.valuesAtHourStart k = 0

theorem Backed.mono (backed : data.Backed k reading hour) (grown : reading ≤ next) (passed : hour ≤ later) :
    data.Backed k next later where
  counted opened := by
    have before := backed.counted opened
    linarith
  idle := backed.idle
  fresh after := backed.fresh (by omega)

theorem Backed.skipped (backed : data.Backed k reading hour) : data.skipped.Backed k reading hour :=
  ⟨backed.counted, backed.idle, backed.fresh⟩

/-- A series that the dashboard keeps on the date. -/
structure Metered (date : SummaryDate) (data : HourlyData ℚ) (k : Fin 24) (reading : ℚ) (hour : ℕ) :
    Prop where
  nonneg : 0 ≤ reading
  backed : data.Backed k reading hour
  updated : ∀ previous, data.lastUpdate = some previous →
    FallsOn date previous ∧ previous.hour ≤ hour ∧ data.Backed k reading previous.hour
  present : data.valuesAtHourStart k ≠ 0 → data.baselinePresent k = true
  last : ∀ value, data.lastValue = some value → value ≤ reading

theorem Metered.mono (metered : data.Metered date k reading hour) (grown : reading ≤ next)
    (passed : hour ≤ later) : data.Metered date k next later where
  nonneg := metered.nonneg.trans grown
  backed := metered.backed.mono grown passed
  updated previous update := by
    obtain ⟨falls, before, backed⟩ := metered.updated previous update
    exact ⟨falls, before.trans passed, backed.mono grown le_rfl⟩
  present := metered.present
  last value held := (metered.last value held).trans grown

theorem default_metered (nonneg : 0 ≤ reading) :
    (HourlyData.default : HourlyData ℚ).Metered date k reading hour where
  nonneg := nonneg
  backed := ⟨fun opened => absurd rfl opened, fun _ => le_refl _, fun _ => rfl⟩
  updated := nofun
  present opened := absurd rfl opened
  last := nofun

theorem Metered.dateChanged (metered : data.Metered date k reading hour) (falls : FallsOn date now) :
    data.dateChanged now = false := by
  cases update : data.lastUpdate with
  | none => simp [HourlyData.dateChanged, update]
  | some previous =>
    rw [dateChanged_of_update update, (metered.updated previous update).1.sameDate falls]
    rfl

/-- A reading in order sets a baseline only in an hour that shows nothing. -/
theorem Metered.opens (metered : data.Metered date now.slot reading hour) (falls : FallsOn date now)
    (passed : hour ≤ now.hour) (grown : reading ≤ next) (opens : data.rebaselines next now = true) :
    data.values now.slot ≤ 0 := by
  simp only [rebaselines, Bool.or_eq_true, Bool.not_eq_true'] at opens
  obtain (moved | absent) | dropped := opens
  · cases update : data.lastUpdate with
    | none => simp [hourChanged, update] at moved
    | some previous =>
      obtain ⟨-, before, backed⟩ := metered.updated previous update
      rw [hourChanged_of_update update, bne_iff_ne] at moved
      have slot := falls.slot
      exact backed.idle (backed.fresh (by omega))
  · refine metered.backed.idle (by_contra fun opened => ?_)
    rw [metered.present opened] at absent
    cases absent
  · cases held : data.lastValue with
    | none => simp [held] at dropped
    | some value =>
      have upper := metered.last value held
      simp only [held, Option.any_some, decide_eq_true_eq] at dropped
      linarith

/-- A reading in order lets the bar of its own hour grow, and its baseline is zero only
where nothing has been counted. -/
theorem Metered.append_slot (metered : data.Metered date now.slot reading hour) (falls : FallsOn date now)
    (passed : hour ≤ now.hour) (grown : reading ≤ next)
    (baseline : data.baselinePresent now.slot = true → data.valuesAtHourStart now.slot = 0 → next ≤ 0) :
    ((data.appendValue next now).valuesAtHourStart now.slot = 0 → next ≤ 0) ∧
      data.values now.slot ≤ (data.appendValue next now).values now.slot := by
  have same := metered.dateChanged falls
  cases opens : data.rebaselines next now with
  | true =>
    rw [append_rebaselined same opens]
    have nothing := metered.opens falls passed grown opens
    exact ⟨fun zero => by simpa [setBaseline] using zero.le, by simpa [setBaseline] using nothing⟩
  | false =>
    rw [append_counted same opens]
    simp only [rebaselines, Bool.or_eq_false_iff, Bool.not_eq_false'] at opens
    refine ⟨baseline opens.1.2, ?_⟩
    simp only [Function.update_self, Nat.cast_ofNat]
    by_cases zero : data.valuesAtHourStart now.slot = 0
    · have before := metered.backed.idle zero
      have nonneg := metered.nonneg
      rw [zero]
      linarith
    · have before := metered.backed.counted zero
      linarith

/-- A reading in order lets the bar grow. -/
theorem Metered.append (metered : data.Metered date k reading hour) (falls : FallsOn date now)
    (passed : hour ≤ now.hour) (grown : reading ≤ next)
    (baseline : now.slot = k → data.baselinePresent k = true → data.valuesAtHourStart k = 0 → next ≤ 0) :
    (data.appendValue next now).Metered date k next now.hour ∧
      data.values k ≤ (data.appendValue next now).values k := by
  have slot := falls.slot
  by_cases here : now.slot = k
  · subst here
    obtain ⟨zero, more⟩ := metered.append_slot falls passed grown (baseline rfl)
    have tracks := append_tracks data next now
    have backed : (data.appendValue next now).Backed now.slot next now.hour := by
      refine ⟨fun _ => tracks.counted.le, fun closed => ?_, fun after => by omega⟩
      have nothing := zero closed
      rw [tracks.counted, closed]
      linarith
    refine ⟨⟨metered.nonneg.trans grown, backed, ?_, fun _ => tracks.present, ?_⟩, more⟩
    · rintro previous ⟨⟩
      exact ⟨falls, le_rfl, backed⟩
    · rintro held ⟨⟩
      exact le_rfl
  · obtain ⟨starts, values, present⟩ := append_other_hour next (metered.dateChanged falls) (Ne.symm here)
    have backed : (data.appendValue next now).Backed k next now.hour := by
      obtain ⟨counted, idle, fresh⟩ := metered.backed.mono grown passed
      constructor <;> rw [starts]
      · rwa [values]
      · rwa [values]
      · exact fresh
    refine ⟨⟨metered.nonneg.trans grown, backed, ?_, ?_, ?_⟩, values.ge⟩
    · rintro previous ⟨⟩
      exact ⟨falls, le_rfl, backed⟩
    · rw [starts, present]
      exact metered.present
    · rintro held ⟨⟩
      exact le_rfl

/-- A restore of what the meter has counted. -/
theorem Backed.restore (backed : data.Backed k reading hour) (nonneg : 0 ≤ reading) (falls : FallsOn date now)
    (passed : hour ≤ now.hour) : (data.restore (some now)).Metered date k reading now.hour := by
  have restored : (data.restore (some now)).Backed k reading now.hour := by
    have held := backed.mono le_rfl passed
    exact ⟨held.counted, held.idle, held.fresh⟩
  refine ⟨nonneg, restored, ?_, fun opened => ?_, nofun⟩
  · rintro previous ⟨⟩
    exact ⟨falls, le_rfl, restored⟩
  · rw [restore_present]
    exact bne_iff_ne.mpr opened

end HourlyData

/-! ## The updates that wait -/

variable {series : Series} {first last : ℚ} {updates : List (Update ℚ)} {update : Update ℚ}

/-- The readings that wait go up, from what has been read to what the meter shows. -/
def Climbs (series : Series) (first last : ℚ) : List (Update ℚ) → Prop
  | [] => first ≤ last
  | update :: rest =>
    match update.meter series with
    | some reading => first ≤ reading ∧ Climbs series reading last rest
    | none => Climbs series first last rest

namespace Climbs

theorem cons_reading (reads : update.meter series = some reading) :
    Climbs series first last (update :: updates) ↔ first ≤ reading ∧ Climbs series reading last updates := by
  simp only [Climbs, reads]

theorem cons_other (reads : update.meter series = none) :
    Climbs series first last (update :: updates) ↔ Climbs series first last updates := by
  simp only [Climbs, reads]

theorem lower (climbs : Climbs series first last updates) (less : reading ≤ first) :
    Climbs series reading last updates := by
  induction updates generalizing reading first with
  | nil => exact less.trans climbs
  | cons update rest ih =>
    cases reads : update.meter series with
    | none => exact (cons_other reads).mpr (ih ((cons_other reads).mp climbs) less)
    | some value =>
      obtain ⟨above, later⟩ := (cons_reading reads).mp climbs
      exact (cons_reading reads).mpr ⟨less.trans above, later⟩

theorem raise (climbs : Climbs series first last updates) (more : last ≤ reading) :
    Climbs series first reading updates := by
  induction updates generalizing first with
  | nil => exact le_trans climbs more
  | cons update rest ih =>
    cases reads : update.meter series with
    | none => exact (cons_other reads).mpr (ih ((cons_other reads).mp climbs))
    | some value =>
      obtain ⟨above, later⟩ := (cons_reading reads).mp climbs
      exact (cons_reading reads).mpr ⟨above, ih later⟩

theorem le (climbs : Climbs series first last updates) : first ≤ last := by
  induction updates generalizing first with
  | nil => exact climbs
  | cons update rest ih =>
    cases reads : update.meter series with
    | none => exact ih ((cons_other reads).mp climbs)
    | some value =>
      obtain ⟨above, later⟩ := (cons_reading reads).mp climbs
      exact above.trans (ih later)

theorem tail (climbs : Climbs series first last (update :: updates)) : Climbs series first last updates := by
  cases reads : update.meter series with
  | none => exact (cons_other reads).mp climbs
  | some value =>
    obtain ⟨above, later⟩ := (cons_reading reads).mp climbs
    exact later.lower above

theorem push (climbs : Climbs series first last updates)
    (grows : ∀ reading, update.meter series = some reading → last ≤ reading) :
    Climbs series first ((update.meter series).getD last) (updates ++ [update]) := by
  induction updates generalizing first with
  | nil =>
    cases reads : update.meter series with
    | none => exact (cons_other reads).mpr climbs
    | some value =>
      exact (cons_reading reads).mpr ⟨le_trans climbs (grows value reads), le_refl value⟩
  | cons other rest ih =>
    cases reads : other.meter series with
    | none => exact (cons_other reads).mpr (ih ((cons_other reads).mp climbs))
    | some value =>
      obtain ⟨above, later⟩ := (cons_reading reads).mp climbs
      exact (cons_reading reads).mpr ⟨above, ih later⟩

/-- A full queue loses its oldest update, and the others still climb. -/
theorem queueUpdate {updates : Updates ℚ} (climbs : Climbs series first last updates.items)
    (grows : ∀ reading, update.meter series = some reading → last ≤ reading) :
    Climbs series first ((update.meter series).getD last) (Mqtt.queueUpdate updates update).items := by
  obtain ⟨_, items⟩ | ⟨oldest, others, full, _, items⟩ := queueUpdate_cases updates update
  · rw [items]
    exact climbs.push grows
  · rw [full] at climbs
    rw [items]
    exact climbs.tail.push grows

end Climbs

namespace Dashboard

variable {dashboard : Dashboard ℚ} {summary : DailySummary ℚ}

/-- A reading of a meter is appended to its series. -/
theorem hourly_meter (dashboard : Dashboard ℚ) (reads : update.meter series = some reading) :
    (dashboard.apply update (some now)).hourly series =
      (dashboard.hourly series).appendValue reading now := by
  refine hourly_of_reading ?_
  cases update with
  | grid data => cases series <;> exact reads
  | _ => cases reads

/-- Of the updates that show no meter, only a summary of the date changes its series. -/
theorem hourly_other (dashboard : Dashboard ℚ) (metered : series ≠ .solarProduction)
    (reads : update.meter series = none) (other : ∀ summary, update = .dailySummary summary →
      summary.date ≠ date) (falls : FallsOn date now) :
    (dashboard.apply update (some now)).hourly series = dashboard.hourly series := by
  refine hourly_untouched ?_
  cases update with
  | dailySummary summary =>
    have stale : summary.isFor now = false := by
      rw [Bool.eq_false_iff]
      exact fun today => other summary rfl ((falls.isFor_iff summary).mp today)
    simp [seriesStep, stale]
  | grid data => cases series <;> first | exact absurd rfl metered | cases reads
  | _ => cases series <;> first | exact absurd rfl metered | rfl

theorem hourly_summary (dashboard : Dashboard ℚ) (falls : FallsOn date now) (today : summary.date = date) :
    (dashboard.apply (.dailySummary summary) (some now)).hourly series =
      (summary.hourly series).restore (some now) := by
  have current := (falls.isFor_iff summary).mpr today
  have acts : dashboard.seriesStep series (.dailySummary summary) (some now) =
      some (.restored (summary.hourly series) (some now)) := by
    simp [seriesStep, current]
  exact hourly_of_step acts

theorem append_of_not_countsFromZero {cumulative : ℚ} (reads : update.meter series = some cumulative)
    (baseline : countsFromZero series k dashboard (update, some now) = false) (here : now.slot = k)
    (held : (dashboard.hourly series).baselinePresent k = true)
    (zero : (dashboard.hourly series).valuesAtHourStart k = 0) : cumulative ≤ 0 := by
  simpa [countsFromZero, reads, here, held, zero] using baseline

/-- One update from the front of the queue. -/
theorem metered_apply (metered : (dashboard.hourly series).Metered date k first hour)
    (meter : series ≠ .solarProduction) (falls : FallsOn date now) (passed : hour ≤ now.hour)
    (climbs : Climbs series first last (update :: updates))
    (baseline : countsFromZero series k dashboard (update, some now) = false)
    (backed : ∀ summary, update = .dailySummary summary → summary.date = date →
      (summary.hourly series).Backed k first hour) :
    ∃ next, first ≤ next ∧ Climbs series next last updates ∧
      ((dashboard.apply update (some now)).hourly series).Metered date k next now.hour ∧
      ∀ floor, floor ≤ (dashboard.hourly series).values k →
        (∀ summary, update = .dailySummary summary → summary.date = date →
          floor ≤ (summary.hourly series).values k) →
        floor ≤ ((dashboard.apply update (some now)).hourly series).values k := by
  cases reads : update.meter series with
  | some value =>
    obtain ⟨above, rises⟩ := (Climbs.cons_reading reads).mp climbs
    obtain ⟨appended, grown⟩ := metered.append falls passed above (append_of_not_countsFromZero reads baseline)
    rw [← hourly_meter dashboard reads] at appended grown
    exact ⟨value, above, rises, appended, fun floor below _ => below.trans grown⟩
  | none =>
    refine ⟨first, le_rfl, (Climbs.cons_other reads).mp climbs, ?_⟩
    by_cases restores : ∃ summary, update = .dailySummary summary ∧ summary.date = date
    · obtain ⟨summary, rfl, today⟩ := restores
      rw [hourly_summary dashboard falls today]
      refine ⟨(backed summary rfl today).restore metered.nonneg falls passed, fun floor _ summaries => ?_⟩
      rw [HourlyData.restore_values]
      exact summaries summary rfl today
    · rw [hourly_other dashboard meter reads (fun summary same today => restores ⟨summary, same, today⟩)
        falls]
      exact ⟨metered.mono le_rfl passed, fun floor below _ => below⟩

/-- The queue drained: the series is metered still, and its bar above whatever it was
above, if the summaries of the date in the queue are. -/
theorem metered_applyAll (metered : (dashboard.hourly series).Metered date k first hour)
    (meter : series ≠ .solarProduction) (falls : FallsOn date now) (passed : hour ≤ now.hour)
    (climbs : Climbs series first last updates)
    (baselines : FromBaselines series k (some now) dashboard updates)
    (backed : ∀ summary, .dailySummary summary ∈ updates → summary.date = date →
      (summary.hourly series).Backed k first hour) :
    ((dashboard.applyAll (updates.map fun update => (update, some now))).hourly series).Metered date k last
        now.hour ∧
      ∀ floor, floor ≤ (dashboard.hourly series).values k →
        (∀ summary, .dailySummary summary ∈ updates → summary.date = date →
          floor ≤ (summary.hourly series).values k) →
        floor ≤
          ((dashboard.applyAll (updates.map fun update => (update, some now))).hourly series).values k := by
  induction updates generalizing dashboard first hour with
  | nil => exact ⟨metered.mono climbs passed, fun _ above _ => above⟩
  | cons update rest ih =>
    obtain ⟨baseline, later⟩ := baselines
    obtain ⟨next, above, rises, applied, kept⟩ := metered_apply metered meter falls passed climbs baseline
      fun summary same => backed summary (same ▸ List.mem_cons_self)
    obtain ⟨drained, kept'⟩ := ih applied le_rfl rises later fun summary member today =>
      (backed summary (List.mem_cons_of_mem _ member) today).mono above passed
    rw [List.map_cons, applyAll_cons]
    refine ⟨drained, fun floor below summaries => kept' floor (kept floor below ?_) ?_⟩
    · exact fun summary same => summaries summary (same ▸ List.mem_cons_self)
    · exact fun summary member => summaries summary (List.mem_cons_of_mem _ member)

/-- With the restored summary behind every other, draining the queue leaves the
bar above its own. -/
theorem restored_applyAll (metered : (dashboard.hourly series).Metered date k first hour)
    (meter : series ≠ .solarProduction) (falls : FallsOn date now) (passed : hour ≤ now.hour)
    (climbs : Climbs series first last updates)
    (baselines : FromBaselines series k (some now) dashboard updates)
    (backed : ∀ summary, .dailySummary summary ∈ updates → summary.date = date →
      (summary.hourly series).Backed k first hour)
    (restored : SummaryLast summary updates) (today : summary.date = date)
    (queued : ∃ update ∈ updates, update.isDailySummary = true) :
    (summary.hourly series).values k ≤
      ((dashboard.applyAll (updates.map fun update => (update, some now))).hourly series).values k := by
  induction updates generalizing dashboard first hour with
  | nil => simp at queued
  | cons update rest ih =>
    obtain ⟨baseline, afterwards⟩ := baselines
    obtain ⟨next, above, rises, applied, kept⟩ := metered_apply metered meter falls passed climbs baseline
      fun summary same => backed summary (same ▸ List.mem_cons_self)
    have later : ∀ summary, .dailySummary summary ∈ rest → summary.date = date →
        (summary.hourly series).Backed k next now.hour := fun summary member today =>
      (backed summary (List.mem_cons_of_mem _ member) today).mono above passed
    rw [List.map_cons, applyAll_cons]
    by_cases behind : ∃ update ∈ rest, update.isDailySummary = true
    · exact ih applied le_rfl rises afterwards later restored.2 behind
    · -- It is this one, and nothing behind it is a summary.
      have none_ : ∀ other, .dailySummary other ∉ rest := fun other member => behind ⟨_, member, rfl⟩
      obtain ⟨found, member, isSummary⟩ := queued
      rcases List.mem_cons.mp member with rfl | member
      · have same : .dailySummary summary = found := by
          rcases List.mem_cons.mp (restored.1 isSummary) with same | member
          · exact same
          · exact absurd member (none_ summary)
        subst same
        refine (metered_applyAll applied meter falls le_rfl rises afterwards later).2 _ ?_
          fun other member => absurd member (none_ other)
        rw [hourly_summary dashboard falls today, HourlyData.restore_values]
      · exact absurd ⟨found, member, isSummary⟩ behind

end Dashboard

end EnergyDisplay

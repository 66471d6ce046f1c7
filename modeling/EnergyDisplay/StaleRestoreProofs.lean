import EnergyDisplay.SeriesProjection

/-! A summary restored before the clock is known. Its date cannot be checked
then, and no later step checks it: the first timestamped reading takes the
restored arrays for data of its own day. The summary leaves no trace exactly
when another one replaced it in time, or when it held nothing but, possibly, a
baseline for the hour of that reading equal to the reading itself. -/
namespace EnergyDisplay

namespace HourlyData

/-- What the graph and later readings see of a series. -/
structure SameHistory (first second : HourlyData ℚ) : Prop where
  starts : first.valuesAtHourStart = second.valuesAtHourStart
  values : first.values = second.values
  present : first.baselinePresent = second.baselinePresent
  updates : first.lastUpdate = second.lastUpdate

/-- A restored series that a reading overwrites completely. -/
def Traceless (data : HourlyData ℚ) (cumulative : ℚ) (now : LocalDateTime) : Prop :=
  (∀ hour, hour ≠ now.slot → data.valuesAtHourStart hour = 0 ∧ data.values hour = 0) ∧
    (data.valuesAtHourStart now.slot = 0 ∨ data.valuesAtHourStart now.slot = cumulative)

variable {data : HourlyData ℚ} {cumulative : ℚ} {now : LocalDateTime}

/-- The first timestamped reading of a series restored without time. -/
theorem restored_append (data : HourlyData ℚ) (cumulative : ℚ) (now : LocalDateTime) :
    (data.restore none).appendValue cumulative now =
      if data.valuesAtHourStart now.slot = 0 then
        { (data.restore none).setBaseline now.slot cumulative with
          lastUpdate := some now, lastValue := some cumulative }
      else
        { data.restore none with
          values := Function.update data.values now.slot
            ((cumulative - data.valuesAtHourStart now.slot) * 1000)
          lastUpdate := some now
          lastValue := some cumulative } := by
  have same : (data.restore none).dateChanged now = false := rfl
  have opens : (data.restore none).rebaselines cumulative now =
      !(data.valuesAtHourStart now.slot != 0) := by
    simp [rebaselines, hourChanged]
  rw [append_same_day same, opens]
  by_cases zero : data.valuesAtHourStart now.slot = 0
  · simp [zero]
  · simp [zero]

/-- The reading erases the restored series exactly when it is traceless. -/
theorem traceless_iff (data : HourlyData ℚ) (cumulative : ℚ) (now : LocalDateTime) :
    SameHistory ((data.restore none).appendValue cumulative now)
      (HourlyData.default.appendValue cumulative now) ↔ data.Traceless cumulative now := by
  rw [append_first (rfl : (HourlyData.default : HourlyData ℚ).lastUpdate = none) rfl,
    restored_append]
  by_cases zero : data.valuesAtHourStart now.slot = 0
  · rw [if_pos zero]
    constructor
    · intro same
      refine ⟨fun hour other => ⟨?_, ?_⟩, Or.inl zero⟩
      · simpa [setBaseline, HourlyData.default, other] using congrFun same.starts hour
      · simpa [setBaseline, HourlyData.default, other] using congrFun same.values hour
    · rintro ⟨empty, _⟩
      refine ⟨?_, ?_, ?_, rfl⟩ <;> funext hour <;> by_cases here : hour = now.slot
      · simp [setBaseline, here]
      · simpa [setBaseline, HourlyData.default, here] using (empty hour here).1
      · simp [setBaseline, here]
      · simpa [setBaseline, HourlyData.default, here] using (empty hour here).2
      · simp [setBaseline, here]
      · simp [setBaseline, HourlyData.default, here, (empty hour here).1]
  · rw [if_neg zero]
    constructor
    · intro same
      refine ⟨fun hour other => ⟨?_, ?_⟩, Or.inr ?_⟩
      · simpa [setBaseline, HourlyData.default, other] using congrFun same.starts hour
      · simpa [setBaseline, HourlyData.default, other] using congrFun same.values hour
      · simpa [setBaseline] using congrFun same.starts now.slot
    · rintro ⟨empty, baseline⟩
      have exact_ := baseline.resolve_left zero
      refine ⟨?_, ?_, ?_, rfl⟩ <;> funext hour <;> by_cases here : hour = now.slot
      · simpa [setBaseline, here] using exact_
      · simpa [setBaseline, HourlyData.default, here] using (empty hour here).1
      · simp [setBaseline, here, exact_]
      · simpa [setBaseline, HourlyData.default, here] using (empty hour here).2
      · simp [setBaseline, here, zero]
      · simp [setBaseline, HourlyData.default, here, (empty hour here).1]

end HourlyData

namespace Dashboard

/-- Updates applied while the clock is not synchronized. -/
def applyUnsynced (dashboard : Dashboard ℚ) (updates : List (Update ℚ)) : Dashboard ℚ :=
  dashboard.applyAll (updates.map fun update => (update, none))

/-- No hourly series has seen a timestamp or a restore. -/
def NeverTimestamped (dashboard : Dashboard ℚ) : Prop :=
  ∀ series, dashboard.hourly series = .default

variable {first second dashboard : Dashboard ℚ} {update : Update ℚ} {updates : List (Update ℚ)}
  {series : Series} {summary : DailySummary ℚ}

theorem applyUnsynced_cons : dashboard.applyUnsynced (update :: updates) =
    (dashboard.apply update none).applyUnsynced updates := rfl

theorem unsynced_restore (dashboard : Dashboard ℚ) (summary : DailySummary ℚ) (series : Series) :
    (dashboard.apply (.dailySummary summary) none).hourly series =
      (summary.hourly series).restore none := by
  cases series <;> rfl

/-- Without a clock only summaries act on the hourly series. -/
theorem unsynced_step (live : update.isDailySummary = false) :
    dashboard.seriesStep series update none = none := by
  cases update <;> first | rfl | cases live

theorem unsynced_untouched (live : ∀ update ∈ updates, update.isDailySummary = false) :
    (dashboard.applyUnsynced updates).hourly series = dashboard.hourly series := by
  induction updates generalizing dashboard with
  | nil => rfl
  | cons update rest ih =>
    exact (ih fun later member => live later (by simp [member])).trans
      (hourly_untouched (unsynced_step (live update (by simp))))

/-- What an update does to a series without a clock depends on the series only. -/
theorem unsynced_apply_congr (same : first.hourly series = second.hourly series) :
    (first.apply update none).hourly series = (second.apply update none).hourly series := by
  have event : first.seriesStep series update none = second.seriesStep series update none := by
    cases update <;> rfl
  rw [hourly_apply, hourly_apply, event, same]

theorem unsynced_congr (same : first.hourly series = second.hourly series) :
    (first.applyUnsynced updates).hourly series = (second.applyUnsynced updates).hourly series := by
  induction updates generalizing first second with
  | nil => exact same
  | cons update rest ih => exact ih (unsynced_apply_congr same)

/-- A later summary decides the series, whatever was there before it. -/
theorem unsynced_replaced (replaced : ∃ update ∈ updates, update.isDailySummary = true) :
    (first.applyUnsynced updates).hourly series = (second.applyUnsynced updates).hourly series := by
  induction updates generalizing first second with
  | nil => simp at replaced
  | cons update rest ih =>
    cases update with
    | dailySummary summary =>
      rw [applyUnsynced_cons, applyUnsynced_cons]
      exact unsynced_congr ((unsynced_restore first summary series).trans
        (unsynced_restore second summary series).symm)
    | _ =>
      refine ih ?_
      obtain ⟨update, member, restores⟩ := replaced
      rcases List.mem_cons.mp member with rfl | later
      · cases restores
      · exact ⟨update, later, restores⟩

/-- A restore leaves the cached payloads alone, so both runs read the same
counters. -/
theorem unsynced_caches (solar : first.solar = second.solar)
    (garage : first.garageSolar = second.garageSolar) :
    (first.applyUnsynced updates).solar = (second.applyUnsynced updates).solar ∧
      (first.applyUnsynced updates).garageSolar = (second.applyUnsynced updates).garageSolar := by
  induction updates generalizing first second with
  | nil => exact ⟨solar, garage⟩
  | cons update rest ih =>
    have one := caches_apply first update none
    have two := caches_apply second update none
    refine ih (one.1.trans (Eq.trans ?_ two.1.symm)) (one.2.trans (Eq.trans ?_ two.2.symm))
    · cases update <;> first | exact solar | rfl
    · cases update <;> first | exact garage | rfl

theorem cumulative_congr (solar : first.solar = second.solar)
    (garage : first.garageSolar = second.garageSolar) :
    first.cumulative update series = second.cumulative update series := by
  cases update <;> cases series <;> simp [cumulative, solar, garage]

/-- The dashboard after a summary, further updates and no clock, as opposed to
one that never saw the summary. -/
def restoredUnsynced (dashboard : Dashboard ℚ) (summary : DailySummary ℚ)
    (updates : List (Update ℚ)) : Dashboard ℚ :=
  (dashboard.apply (.dailySummary summary) none).applyUnsynced updates

/-- Every series the update appends to is as if the summary had not been
applied. -/
def LeavesNoTrace (dashboard : Dashboard ℚ) (summary : DailySummary ℚ) (updates : List (Update ℚ))
    (update : Update ℚ) (now : LocalDateTime) : Prop :=
  ∀ series, ((dashboard.applyUnsynced updates).cumulative update series).isSome →
    (((dashboard.restoredUnsynced summary updates).apply update (some now)).hourly series).SameHistory
      (((dashboard.applyUnsynced updates).apply update (some now)).hourly series)

/-- **A summary restored without a clock is never checked again.** Whatever
its date, its data reaches the series of the first timestamped reading, unless
a later summary replaced it or there was nothing in it to see. -/
theorem unsynced_restore_leaves_no_trace_iff (dashboard : Dashboard ℚ) (summary : DailySummary ℚ)
    (updates : List (Update ℚ)) (update : Update ℚ) (now : LocalDateTime)
    (fresh : dashboard.NeverTimestamped) :
    dashboard.LeavesNoTrace summary updates update now ↔
      (∃ later ∈ updates, later.isDailySummary = true) ∨
        ∀ series cumulative,
          (dashboard.applyUnsynced updates).cumulative update series = some cumulative →
          (summary.hourly series).Traceless cumulative now := by
  have caches : (dashboard.restoredUnsynced summary updates).solar =
        (dashboard.applyUnsynced updates).solar ∧
      (dashboard.restoredUnsynced summary updates).garageSolar =
        (dashboard.applyUnsynced updates).garageSolar :=
    unsynced_caches rfl rfl
  have appended : ∀ series cumulative,
      (dashboard.applyUnsynced updates).cumulative update series = some cumulative →
      ((dashboard.restoredUnsynced summary updates).apply update (some now)).hourly series =
          ((dashboard.restoredUnsynced summary updates).hourly series).appendValue cumulative now ∧
        ((dashboard.applyUnsynced updates).apply update (some now)).hourly series =
          ((dashboard.applyUnsynced updates).hourly series).appendValue cumulative now := by
    intro series cumulative reads
    have reads' := (cumulative_congr caches.1 caches.2).trans reads
    exact ⟨hourly_of_reading reads', hourly_of_reading reads⟩
  by_cases replaced : ∃ later ∈ updates, later.isDailySummary = true
  · refine iff_of_true (fun series reads => ?_) (Or.inl replaced)
    obtain ⟨cumulative, reads⟩ := Option.isSome_iff_exists.mp reads
    have same : (dashboard.restoredUnsynced summary updates).hourly series =
        (dashboard.applyUnsynced updates).hourly series := unsynced_replaced replaced
    obtain ⟨with_, without⟩ := appended series cumulative reads
    rw [with_, without, same]
    exact ⟨rfl, rfl, rfl, rfl⟩
  · have live : ∀ later ∈ updates, later.isDailySummary = false := by
      intro later member
      by_contra restores
      exact replaced ⟨later, member, by simpa using restores⟩
    have restored : ∀ series, (dashboard.restoredUnsynced summary updates).hourly series =
        (summary.hourly series).restore none :=
      fun series => (unsynced_untouched live).trans (unsynced_restore dashboard summary series)
    have without : ∀ series, (dashboard.applyUnsynced updates).hourly series = .default :=
      fun series => (unsynced_untouched live).trans (fresh series)
    rw [or_iff_right replaced]
    constructor
    · intro noTrace series cumulative reads
      have same := noTrace series (by simp [reads])
      rw [(appended series cumulative reads).1, (appended series cumulative reads).2,
        restored, without] at same
      exact (HourlyData.traceless_iff _ _ _).mp same
    · intro traceless series reads
      obtain ⟨cumulative, reads⟩ := Option.isSome_iff_exists.mp reads
      rw [(appended series cumulative reads).1, (appended series cumulative reads).2,
        restored, without]
      exact (HourlyData.traceless_iff _ _ _).mpr (traceless series cumulative reads)

/-- Yesterday's summary, with 42 Wh of solar production at 3:00. -/
def yesterday : DailySummary ℚ where
  date := ⟨2026, 9, 8⟩
  solarProduction := { HourlyData.default with values := fun hour => if hour.val = 3 then 42 else 0 }
  gridImport := .default
  gridExport := .default

theorem default_never_timestamped : NeverTimestamped .default := by
  intro series
  cases series <;> rfl

/-- A summary of yesterday and the first home reading of today. -/
theorem unsynced_restore_yesterday :
    (Dashboard.default : Dashboard ℚ).LeavesNoTrace yesterday []
        (.solar { SolarData.default with energyToday := 8 }) .morning ↔
      (∃ later ∈ ([] : List (Update ℚ)), later.isDailySummary = true) ∨
        ∀ series cumulative,
          ((Dashboard.default : Dashboard ℚ).applyUnsynced []).cumulative
            (.solar { SolarData.default with energyToday := 8 }) series = some cumulative →
          (yesterday.hourly series).Traceless cumulative .morning :=
  unsynced_restore_leaves_no_trace_iff .default yesterday [] _ .morning default_never_timestamped

/-- Yesterday's 42 Wh are still shown after today's first reading. -/
theorem stale_summary_shown_today :
    yesterday.isFor .morning = false ∧
      ¬ (Dashboard.default : Dashboard ℚ).LeavesNoTrace yesterday []
        (.solar { SolarData.default with energyToday := 8 }) .morning := by
  refine ⟨by decide, ?_⟩
  intro noTrace
  have same := congrFun (noTrace .solarProduction rfl).values 3
  exact absurd same (by decide +kernel)

end Dashboard

end EnergyDisplay

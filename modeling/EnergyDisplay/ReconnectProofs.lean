import EnergyDisplay.RestartProofs
import EnergyDisplay.SeriesProjection

/-! Reconnecting while the device keeps running. Every reconnect applies the
retained summary again and puts each series back to what it was when the
summary was taken. The open hour recovers by itself, because its baseline
comes back with the summary; whatever was counted in another hour since then,
or on a baseline of zero, is lost. -/
namespace EnergyDisplay

open Reading

namespace HourlyData

variable {data snapshot : HourlyData ℚ} {last next : Reading} {readings : List Reading}
  {now : LocalDateTime}

/-! ## One series -/

/-- Readings in order that stay in the open hour count from its baseline. -/
theorem appendAll_same_hour (tracks : data.Tracks last.cumulative last.now)
    (order : InOrder (last :: readings)) (stays : ∀ reading ∈ readings, reading.now.hour = last.now.hour) :
    ∃ latest ∈ last :: readings, (data.appendAll readings).Tracks latest.cumulative latest.now ∧
      (data.appendAll readings).valuesAtHourStart last.now.slot =
        data.valuesAtHourStart last.now.slot := by
  induction readings generalizing data last with
  | nil => exact ⟨last, by simp, tracks, rfl⟩
  | cons reading rest ih =>
    obtain ⟨after, ordered⟩ := List.pairwise_cons.mp order
    obtain ⟨sameHour, staysLater⟩ := List.forall_mem_cons.mp stays
    have precedes := after reading List.mem_cons_self
    have same := tracks.dateChanged precedes.time.sameDate
    have counts := tracks.counts sameHour.symm precedes.counter
    have slot := LocalDateTime.slot_of_hour sameHour
    obtain ⟨latest, member, tracks', kept⟩ :=
      ih (append_tracks data reading.cumulative reading.now) ordered
        (fun later inside => (staysLater later inside).trans sameHour.symm)
    refine ⟨latest, List.mem_cons_of_mem _ member, tracks', ?_⟩
    rw [← slot]
    refine kept.trans ?_
    rw [append_counted same counts]

/-- What a series shows after a reconnect restored `snapshot` and one more
reading arrived. -/
theorem restarted_append (snapshot : HourlyData ℚ) (next : Reading)
    (sameDate : now.sameDate next.now = true) :
    ((snapshot.restarted now).append next).values =
      Function.update snapshot.values next.now.slot
        (if now.hour = next.now.hour ∧ snapshot.valuesAtHourStart next.now.slot ≠ 0 then
          (next.cumulative - snapshot.valuesAtHourStart next.now.slot) * 1000
        else 0) := by
  have same : (snapshot.restarted now).dateChanged next.now = false := by
    simp [dateChanged_of_update restarted_lastUpdate, sameDate]
  have forgotten : (snapshot.restarted now).lastValue = none := rfl
  by_cases carried : now.hour = next.now.hour ∧ snapshot.valuesAtHourStart next.now.slot ≠ 0
  · have counts : (snapshot.restarted now).rebaselines next.cumulative next.now = false := by
      simp [rebaselines, hourChanged_of_update restarted_lastUpdate, restarted_present, forgotten,
        carried.1, carried.2]
    rw [append, append_counted same counts, if_pos carried]
    simp [restarted, markRestored, markBaselinesPresent, skipped]
  · have opens : (snapshot.restarted now).rebaselines next.cumulative next.now = true := by
      by_cases sameHour : now.hour = next.now.hour
      · have zero : snapshot.valuesAtHourStart next.now.slot = 0 := by
          by_contra held
          exact carried ⟨sameHour, held⟩
        simp [rebaselines, restarted_present, zero]
      · simp [rebaselines, hourChanged_of_update restarted_lastUpdate, sameHour]
    rw [append, append_rebaselined same opens, if_neg carried]
    rfl

/-- The snapshot keeps up with a series it replaces, for the sake of the next
reading: no other hour has counted on since it was taken, and the hour of that
reading has counted nothing unless the snapshot brings back its baseline. -/
structure KeepsUp (snapshot current : HourlyData ℚ) (now : LocalDateTime) (next : Reading) : Prop where
  others : ∀ hour, hour ≠ next.now.slot → current.values hour ≤ snapshot.values hour
  reopened : now.hour ≠ next.now.hour ∨ snapshot.valuesAtHourStart next.now.slot = 0 →
    current.values next.now.slot ≤ 0
  /-- A baseline of an hour that was not open when the snapshot was taken is
  left from a clock that went back; it may be any counter. -/
  leftover : now.hour = next.now.hour → snapshot.valuesAtHourStart next.now.slot ≠ 0 →
    (∀ previous, snapshot.lastUpdate = some previous → previous.hour ≠ next.now.hour) →
    current.values next.now.slot ≤
      (next.cumulative - snapshot.valuesAtHourStart next.now.slot) * 1000

/-- In the hour the snapshot left open, the next reading counts at least what
the device had counted itself. -/
theorem open_hour_recovers (tracks : snapshot.Tracks last.cumulative last.now)
    (order : InOrder (last :: readings ++ [next])) (sameHour : last.now.hour = next.now.hour) :
    (snapshot.appendAll readings).values next.now.slot ≤
      (next.cumulative - snapshot.valuesAtHourStart next.now.slot) * 1000 := by
  obtain ⟨ordered, _, before⟩ := List.pairwise_append.mp order
  have squeezed : ∀ reading ∈ last :: readings, reading.now.hour = last.now.hour := by
    intro reading member
    have upper := (before reading member next (by simp)).time.hour_le
    rcases List.mem_cons.mp member with rfl | later
    · rfl
    · have lower := ((List.pairwise_cons.mp ordered).1 reading later).time.hour_le
      omega
  obtain ⟨latest, member, tracks', kept⟩ := appendAll_same_hour tracks ordered
    (fun reading later => squeezed reading (List.mem_cons_of_mem _ later))
  have slot : latest.now.slot = next.now.slot :=
    LocalDateTime.slot_of_hour ((squeezed latest member).trans sameHour)
  have counted := tracks'.counted
  rw [LocalDateTime.slot_of_hour sameHour] at kept
  rw [slot, kept] at counted
  have grown := (before latest member next (by simp)).counter
  rw [counted]
  linarith

theorem lastUpdate_appendAll (readings : List Reading) :
    ((HourlyData.default : HourlyData ℚ).appendAll readings).lastUpdate =
      readings.getLast?.map Reading.now := by
  rcases List.eq_nil_or_concat' readings with rfl | ⟨init, last, rfl⟩
  · rfl
  · rw [appendAll_tracks.lastUpdate, List.getLast?_concat]
    rfl

/-- A series loses nothing exactly when the snapshot keeps up with it. -/
theorem restarted_keeps_iff (before readings : List Reading) (next : Reading) (now : LocalDateTime)
    (order : InOrder (before.getLast?.toList ++ readings ++ [next]))
    (sameDate : now.sameDate next.now = true) :
    let snapshot := (HourlyData.default : HourlyData ℚ).appendAll before
    (∀ hour, (snapshot.appendAll readings).values hour ≤
        ((snapshot.restarted now).append next).values hour) ↔
      snapshot.KeepsUp (snapshot.appendAll readings) now next := by
  intro snapshot
  rw [restarted_append snapshot next sameDate]
  constructor
  · intro kept
    have here := kept next.now.slot
    rw [Function.update_self] at here
    refine ⟨fun hour other => ?_, fun reopened => ?_, fun sameHour held _ => ?_⟩
    · simpa [other] using kept hour
    · rw [if_neg (by tauto)] at here
      exact here
    · rw [if_pos ⟨sameHour, held⟩] at here
      exact here
  · intro keeps hour
    by_cases other : hour = next.now.slot
    · subst other
      rw [Function.update_self]
      by_cases carried : now.hour = next.now.hour ∧ snapshot.valuesAtHourStart next.now.slot ≠ 0
      · rw [if_pos carried]
        by_cases wasOpen : ∃ last, before.getLast? = some last ∧ last.now.hour = next.now.hour
        · obtain ⟨last, isLast, sameHour⟩ := wasOpen
          rw [isLast] at order
          obtain ⟨init, rfl⟩ := List.getLast?_eq_some_iff.mp isLast
          exact open_hour_recovers appendAll_tracks order sameHour
        · refine keeps.leftover carried.1 carried.2 fun previous update sameHour => wasOpen ?_
          rw [lastUpdate_appendAll, Option.map_eq_some_iff] at update
          obtain ⟨last, isLast, rfl⟩ := update
          exact ⟨last, isLast, sameHour⟩
      · rw [if_neg carried]
        exact keeps.reopened (by tauto)
    · rw [Function.update_of_ne other]
      exact keeps.others hour other

end HourlyData

/-! ## All three series -/

namespace Dashboard

/-- The readings a series gets from a list of updates. -/
def seriesReadings (dashboard : Dashboard ℚ) (series : Series) :
    List (Update ℚ × LocalDateTime) → List Reading
  | [] => []
  | (update, now) :: rest =>
    ((dashboard.cumulative update series).map fun cumulative => ⟨cumulative, now⟩).toList ++
      (dashboard.apply update (some now)).seriesReadings series rest

/-- Without a summary among the updates, a series is its own readings. -/
theorem hourly_applySynced (dashboard : Dashboard ℚ) (series : Series)
    (events : List (Update ℚ × LocalDateTime))
    (live : ∀ event ∈ events, event.1.isDailySummary = false) :
    (dashboard.applySynced events).hourly series =
      (dashboard.hourly series).appendAll (dashboard.seriesReadings series events) := by
  induction events generalizing dashboard with
  | nil => rfl
  | cons event rest ih =>
    obtain ⟨update, now⟩ := event
    obtain ⟨notSummary, later⟩ := List.forall_mem_cons.mp live
    refine (ih (dashboard.apply update (some now)) later).trans ?_
    rw [hourly_live notSummary]
    cases reads : dashboard.cumulative update series with
    | none => simp [seriesReadings, reads]
    | some cumulative => simp [seriesReadings, reads, HourlyData.append]

/-- What the device publishes: its three series, as serialization keeps them. -/
def summary (dashboard : Dashboard ℚ) (date : SummaryDate) : DailySummary ℚ where
  date := date
  solarProduction := dashboard.status.solarProductionHourly.skipped
  gridImport := dashboard.status.gridImportHourly.skipped
  gridExport := dashboard.status.gridExportHourly.skipped

/-- A summary of today puts every series back to its snapshot. -/
theorem hourly_restored (dashboard taken : Dashboard ℚ) {now : LocalDateTime} {date : SummaryDate}
    (today : (taken.summary date).isFor now = true) (series : Series) :
    (dashboard.apply (.dailySummary (taken.summary date)) (some now)).hourly series =
      (taken.hourly series).restarted now := by
  have acts : dashboard.seriesStep series (.dailySummary (taken.summary date)) (some now) =
      some (.restored ((taken.summary date).hourly series) (some now)) := by
    simp [seriesStep, today]
  rw [hourly_of_step acts]
  cases series <;> rfl

/-- The dashboard when a reconnect applies the summary `taken` published. -/
def reconnected (current taken : Dashboard ℚ) (date : SummaryDate) (now : LocalDateTime) :
    Dashboard ℚ :=
  current.apply (.dailySummary (taken.summary date)) (some now)

/-- A reconnect at `now`: readings until the summary was taken, the readings
since, and then one more of each series. From the summary on, no series sees
its time or its counter go back. -/
structure Reconnect (before later after : List (Update ℚ × LocalDateTime)) (date : SummaryDate)
    (now : LocalDateTime) (next : Series → Reading) : Prop where
  live : ∀ event ∈ before ++ later ++ after, event.1.isDailySummary = false
  today : ((default.applySynced before).summary date).isFor now = true
  notBefore : ∀ event ∈ after, now.NotAfter event.2
  reads : ∀ series, (reconnected ((default.applySynced before).applySynced later)
    (default.applySynced before) date now).seriesReadings series after = [next series]
  inOrder : ∀ series, InOrder ((default.seriesReadings series before).getLast?.toList ++
    (default.applySynced before).seriesReadings series later ++ [next series])

theorem time_of_reading {dashboard : Dashboard ℚ} {series : Series} {reading : Reading}
    {events : List (Update ℚ × LocalDateTime)}
    (member : reading ∈ dashboard.seriesReadings series events) :
    ∃ event ∈ events, event.2 = reading.now := by
  induction events generalizing dashboard with
  | nil => simp [seriesReadings] at member
  | cons event rest ih =>
    rcases List.mem_append.mp member with here | later
    · simp only [Option.mem_toList, Option.map_eq_some_iff] at here
      obtain ⟨_, _, rfl⟩ := here
      exact ⟨event, List.mem_cons_self, rfl⟩
    · obtain ⟨found, inside, time⟩ := ih later
      exact ⟨found, List.mem_cons_of_mem _ inside, time⟩

/-- **A reconnect loses nothing exactly when the summary keeps up.** After the
published summary is applied again and each series had one more reading, every
hour of every series shows at least what it showed before, if and only if the
summary keeps up with each series. -/
theorem reconnect_loses_nothing_iff (before later after : List (Update ℚ × LocalDateTime))
    (date : SummaryDate) (now : LocalDateTime) (next : Series → Reading)
    (run : Reconnect before later after date now next) :
    let taken := default.applySynced before
    let current := taken.applySynced later
    (∀ series hour, (current.hourly series).values hour ≤
        (((current.reconnected taken date now).applySynced after).hourly series).values hour) ↔
      ∀ series, (taken.hourly series).KeepsUp (current.hourly series) now (next series) := by
  intro taken current
  obtain ⟨liveBefore, liveAfter⟩ := List.forall_mem_append.mp run.live
  obtain ⟨liveBefore, liveLater⟩ := List.forall_mem_append.mp liveBefore
  refine forall_congr' ?_
  intro series
  have snapshot : taken.hourly series = HourlyData.default.appendAll
      (default.seriesReadings series before) := by
    refine (hourly_applySynced default series before liveBefore).trans ?_
    cases series <;> rfl
  have counted : current.hourly series = (taken.hourly series).appendAll
      (taken.seriesReadings series later) := hourly_applySynced taken series later liveLater
  have ended : ((current.reconnected taken date now).applySynced after).hourly series =
      ((taken.hourly series).restarted now).append (next series) := by
    rw [hourly_applySynced _ series after liveAfter, run.reads series, reconnected,
      hourly_restored current taken run.today]
    rfl
  have sameDate : now.sameDate (next series).now = true := by
    have member : next series ∈ (current.reconnected taken date now).seriesReadings series after := by
      rw [run.reads series]
      exact List.mem_singleton_self _
    obtain ⟨event, inside, time⟩ := time_of_reading member
    rw [← time]
    exact (run.notBefore event inside).sameDate
  rw [ended, counted, snapshot]
  exact HourlyData.restarted_keeps_iff _ _ _ _ (run.inOrder series) sameDate

/-! A morning of readings: the summary is taken at 10:15, and the home
inverter reports 1.5 kWh more before the reconnect at 10:50. -/

def morningAt (hour minute : Nat) : LocalDateTime :=
  { LocalDateTime.morning with hour := hour, minute := minute }

def homeAt (energy : ℚ) (now : LocalDateTime) : Update ℚ × LocalDateTime :=
  (.solar { SolarData.default with energyToday := energy }, now)

def untilSummary : List (Update ℚ × LocalDateTime) :=
  [homeAt 8 (morningAt 10 15), (.grid (.counting 4 2), morningAt 10 15)]

def sinceSummary : List (Update ℚ × LocalDateTime) := [homeAt (19 / 2) (morningAt 10 45)]

/-- One more reading of each series. -/
def readingsAt (now : LocalDateTime) : List (Update ℚ × LocalDateTime) :=
  [homeAt (19 / 2) now, (.grid (.counting 4 2), now)]

def nextAt (now : LocalDateTime) : Series → Reading
  | .solarProduction => ⟨19 / 2, now⟩
  | .gridImport => ⟨4, now⟩
  | .gridExport => ⟨2, now⟩

/-- The next readings still arrive in the hour of the summary, and no hour falls
back. -/
theorem reconnect_within_the_hour :
    let taken := default.applySynced untilSummary
    let current := taken.applySynced sinceSummary
    ∀ series hour, (current.hourly series).values hour ≤
      (((current.reconnected taken ⟨2026, 9, 9⟩ (morningAt 10 50)).applySynced
        (readingsAt (morningAt 10 55))).hourly series).values hour := by
  refine (reconnect_loses_nothing_iff untilSummary sinceSummary (readingsAt (morningAt 10 55))
    ⟨2026, 9, 9⟩ (morningAt 10 50) (nextAt (morningAt 10 55)) ⟨?_, by decide, ?_, ?_, ?_⟩).mpr
    fun series => ⟨?_, ?_, ?_⟩
  · simp [untilSummary, sinceSummary, readingsAt, homeAt, Update.isDailySummary]
  · simp only [readingsAt, homeAt]
    decide
  · intro series
    cases series <;> decide +kernel
  · intro series
    simp only [InOrder]
    cases series <;> decide +kernel
  · cases series <;> decide +kernel
  · cases series <;> decide +kernel
  · -- The summary was taken in the same hour.
    intro _ _ left
    cases series <;> exact absurd rfl (left (morningAt 10 15) rfl)

/-- The next readings arrive in the following hour: 10:00 falls back from
1500 Wh to nothing. -/
theorem reconnect_after_the_hour :
    let taken := default.applySynced untilSummary
    let current := taken.applySynced sinceSummary
    Reconnect untilSummary sinceSummary (readingsAt (morningAt 11 5)) ⟨2026, 9, 9⟩ (morningAt 10 50)
        (nextAt (morningAt 11 5)) ∧
      (current.hourly .solarProduction).values 10 = 1500 ∧
      (((current.reconnected taken ⟨2026, 9, 9⟩ (morningAt 10 50)).applySynced
        (readingsAt (morningAt 11 5))).hourly .solarProduction).values 10 = 0 := by
  refine ⟨⟨?_, by decide, ?_, ?_, ?_⟩, by decide +kernel, by decide +kernel⟩
  · simp [untilSummary, sinceSummary, readingsAt, homeAt, Update.isDailySummary]
  · simp only [readingsAt, homeAt]
    decide
  · intro series
    cases series <;> decide +kernel
  · intro series
    simp only [InOrder]
    cases series <;> decide +kernel

end Dashboard

end EnergyDisplay

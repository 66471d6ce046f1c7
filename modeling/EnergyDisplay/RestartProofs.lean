import EnergyDisplay.DayProofs

/-! Restart transparency. A restart keeps the two arrays of a series and
rebuilds the rest: a baseline counts as present when it is not zero. The
restarted series therefore follows the uninterrupted one, except when the hour
that was open began at a counter of exactly zero. -/
namespace EnergyDisplay.HourlyData

open Reading

variable {first second : HourlyData ℚ} {cumulative : ℚ} {now : LocalDateTime}

/-- Two series that will never differ again: equal in everything a reading
looks at. Baselines of other hours may be marked differently, because an hour
is only left for good. -/
structure Agree (first second : HourlyData ℚ) (now : LocalDateTime) : Prop where
  starts : first.valuesAtHourStart = second.valuesAtHourStart
  values : first.values = second.values
  updates : first.lastUpdate = some now ∧ second.lastUpdate = some now
  lasts : first.lastValue = second.lastValue
  present : first.baselinePresent now.slot = true ∧ second.baselinePresent now.slot = true

/-- Opening the same baseline makes equal arrays agree. -/
theorem baseline_agrees (starts : first.valuesAtHourStart = second.valuesAtHourStart)
    (values : first.values = second.values) :
    Agree { first.setBaseline now.slot cumulative with
        lastUpdate := some now, lastValue := some cumulative }
      { second.setBaseline now.slot cumulative with
        lastUpdate := some now, lastValue := some cumulative } now where
  starts := by simp [setBaseline, starts]
  values := by simp [setBaseline, values]
  updates := ⟨rfl, rfl⟩
  lasts := rfl
  present := by simp [setBaseline]

/-- Step lemma: a reading keeps two agreeing series in agreement. -/
theorem append_agrees (agree : Agree first second now) (reading : Reading) :
    Agree (first.append reading) (second.append reading) reading.now := by
  have date : first.dateChanged reading.now = second.dateChanged reading.now := by
    rw [dateChanged_of_update agree.updates.1, dateChanged_of_update agree.updates.2]
  cases changed : first.dateChanged reading.now with
  | true =>
    have changed' := date.symm.trans changed
    rw [append, append, append_new_day changed, append_new_day changed', append_first rfl rfl]
    exact baseline_agrees rfl rfl
  | false =>
    have same := date.symm.trans changed
    have opens : first.rebaselines reading.cumulative reading.now =
        second.rebaselines reading.cumulative reading.now := by
      by_cases stays : now.hour = reading.now.hour
      · have present := agree.present
        rw [LocalDateTime.slot_of_hour stays] at present
        simp [rebaselines, hourChanged_of_update agree.updates.1,
          hourChanged_of_update agree.updates.2, present, agree.lasts]
      · simp [rebaselines, hourChanged_of_update agree.updates.1,
          hourChanged_of_update agree.updates.2, bne_iff_ne.mpr stays]
    cases case : first.rebaselines reading.cumulative reading.now with
    | true =>
      rw [append, append, append_rebaselined changed case, append_rebaselined same (opens.symm.trans case)]
      exact baseline_agrees agree.starts agree.values
    | false =>
      have present := append_present first reading.cumulative reading.now
      have present' := append_present second reading.cumulative reading.now
      refine ⟨?_, ?_, ⟨rfl, rfl⟩, rfl, present, present'⟩ <;>
        rw [append, append, append_counted changed case, append_counted same (opens.symm.trans case)]
      · exact agree.starts
      · simp [agree.starts, agree.values]

/-- Run lemma: agreement lasts through every continuation. -/
theorem appendAll_agrees (agree : Agree first second now) (readings : List Reading) :
    (first.appendAll readings).valuesAtHourStart = (second.appendAll readings).valuesAtHourStart ∧
      (first.appendAll readings).values = (second.appendAll readings).values := by
  induction readings generalizing first second now with
  | nil => exact ⟨agree.starts, agree.values⟩
  | cons reading rest ih => exact ih (append_agrees agree reading)

/-! ## The first reading after a restart -/

/-- A series as the device rebuilds it from its own serialized summary. -/
def restarted (data : HourlyData ℚ) (now : LocalDateTime) : HourlyData ℚ :=
  data.skipped.markRestored now

variable {data : HourlyData ℚ} {last reading : Reading} {restart : LocalDateTime}

theorem restarted_present {hour : Fin 24} :
    (data.restarted restart).baselinePresent hour = (data.valuesAtHourStart hour != 0) := rfl

theorem restarted_lastUpdate : (data.restarted restart).lastUpdate = some restart := rfl

/-- Both series open a baseline: the first reading is in a later hour. -/
theorem restart_in_later_hour (tracks : data.Tracks last.cumulative last.now)
    (order : last.Precedes reading) (later : last.now.hour ≠ reading.now.hour)
    (sameDate : restart.sameDate reading.now = true)
    (fresh : data.valuesAtHourStart reading.now.slot = 0) :
    Agree (data.append reading) ((data.restarted restart).append reading) reading.now := by
  have same := tracks.dateChanged order.time.sameDate
  have same' : (data.restarted restart).dateChanged reading.now = false := by
    simp [dateChanged_of_update restarted_lastUpdate, sameDate]
  have opens : data.rebaselines reading.cumulative reading.now = true := by
    simp [rebaselines, hourChanged_of_update tracks.lastUpdate, later]
  have opens' : (data.restarted restart).rebaselines reading.cumulative reading.now = true := by
    simp [rebaselines, restarted_present, fresh]
  rw [append, append, append_rebaselined same opens, append_rebaselined same' opens']
  exact baseline_agrees rfl rfl

section SameHour
variable (tracks : data.Tracks last.cumulative last.now) (order : last.Precedes reading)
  (stays : last.now.hour = reading.now.hour) (sameDate : restart.sameDate reading.now = true)
include tracks order stays sameDate

/-- Both series count: the baseline of the open hour is recognised. -/
theorem restart_in_open_hour (inHour : restart.hour = reading.now.hour)
    (kept : data.valuesAtHourStart reading.now.slot ≠ 0) :
    Agree (data.append reading) ((data.restarted restart).append reading) reading.now := by
  have same := tracks.dateChanged order.time.sameDate
  have same' : (data.restarted restart).dateChanged reading.now = false := by
    simp [dateChanged_of_update restarted_lastUpdate, sameDate]
  have counts := tracks.counts stays order.counter
  have counts' : (data.restarted restart).rebaselines reading.cumulative reading.now = false := by
    have none_known : (data.restarted restart).lastValue = none := rfl
    simp [rebaselines, hourChanged_of_update restarted_lastUpdate, restarted_present, inHour, kept,
      none_known]
  have present := tracks.present
  rw [LocalDateTime.slot_of_hour stays] at present
  rw [append, append, append_counted same counts, append_counted same' counts']
  exact ⟨rfl, rfl, ⟨rfl, rfl⟩, rfl, present, by simp [restarted_present, kept]⟩

/-- A zero baseline is taken for a missing one: the restarted series opens the
hour again at the counter it is given. -/
theorem restart_at_zero_baseline (zero : data.valuesAtHourStart reading.now.slot = 0) :
    (data.append reading).valuesAtHourStart reading.now.slot = 0 ∧
      ((data.restarted restart).append reading).valuesAtHourStart reading.now.slot =
        reading.cumulative ∧
      (reading.cumulative = 0 →
        Agree (data.append reading) ((data.restarted restart).append reading) reading.now) := by
  have same := tracks.dateChanged order.time.sameDate
  have same' : (data.restarted restart).dateChanged reading.now = false := by
    simp [dateChanged_of_update restarted_lastUpdate, sameDate]
  have counts := tracks.counts stays order.counter
  have opens' : (data.restarted restart).rebaselines reading.cumulative reading.now = true := by
    simp [rebaselines, restarted_present, zero]
  have present := tracks.present
  rw [LocalDateTime.slot_of_hour stays] at present
  rw [append, append, append_counted same counts, append_rebaselined same' opens']
  refine ⟨zero, by simp [setBaseline], ?_⟩
  intro nothing
  have untouched : Function.update data.valuesAtHourStart reading.now.slot 0 =
      data.valuesAtHourStart := by
    rw [← zero, Function.update_eq_self]
  refine ⟨?_, ?_, ⟨rfl, rfl⟩, rfl, present, by simp [setBaseline]⟩
  · exact (by simp [setBaseline, nothing, restarted, markRestored, markBaselinesPresent, skipped,
      untouched])
  · simp [setBaseline, nothing, zero, restarted, markRestored, markBaselinesPresent, skipped]

end SameHour

/-! ## Restart transparency -/

/-- The hour of a reading later than every reading so far has never been
touched. -/
theorem later_hour_fresh {readings : List Reading}
    (order : ∀ earlier ∈ readings, earlier.Precedes reading)
    (later : ∀ earlier ∈ readings, earlier.now.hour < reading.now.hour)
    (clock : reading.now.hour < 24) :
    ((HourlyData.default : HourlyData ℚ).appendAll readings).valuesAtHourStart reading.now.slot = 0 :=
  (appendAll_other_hour (default_onDate reading.now)
    (fun earlier member => (order earlier member).time.sameDate)
    (fun earlier member => (LocalDateTime.slot_lt_of_hour (later earlier member) clock).ne')).1

/-- **A restart is transparent unless the open hour began at zero.** After any
readings of one date in order, a restart on that date and any further readings
give the same two arrays as an uninterrupted device, if and only if the first
further reading is not in an hour whose baseline is a zero counter, or is zero
itself. -/
theorem restart_transparent_iff (init rest : List Reading) (last first : Reading)
    (restart : LocalDateTime) (order : InOrder (init ++ last :: first :: rest))
    (clock : ClockHours (init ++ last :: first :: rest))
    (stopped : last.now.NotAfter restart) (resumed : restart.NotAfter first.now) :
    let data := (HourlyData.default : HourlyData ℚ).appendAll (init ++ [last])
    ((data.appendAll (first :: rest)).valuesAtHourStart =
          ((data.restarted restart).appendAll (first :: rest)).valuesAtHourStart ∧
        (data.appendAll (first :: rest)).values =
          ((data.restarted restart).appendAll (first :: rest)).values) ↔
      (first.now.hour = last.now.hour → data.valuesAtHourStart last.now.slot = 0 →
        first.cumulative = 0) := by
  intro data
  obtain ⟨_, ordered, before⟩ := List.pairwise_append.mp order
  obtain ⟨afterLast, continued⟩ := List.pairwise_cons.mp ordered
  have next : last.Precedes first := afterLast first (by simp)
  have tracks : data.Tracks last.cumulative last.now := appendAll_tracks
  have clockFirst : first.now.hour < 24 := clock first (by simp)
  have clockRest : ClockHours rest := fun reading member => clock reading (by simp [member])
  by_cases stays : last.now.hour = first.now.hour
  · have inHour : restart.hour = first.now.hour := by
      have := stopped.hour_le
      have := resumed.hour_le
      omega
    have slot := LocalDateTime.slot_of_hour stays
    by_cases zero : data.valuesAtHourStart first.now.slot = 0
    · obtain ⟨kept, reopened, harmless⟩ :=
        restart_at_zero_baseline tracks next stays resumed.sameDate zero
      rw [slot, zero]
      refine ⟨fun equal _ _ => ?_, fun condition => ?_⟩
      · -- The baselines of the hour are never touched again, so they still differ at the end.
        have uninterrupted := (appendAll_in_order (append_tracks data first.cumulative first.now)
          continued clockRest (le_refl first.now.slot)).1
        have interrupted := (appendAll_in_order
          (append_tracks (data.restarted restart) first.cumulative first.now)
          continued clockRest (le_refl first.now.slot)).1
        have same := congrFun equal.1 first.now.slot
        exact (interrupted.trans reopened).symm.trans (same.symm.trans (uninterrupted.trans kept))
      · exact appendAll_agrees (harmless (condition stays.symm rfl)) rest
    · rw [slot]
      exact ⟨fun _ _ isZero => absurd isZero zero, fun _ => appendAll_agrees
        (restart_in_open_hour tracks next stays resumed.sameDate inHour zero) rest⟩
  · have later : last.now.hour < first.now.hour := lt_of_le_of_ne next.time.hour_le stays
    have fresh : data.valuesAtHourStart first.now.slot = 0 := by
      refine later_hour_fresh (fun earlier member => ?_) (fun earlier member => ?_) clockFirst
      · rcases List.mem_append.mp member with old | only
        · exact before earlier old first (by simp)
        · exact List.mem_singleton.mp only ▸ next
      · rcases List.mem_append.mp member with old | only
        · exact lt_of_le_of_lt (before earlier old last (by simp)).time.hour_le later
        · exact List.mem_singleton.mp only ▸ later
    exact ⟨fun _ same => absurd same.symm stays, fun _ => appendAll_agrees
      (restart_in_later_hour tracks next stays resumed.sameDate fresh) rest⟩

/-- A restart between two readings of 10:00, the hour having begun at 8 kWh. -/
theorem restart_transparent_morning :
    let data := (HourlyData.default : HourlyData ℚ).appendAll ([] ++ [⟨8, .morning⟩])
    ((data.appendAll [⟨9, .morning⟩]).valuesAtHourStart =
          ((data.restarted .morning).appendAll [⟨9, .morning⟩]).valuesAtHourStart ∧
        (data.appendAll [⟨9, .morning⟩]).values =
          ((data.restarted .morning).appendAll [⟨9, .morning⟩]).values) ↔
      (LocalDateTime.morning.hour = LocalDateTime.morning.hour →
        data.valuesAtHourStart LocalDateTime.morning.slot = 0 → (9 : ℚ) = 0) :=
  restart_transparent_iff [] [] ⟨8, .morning⟩ ⟨9, .morning⟩ .morning
    (by simp only [InOrder]; decide +kernel) (by simp only [ClockHours]; decide) (by decide) (by decide)

/-- Readings of 0 and 0.25 kWh in one hour count 250 Wh, and nothing with a
restart in between. -/
theorem restart_forgets_zero_baseline :
    let data := (HourlyData.default : HourlyData ℚ).appendAll [⟨0, .morning⟩]
    InOrder [⟨0, .morning⟩, ⟨1 / 4, .morning⟩] ∧
      (data.appendAll [⟨1 / 4, .morning⟩]).values 10 = 250 ∧
      ((data.restarted .morning).appendAll [⟨1 / 4, .morning⟩]).values 10 = 0 := by
  refine ⟨?_, by decide +kernel, by decide +kernel⟩
  simp only [InOrder]
  decide +kernel

end EnergyDisplay.HourlyData

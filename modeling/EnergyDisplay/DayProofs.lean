import EnergyDisplay.HourlyProofs

/-! A day of readings. Readings in order never reach back: hours already begun
keep their baselines, past hours keep their values, and the open hour holds
what the counter gained since its baseline. -/
namespace EnergyDisplay

/-- A counter reading with the local time it was taken at. -/
structure Reading where
  cumulative : ℚ
  now : LocalDateTime
  deriving DecidableEq

namespace Reading

/-- Later on the same local date, with a counter that has not dropped. -/
structure Precedes (first second : Reading) : Prop where
  time : first.now.NotAfter second.now
  counter : first.cumulative ≤ second.cumulative

instance {first second : Reading} : Decidable (first.Precedes second) :=
  decidable_of_iff (first.now.NotAfter second.now ∧ first.cumulative ≤ second.cumulative)
    ⟨fun both => ⟨both.1, both.2⟩, fun order => ⟨order.time, order.counter⟩⟩

/-- Readings of one local date with non-decreasing times and counters. -/
def InOrder (readings : List Reading) : Prop := readings.Pairwise Precedes

/-- Local times as a clock shows them. -/
def ClockHours (readings : List Reading) : Prop := ∀ reading ∈ readings, reading.now.hour < 24

end Reading

open Reading

namespace HourlyData

def append (data : HourlyData ℚ) (reading : Reading) : HourlyData ℚ :=
  data.appendValue reading.cumulative reading.now

def appendAll (data : HourlyData ℚ) (readings : List Reading) : HourlyData ℚ :=
  readings.foldl append data

variable {data : HourlyData ℚ} {reading last : Reading} {readings more : List Reading} {hour : Fin 24}

@[simp] theorem appendAll_nil : data.appendAll [] = data := rfl

@[simp] theorem appendAll_cons :
    data.appendAll (reading :: readings) = (data.append reading).appendAll readings := rfl

theorem appendAll_append :
    data.appendAll (readings ++ more) = (data.appendAll readings).appendAll more :=
  List.foldl_append ..

/-- After any reading the series tracks it. -/
theorem appendAll_tracks :
    (data.appendAll (readings ++ [last])).Tracks last.cumulative last.now := by
  rw [appendAll_append]
  exact append_tracks _ _ _

/-- The date of a series: it has no update yet, or one of this date. -/
def OnDate (data : HourlyData ℚ) (day : LocalDateTime) : Prop :=
  ∀ previous, data.lastUpdate = some previous → previous.sameDate day = true

theorem default_onDate (day : LocalDateTime) : (HourlyData.default : HourlyData ℚ).OnDate day := by
  simp [OnDate, HourlyData.default]

theorem append_onDate {day : LocalDateTime} (data : HourlyData ℚ) (here : reading.now.sameDate day = true) :
    (data.append reading).OnDate day := by
  rintro previous ⟨⟩
  exact here

theorem date_kept {day now : LocalDateTime} (onDate : data.OnDate day)
    (here : now.sameDate day = true) : data.dateChanged now = false := by
  cases update : data.lastUpdate with
  | none => simp [dateChanged, update]
  | some previous =>
    have same := LocalDateTime.sameDate_trans (onDate previous update)
      (LocalDateTime.sameDate_symm here)
    simp [dateChanged_of_update update, same]

/-- Hours no reading falls in are left alone. -/
theorem appendAll_other_hour {day : LocalDateTime} (onDate : data.OnDate day)
    (here : ∀ reading ∈ readings, reading.now.sameDate day = true)
    (other : ∀ reading ∈ readings, hour ≠ reading.now.slot) :
    (data.appendAll readings).valuesAtHourStart hour = data.valuesAtHourStart hour ∧
      (data.appendAll readings).values hour = data.values hour := by
  induction readings generalizing data with
  | nil => exact ⟨rfl, rfl⟩
  | cons reading rest ih =>
    have today := here reading (by simp)
    have kept := append_other_hour reading.cumulative (date_kept onDate today)
      (other reading (by simp))
    have tail := ih (append_onDate data today)
      (fun later member => here later (List.mem_cons_of_mem _ member))
      (fun later member => other later (List.mem_cons_of_mem _ member))
    exact ⟨tail.1.trans kept.1, tail.2.trans kept.2.1⟩

/-! ## Readings in order -/

theorem Tracks.dateChanged {now : LocalDateTime} (tracks : data.Tracks last.cumulative last.now)
    (same : last.now.sameDate now = true) : data.dateChanged now = false := by
  simp [dateChanged_of_update tracks.lastUpdate, same]

/-- The next reading in order either counts in the open hour or opens a later
one; it reaches no hour before that. -/
theorem append_in_order (tracks : data.Tracks last.cumulative last.now)
    (order : last.Precedes reading) (clock : reading.now.hour < 24) (begun : hour ≤ last.now.slot) :
    (data.append reading).valuesAtHourStart hour = data.valuesAtHourStart hour ∧
      (hour < last.now.slot → (data.append reading).values hour = data.values hour) := by
  have same := tracks.dateChanged order.time.sameDate
  by_cases stays : last.now.hour = reading.now.hour
  · have slot := LocalDateTime.slot_of_hour stays
    rw [append, append_counted same (tracks.counts stays order.counter)]
    refine ⟨rfl, ?_⟩
    intro past
    have other : hour ≠ reading.now.slot := by
      rw [← slot]
      exact past.ne
    simp [other]
  · have later : last.now.hour < reading.now.hour := lt_of_le_of_ne order.time.hour_le stays
    have other : hour ≠ reading.now.slot := (begun.trans_lt (LocalDateTime.slot_lt_of_hour later clock)).ne
    have kept := append_other_hour reading.cumulative same other
    exact ⟨kept.1, fun _ => kept.2.1⟩

/-- **Hours begun keep their baselines**, and hours past keep their values. -/
theorem appendAll_in_order (tracks : data.Tracks last.cumulative last.now)
    (order : InOrder (last :: readings)) (clock : ClockHours readings) (begun : hour ≤ last.now.slot) :
    (data.appendAll readings).valuesAtHourStart hour = data.valuesAtHourStart hour ∧
      (hour < last.now.slot → (data.appendAll readings).values hour = data.values hour) := by
  induction readings generalizing data last with
  | nil => exact ⟨rfl, fun _ => rfl⟩
  | cons reading rest ih =>
    obtain ⟨after, ordered⟩ := List.pairwise_cons.mp order
    have next := after reading (by simp)
    have here := append_in_order tracks next (clock reading (by simp)) begun
    have reached : last.now.slot ≤ reading.now.slot := LocalDateTime.slot_le_of_hour next.time.hour_le
    have tail := ih (append_tracks data reading.cumulative reading.now) ordered
      (fun later member => clock later (List.mem_cons_of_mem _ member)) (begun.trans reached)
    exact ⟨tail.1.trans here.1, fun past => (tail.2 (past.trans_le reached)).trans (here.2 past)⟩

end HourlyData

end EnergyDisplay

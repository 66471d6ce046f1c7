import EnergyDisplay.DayProofs
import EnergyDisplay.Lib.Blocks
import Mathlib.Data.List.DropRight

/-! The hourly energy as a function of the whole history: the readings of the
last reading's date, cut into blocks wherever the hour changes, each block cut
into pieces wherever the counter drops. Only the last piece of the last block
of an hour counts. A reading at the end either opens a block, or extends the
last block and there opens or extends a piece; `append_value` does the same to
its baselines. -/
namespace EnergyDisplay

open Blocks

namespace Reading

variable {readings day block : List Reading} {last reading : Reading} {hour : Fin 24}

/-! ## The reference -/

/-- The longest suffix of readings with the last reading's date. -/
def lastDay (readings : List Reading) : List Reading :=
  match readings.getLast? with
  | some last => readings.rtakeWhile fun reading => reading.now.sameDate last.now
  | none => []

/-- The maximal blocks of consecutive readings with the same hour. -/
def hourBlocks (day : List Reading) : List (List Reading) :=
  day.splitBy fun first second => first.now.hour == second.now.hour

/-- A block for this hour; its readings have one hour, so the last one tells. -/
def blockFor (hour : Fin 24) (block : List Reading) : Bool :=
  block.getLast?.any fun reading => reading.now.hour == hour.val

def lastBlock (day : List Reading) (hour : Fin 24) : Option (List Reading) :=
  ((hourBlocks day).filter (blockFor hour)).getLast?

/-- The pieces of a block without a strict drop of the counter. -/
def pieces (block : List Reading) : List (List Reading) :=
  block.splitBy fun first second => decide (first.cumulative ≤ second.cumulative)

end Reading

open Reading

/-- A series shows the last piece of this block for the hour. -/
def HourlyData.Shows (data : HourlyData ℚ) (hour : Fin 24) : Option (List Reading) → Prop
  | some block => data.baselinePresent hour = true ∧ ∃ piece first last,
      (pieces block).getLast? = some piece ∧ piece.head? = some first ∧ piece.getLast? = some last ∧
        data.valuesAtHourStart hour = first.cumulative ∧
        data.values hour = 1000 * (last.cumulative - first.cumulative)
  | none => data.baselinePresent hour = false ∧ data.valuesAtHourStart hour = 0 ∧ data.values hour = 0

namespace Reading

/-! ## A reading at the end of the history -/

theorem lastDay_concat_same (ends : readings.getLast? = some last)
    (same : last.now.sameDate reading.now = true) :
    lastDay (readings ++ [reading]) = lastDay readings ++ [reading] := by
  have agree : (fun other : Reading => other.now.sameDate reading.now) =
      fun other => other.now.sameDate last.now := by
    funext other
    rw [Bool.eq_iff_iff]
    exact ⟨fun here => LocalDateTime.sameDate_trans here (LocalDateTime.sameDate_symm same),
      fun here => LocalDateTime.sameDate_trans here same⟩
  have itself : reading.now.sameDate reading.now = true := by simp [LocalDateTime.sameDate]
  simp only [lastDay, List.getLast?_append, List.getLast?_singleton, Option.some_or, ends]
  rw [List.rtakeWhile_concat, if_pos itself, agree]

/-- A reading of another date is a day of its own. -/
theorem lastDay_concat_new (changed : ∀ last ∈ readings.getLast?, last.now.sameDate reading.now = false) :
    lastDay (readings ++ [reading]) = [reading] := by
  have itself : reading.now.sameDate reading.now = true := by simp [LocalDateTime.sameDate]
  simp only [lastDay, List.getLast?_append, List.getLast?_singleton, Option.some_or]
  rw [List.rtakeWhile_concat, if_pos itself]
  rcases List.eq_nil_or_concat readings with rfl | ⟨before, last, rfl⟩
  · simp
  · rw [List.concat_eq_append] at changed ⊢
    rw [List.rtakeWhile_concat_neg]
    · rfl
    · simp [changed last (by simp)]

theorem lastDay_ends (ends : readings.getLast? = some last) : (lastDay readings).getLast? = some last := by
  obtain ⟨before, rfl⟩ := List.getLast?_eq_some_iff.mp ends
  by_cases changed : ∀ previous ∈ before.getLast?, previous.now.sameDate last.now = false
  · rw [lastDay_concat_new changed]
    rfl
  · push Not at changed
    obtain ⟨previous, ends', same⟩ := changed
    rw [lastDay_concat_same ends' (by simpa using same)]
    simp

/-- A reading of another hour opens a block. -/
theorem lastBlock_concat_opens (day : List Reading)
    (apart : ∀ last ∈ day.getLast?, last.now.hour ≠ reading.now.hour) :
    lastBlock (day ++ [reading]) hour =
      if reading.now.hour = hour.val then some [reading] else lastBlock day hour := by
  have split : hourBlocks (day ++ [reading]) = hourBlocks day ++ [[reading]] :=
    splitBy_concat_opens fun last member => by simpa using apart last member
  rw [lastBlock, split]
  by_cases here : reading.now.hour = hour.val
  · simp [blockFor, here]
  · simp [blockFor, here, lastBlock]

/-- A reading of the same hour extends the last block. -/
theorem lastBlock_concat_extends (reading : Reading) (ends : day.getLast? = some last)
    (same : last.now.hour = reading.now.hour) :
    ∃ block, block.getLast? = some last ∧
      ∀ hour : Fin 24, (last.now.hour = hour.val → lastBlock day hour = some block) ∧
        lastBlock (day ++ [reading]) hour =
          if reading.now.hour = hour.val then some (block ++ [reading]) else lastBlock day hour := by
  obtain ⟨blocks, block, split, blockEnds, extended⟩ :=
    splitBy_concat_extends (fun first second : Reading => first.now.hour == second.now.hour)
      reading ends (by simpa using same)
  refine ⟨block, blockEnds, fun hour => ⟨fun here => ?_, ?_⟩⟩
  · simp [lastBlock, hourBlocks, split, blockFor, blockEnds, here]
  · rw [lastBlock, hourBlocks, extended]
    by_cases here : reading.now.hour = hour.val
    · simp [blockFor, here]
    · simp [lastBlock, hourBlocks, split, blockFor, blockEnds, here, same]

/-- A counter that drops opens a piece. -/
theorem pieces_concat_opens (ends : block.getLast? = some last)
    (dropped : reading.cumulative < last.cumulative) :
    (pieces (block ++ [reading])).getLast? = some [reading] := by
  have split : pieces (block ++ [reading]) = pieces block ++ [[reading]] := by
    refine splitBy_concat_opens ?_
    intro other member
    rw [ends] at member
    cases member
    simpa using dropped
  simp [split]

/-- A counter that has not dropped extends the last piece. -/
theorem pieces_concat_extends (ends : block.getLast? = some last)
    (grown : last.cumulative ≤ reading.cumulative) :
    ∃ piece, (pieces block).getLast? = some piece ∧
      (pieces (block ++ [reading])).getLast? = some (piece ++ [reading]) := by
  obtain ⟨before, piece, split, _, extended⟩ := splitBy_concat_extends
    (fun first second : Reading => decide (first.cumulative ≤ second.cumulative)) reading ends
    (by simpa using grown)
  exact ⟨piece, by simp [pieces, split], by simp [pieces, extended]⟩

end Reading

namespace HourlyData

variable {data after : HourlyData ℚ} {reading last : Reading} {readings block : List Reading}
  {hour : Fin 24} {shown : Option (List Reading)}

/-! ## The same reading, appended -/

theorem slot_eq_iff (clock : reading.now.hour < 24) : hour = reading.now.slot ↔ reading.now.hour = hour.val := by
  rw [Fin.ext_iff]
  simp only [LocalDateTime.slot]
  omega

/-- What is shown for an hour depends on nothing else. -/
theorem Shows.congr (shows : data.Shows hour shown)
    (same : after.valuesAtHourStart hour = data.valuesAtHourStart hour ∧
      after.values hour = data.values hour ∧ after.baselinePresent hour = data.baselinePresent hour) :
    after.Shows hour shown := by
  obtain ⟨start, value, present⟩ := same
  cases shown with
  | none => exact ⟨present.trans shows.1, start.trans shows.2.1, value.trans shows.2.2⟩
  | some block =>
    obtain ⟨here, piece, first, final, split, opens, ends, baseline, counted⟩ := shows
    exact ⟨present.trans here, piece, first, final, split, opens, ends, start.trans baseline,
      value.trans counted⟩

/-- A new baseline shows a piece that the reading has to itself. -/
theorem setBaseline_shows (split : (pieces block).getLast? = some [reading]) :
    ({ data.setBaseline reading.now.slot reading.cumulative with
      lastUpdate := some reading.now, lastValue := some reading.cumulative } : HourlyData ℚ).Shows
        reading.now.slot (some block) :=
  ⟨by simp [setBaseline], [reading], reading, reading, split, rfl, rfl, by simp [setBaseline],
    by simp [setBaseline]⟩

/-- Counting on shows the last piece with the reading at its end. -/
theorem counted_shows (shows : data.Shows reading.now.slot (some block))
    (ends : block.getLast? = some last) (grown : last.cumulative ≤ reading.cumulative) :
    ({ data with
      values := Function.update data.values reading.now.slot
        ((reading.cumulative - data.valuesAtHourStart reading.now.slot) * (1000 : ℕ))
      lastUpdate := some reading.now
      lastValue := some reading.cumulative } : HourlyData ℚ).Shows reading.now.slot
        (some (block ++ [reading])) := by
  obtain ⟨present, piece, first, final, split, opens, _, baseline, _⟩ := shows
  obtain ⟨piece', split', extended⟩ := pieces_concat_extends ends grown
  rw [split] at split'
  cases split'
  refine ⟨present, piece ++ [reading], first, reading, extended, ?_, by simp, baseline, ?_⟩
  · simp [opens]
  · simp [baseline, mul_comm]

/-- The first reading of a date shows it alone. -/
theorem append_first_shows (clock : reading.now.hour < 24) (hour : Fin 24) :
    (HourlyData.default.append reading).Shows hour (lastBlock [reading] hour) := by
  have block : lastBlock [reading] hour = if reading.now.hour = hour.val then some [reading] else none :=
    lastBlock_concat_opens [] (by simp)
  rw [append, append_first rfl rfl, block]
  by_cases here : hour = reading.now.slot
  · rw [if_pos ((slot_eq_iff clock).mp here), here]
    exact setBaseline_shows rfl
  · rw [if_neg fun same => here ((slot_eq_iff clock).mpr same)]
    simp [Shows, setBaseline, here, HourlyData.default]

/-- Step lemma: one more reading on a history that is shown. -/
theorem append_shows (tracks : data.Tracks last.cumulative last.now)
    (ends : readings.getLast? = some last) (clock : last.now.hour < 24 ∧ reading.now.hour < 24)
    (shows : ∀ hour, data.Shows hour (lastBlock (lastDay readings) hour)) (hour : Fin 24) :
    (data.append reading).Shows hour (lastBlock (lastDay (readings ++ [reading])) hour) := by
  cases same : last.now.sameDate reading.now with
  | false =>
    have day : lastDay (readings ++ [reading]) = [reading] := by
      refine lastDay_concat_new ?_
      intro other member
      rw [ends] at member
      cases member
      exact same
    have changed : data.dateChanged reading.now = true := by
      simp [dateChanged_of_update tracks.lastUpdate, same]
    rw [day, append, append_new_day changed]
    exact append_first_shows clock.2 hour
  | true =>
    have date := tracks.dateChanged same
    rw [lastDay_concat_same ends same]
    have dayEnds := lastDay_ends ends
    by_cases here : hour = reading.now.slot
    · by_cases moved : last.now.hour = reading.now.hour
      · -- The reading extends the last block.
        obtain ⟨block, blockEnds, extends_⟩ := lastBlock_concat_extends reading dayEnds moved
        have slot := (slot_eq_iff clock.2).mp here
        have before := shows hour
        rw [(extends_ hour).1 (moved.trans slot), here] at before
        rw [(extends_ hour).2, if_pos slot, here]
        by_cases grown : last.cumulative ≤ reading.cumulative
        · rw [append, append_counted date (tracks.counts moved grown)]
          exact counted_shows before blockEnds grown
        · have dropped := not_le.mp grown
          have opens : data.rebaselines reading.cumulative reading.now = true := by
            simp [rebaselines, tracks.lastValue, dropped]
          rw [append, append_rebaselined date opens]
          exact setBaseline_shows (pieces_concat_opens blockEnds dropped)
      · have opens : data.rebaselines reading.cumulative reading.now = true := by
          simp [rebaselines, hourChanged_of_update tracks.lastUpdate, moved]
        rw [lastBlock_concat_opens _ (by simpa [dayEnds] using moved),
          if_pos ((slot_eq_iff clock.2).mp here), append, append_rebaselined date opens, here]
        exact setBaseline_shows rfl
    · -- Another hour: neither the series nor its last block moves.
      have other : ¬ reading.now.hour = hour.val := fun same => here ((slot_eq_iff clock.2).mpr same)
      have kept : lastBlock (lastDay readings ++ [reading]) hour = lastBlock (lastDay readings) hour := by
        by_cases moved : last.now.hour = reading.now.hour
        · obtain ⟨_, _, extends_⟩ := lastBlock_concat_extends reading dayEnds moved
          rw [(extends_ hour).2, if_neg other]
        · rw [lastBlock_concat_opens _ (by simpa [dayEnds] using moved), if_neg other]
      rw [kept]
      exact (shows hour).congr (append_other_hour reading.cumulative date here)

/-- **`append_value` computes the reference hourly energy.** After any readings
from the empty series, each hour shows the last piece of its last block on the
last date: its first reading as baseline and what the counter gained to its
last reading; an hour without a block shows nothing. -/
theorem appendAll_shows_last_pieces (readings : List Reading) (clock : ClockHours readings) (hour : Fin 24) :
    (HourlyData.default.appendAll readings).Shows hour (lastBlock (lastDay readings) hour) := by
  induction readings using List.reverseRecOn generalizing hour with
  | nil => exact ⟨rfl, rfl, rfl⟩
  | append_singleton readings reading ih =>
    obtain ⟨before, here⟩ := List.forall_mem_append.mp clock
    rw [appendAll_append]
    rcases List.eq_nil_or_concat readings with rfl | ⟨earlier, last, rfl⟩
    · have day : lastDay ([] ++ [reading]) = [reading] := lastDay_concat_new (by simp)
      rw [day]
      exact append_first_shows (here reading (by simp)) hour
    · rw [List.concat_eq_append] at *
      exact append_shows appendAll_tracks (by simp) ⟨before last (by simp), here reading (by simp)⟩
        (ih before) hour

/-- Two readings of one hour on the morning of the source's tests. -/
theorem morning_shows_last_piece :
    (HourlyData.default.appendAll [⟨12, .morning⟩, ⟨25 / 2, .morning⟩]).Shows 10
      (lastBlock (lastDay [⟨12, .morning⟩, ⟨25 / 2, .morning⟩]) 10) :=
  appendAll_shows_last_pieces _ (by simp [ClockHours, LocalDateTime.morning]) 10

end HourlyData

end EnergyDisplay

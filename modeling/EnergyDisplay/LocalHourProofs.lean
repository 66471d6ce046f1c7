import EnergyDisplay.HourlyProofs
import EnergyDisplay.Lib.LocalTime
import EnergyDisplay.SummaryDayProofs

/-! The local clock behind the hourly bars. Whatever summer time does, the date
and the hour it shows never go back while UTC does not, and each hour of each
date is shown for one hour, but for the two a year that the changes touch. -/
namespace EnergyDisplay

open Calendar

variable {t u : Timestamp} {here there : LocalDateTime}

/-- Dates and hours in their order. -/
def LocalDateTime.HourNotAfter (first second : LocalDateTime) : Prop :=
  dayOf ⟨first.year, first.month, first.day⟩ < dayOf ⟨second.year, second.month, second.day⟩ ∨
    first.sameDate second = true ∧ first.hour ≤ second.hour

/-- What the clock shows is the local hour. -/
theorem localDatetime_hour (shown : localDatetime t = some here) :
    civil (localHour t.second / 24) = ⟨here.year, here.month, here.day⟩ ∧
      (here.hour : Int) = localHour t.second % 24 := by
  unfold localDatetime at shown
  split at shown
  · cases shown
  · cases shown
    have days : brusselsSecond t / 86400 = localHour t.second / 24 := by
      unfold brusselsSecond localHour
      omega
    refine ⟨by rw [days], ?_⟩
    dsimp only
    unfold brusselsSecond localHour
    omega

/-- The day of the date that the clock shows. -/
theorem localDatetime_day (shown : localDatetime t = some here) :
    dayOf ⟨here.year, here.month, here.day⟩ = localHour t.second / 24 := by
  rw [← (localDatetime_hour shown).1, dayOf_civil]

theorem second_mono (order : t.nanoseconds ≤ u.nanoseconds) : t.second ≤ u.second := by
  unfold Timestamp.second
  omega

/-- The date and hour shown never go back. -/
theorem localDatetime_hourNotAfter (order : t.nanoseconds ≤ u.nanoseconds) (shownT : localDatetime t = some there)
    (shownU : localDatetime u = some here) : there.HourNotAfter here := by
  have hours := localHour_mono (second_mono order)
  have dayT := localDatetime_day shownT
  have dayU := localDatetime_day shownU
  obtain ⟨dateT, hourT⟩ := localDatetime_hour shownT
  obtain ⟨dateU, hourU⟩ := localDatetime_hour shownU
  by_cases same : localHour t.second / 24 = localHour u.second / 24
  · refine Or.inr ⟨?_, by omega⟩
    rw [same, dateU, CivilDate.mk.injEq] at dateT
    exact LocalDateTime.sameDate_iff.mpr ⟨dateT.1.symm, dateT.2.1.symm, dateT.2.2.symm⟩
  · exact Or.inl (by omega)

/-- When the clock shows an hour of a day. -/
theorem localDatetime_shows_iff (day : Int) (hour : Fin 24) :
    (∃ here, localDatetime t = some here ∧ civil day = ⟨here.year, here.month, here.day⟩ ∧ here.hour = hour) ↔
      validTimestamp t = true ∧ localHour t.second = 24 * day + hour := by
  constructor
  · rintro ⟨here, shown, date, inHour⟩
    obtain ⟨date', hour'⟩ := localDatetime_hour shown
    have sameDay := civil_injective (date'.trans date.symm)
    refine ⟨?_, by omega⟩
    by_contra invalid
    simp [localDatetime, invalid] at shown
  · rintro ⟨valid, hours⟩
    obtain ⟨here, shown⟩ := localDatetime_isSome valid
    obtain ⟨date, inHour⟩ := localDatetime_hour shown
    refine ⟨here, shown, ?_, by omega⟩
    rw [← date]
    congr 1
    omega

/-- **The local clock runs through every hour in order.** While UTC does not go
back, neither do the date and the hour it shows, in autumn either; and in each
hour of each date it stays for 3600 seconds in one piece, but for the hour that
is repeated in October, 7200 seconds, and the one left out in March. -/
theorem local_hours_in_order :
    (∀ t u there here, t.nanoseconds ≤ u.nanoseconds → localDatetime t = some there →
      localDatetime u = some here → there.HourNotAfter here) ∧
    ∀ (day : Int) (hour : Fin 24), ∃ first, ∀ t,
      (∃ here, localDatetime t = some here ∧ civil day = ⟨here.year, here.month, here.day⟩ ∧
        here.hour = hour) ↔
      validTimestamp t = true ∧ first ≤ t.second ∧ t.second < first + 3600 * timesShown day hour := by
  refine ⟨fun t u there here => localDatetime_hourNotAfter, fun day hour => ?_⟩
  obtain ⟨first, shown⟩ := localHour_shown day (show (0 : Int) ≤ hour.val ∧ (hour.val : Int) < 24 by omega)
  refine ⟨first, fun t => ?_⟩
  rw [localDatetime_shows_iff, shown]

end EnergyDisplay

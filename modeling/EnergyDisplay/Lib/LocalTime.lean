import EnergyDisplay.Lib.Calendar

/-! The hours that a clock in Central Europe shows, counted from 1970-01-01 on.
They never go back: in autumn an hour is shown twice, in spring one is left out,
every other hour is shown for 3600 seconds. -/
namespace EnergyDisplay.Calendar

/-- The first day of a year. -/
def newYear (year : Int) : Int := dayOf ⟨year, 1, 1⟩

/-- The hours the local clock has counted. -/
def localHour (seconds : Int) : Int := (seconds + centralOffset seconds) / 3600

theorem civil_bounds (days : Int) : 1 ≤ (civil days).month ∧ (civil days).month ≤ 12 ∧
    1 ≤ (civil days).day ∧ (civil days).day ≤ 31 := by
  obtain ⟨_, _, lower, upper⟩ := marchDay_bounds days
  simp only [civil]
  generalize marchDay days = date at *
  have months : 0 ≤ (5 * date.day + 2) / 153 ∧ (5 * date.day + 2) / 153 < 12 := by omega
  have inMonth : (5 * date.day + 2) % 153 = 5 * date.day + 2 - 153 * ((5 * date.day + 2) / 153) := by omega
  generalize (5 * date.day + 2) / 153 = month at *
  refine ⟨?_, ?_, ?_, ?_⟩
  · split <;> omega
  · split <;> omega
  · omega
  · omega

/-- A day lies within the year of its date. -/
theorem year_bounds (days : Int) :
    newYear (civil days).year ≤ days ∧ days < newYear ((civil days).year + 1) := by
  obtain ⟨monthLower, monthUpper, dayLower, dayUpper⟩ := civil_bounds days
  have same := dayOf_civil days
  generalize civil days = date at *
  obtain ⟨year, month, day⟩ := date
  simp only [dayOf, newYear] at *
  rw [← same]
  constructor
  · split <;> omega
  · split <;> omega

theorem newYear_mono {first second : Int} (order : first ≤ second) : newYear first ≤ newYear second := by
  simp only [newYear, dayOf]
  omega

/-- Later days are not of earlier years. -/
theorem year_mono {first second : Int} (order : first ≤ second) : (civil first).year ≤ (civil second).year := by
  by_contra earlier
  have next := newYear_mono (show (civil second).year + 1 ≤ (civil first).year by omega)
  have begun := (year_bounds first).1
  have ended := (year_bounds second).2
  omega

/-- Summer time begins and ends within the year. -/
theorem lastSunday_bounds (year : Int) : newYear year < lastSunday year 3 ∧
    lastSunday year 3 + 200 < lastSunday year 10 ∧ lastSunday year 10 + 60 < newYear (year + 1) := by
  simp only [newYear, lastSunday, weekday, dayOf, Nat.reduceLeDiff, ↓reduceIte, Int.add_sub_cancel]
  omega

theorem year_eq {days year : Int} (begun : newYear year ≤ days) (ended : days < newYear (year + 1)) :
    (civil days).year = year := by
  obtain ⟨lower, upper⟩ := year_bounds days
  by_contra other
  rcases lt_or_gt_of_ne other with earlier | later
  · have next := newYear_mono (show (civil days).year + 1 ≤ year by omega)
    omega
  · have next := newYear_mono (show year + 1 ≤ (civil days).year by omega)
    omega

/-! ## Summer time -/

/-- Summer time at these seconds. -/
def Summer (seconds : Int) : Prop :=
  changeAt (lastSunday (civil (seconds / 86400)).year 3) ≤ seconds ∧
    seconds < changeAt (lastSunday (civil (seconds / 86400)).year 10)

instance summer_decidable (seconds : Int) : Decidable (Summer seconds) := inferInstanceAs (Decidable (_ ∧ _))

theorem centralOffset_summer {seconds : Int} (summer : Summer seconds) : centralOffset seconds = 7200 :=
  if_pos summer

theorem centralOffset_winter {seconds : Int} (winter : ¬ Summer seconds) : centralOffset seconds = 3600 :=
  if_neg winter

/-- Between two moments of one year it is summer at the later one if it is at
the earlier, but for the change in autumn. -/
theorem summer_ends {first second : Int} (order : first ≤ second) (summer : Summer first) (winter : ¬ Summer second) :
    changeAt (lastSunday (civil (first / 86400)).year 10) ≤ second := by
  have days : first / 86400 ≤ second / 86400 := by omega
  rcases lt_or_eq_of_le (year_mono days) with later | same
  · have next := newYear_mono (show (civil (first / 86400)).year + 1 ≤ (civil (second / 86400)).year by omega)
    have begun := (year_bounds (second / 86400)).1
    have autumn := (lastSunday_bounds (civil (first / 86400)).year).2.2
    simp only [changeAt]
    omega
  · rw [Summer, ← same, not_and_or] at winter
    have begun := summer.1
    omega

/-- **The local clock never goes back an hour.** -/
theorem localHour_mono {first second : Int} (order : first ≤ second) : localHour first ≤ localHour second := by
  unfold localHour
  by_cases summer : Summer first
  · by_cases later : Summer second
    · rw [centralOffset_summer summer, centralOffset_summer later]
      omega
    · have change := summer_ends order summer later
      have before := summer.2
      rw [centralOffset_summer summer, centralOffset_winter later]
      simp only [changeAt] at change before
      omega
  · rw [centralOffset_winter summer]
    rcases centralOffset_cases second with same | more
    · rw [same]
      omega
    · rw [more]
      omega

/-! ## How long an hour is shown -/

/-- Within an hour of UTC nothing changes. -/
theorem summer_hour (seconds : Int) : Summer seconds ↔ Summer (3600 * (seconds / 3600)) := by
  have day : 3600 * (seconds / 3600) / 86400 = seconds / 86400 := by omega
  simp only [Summer, day, changeAt]
  omega

/-- It turns summer at the change in spring. -/
theorem summer_begins {hour : Int} (winter : ¬ Summer (3600 * (hour - 1))) (summer : Summer (3600 * hour)) :
    3600 * hour = changeAt (lastSunday (civil (3600 * hour / 86400)).year 3) := by
  have days : 3600 * (hour - 1) / 86400 ≤ 3600 * hour / 86400 := by omega
  obtain ⟨begun, notEnded⟩ := summer
  rcases lt_or_eq_of_le (year_mono days) with earlier | same
  · have next := newYear_mono (show (civil (3600 * (hour - 1) / 86400)).year + 1 ≤
      (civil (3600 * hour / 86400)).year by omega)
    have ended := (year_bounds (3600 * (hour - 1) / 86400)).2
    have spring := (lastSunday_bounds (civil (3600 * hour / 86400)).year).1
    simp only [changeAt] at begun
    omega
  · rw [Summer, same, not_and_or] at winter
    simp only [changeAt] at *
    omega

/-- It turns winter at the change in autumn. -/
theorem winter_begins {hour : Int} (summer : Summer (3600 * (hour - 1))) (winter : ¬ Summer (3600 * hour)) :
    3600 * hour = changeAt (lastSunday (civil (3600 * hour / 86400)).year 10) := by
  have change := summer_ends (by omega) summer winter
  have before := summer.2
  obtain ⟨_, inYear, autumn⟩ := lastSunday_bounds (civil (3600 * (hour - 1) / 86400)).year
  have spring := (lastSunday_bounds (civil (3600 * (hour - 1) / 86400)).year).1
  generalize (civil (3600 * (hour - 1) / 86400)).year = year at *
  simp only [changeAt] at change before
  have day : 3600 * hour / 86400 = lastSunday year 10 := by omega
  have inside : (civil (lastSunday year 10)).year = year := year_eq (by omega) (by omega)
  rw [day, inside, changeAt]
  omega

/-- When the local clock counts an hour. -/
theorem localHour_eq_iff {seconds hour : Int} : localHour seconds = hour ↔
    seconds / 3600 = hour - 1 ∧ ¬ Summer (3600 * (hour - 1)) ∨
      seconds / 3600 = hour - 2 ∧ Summer (3600 * (hour - 2)) := by
  unfold localHour
  have whole := summer_hour seconds
  by_cases summer : Summer seconds
  · rw [centralOffset_summer summer]
    constructor
    · intro shown
      have here : seconds / 3600 = hour - 2 := by omega
      exact Or.inr ⟨here, here ▸ whole.mp summer⟩
    · rintro (⟨here, winter⟩ | ⟨here, _⟩)
      · exact absurd (here ▸ whole.mp summer) winter
      · omega
  · rw [centralOffset_winter summer]
    constructor
    · intro shown
      have here : seconds / 3600 = hour - 1 := by omega
      exact Or.inl ⟨here, fun later => summer (whole.mpr (here ▸ later))⟩
    · rintro (⟨here, _⟩ | ⟨here, later⟩)
      · omega
      · exact absurd (whole.mpr (here ▸ later)) summer

/-- How often the hour of a day is shown: the one after the change in autumn
twice, the one after the change in spring never. -/
def timesShown (day hour : Int) : Int :=
  if hour = 2 ∧ day = lastSunday (civil day).year 10 then 2
  else if hour = 2 ∧ day = lastSunday (civil day).year 3 then 0
  else 1

/-- Both moments that an hour can be shown for are on its day, if it is the third. -/
theorem summer_at_change (day : Int) : Summer (3600 * (24 * day + 2 - 1)) ↔
      changeAt (lastSunday (civil day).year 3) ≤ changeAt day ∧ changeAt day < changeAt (lastSunday (civil day).year 10) := by
  have same : 3600 * (24 * day + 2 - 1) / 86400 = day := by omega
  have change : 3600 * (24 * day + 2 - 1) = changeAt day := by
    rw [changeAt]
    omega
  rw [Summer, same, change]

theorem summer_before_change (day : Int) : Summer (3600 * (24 * day + 2 - 2)) ↔
      lastSunday (civil day).year 3 < day ∧ day ≤ lastSunday (civil day).year 10 := by
  have same : 3600 * (24 * day + 2 - 2) / 86400 = day := by omega
  rw [Summer, same]
  simp only [changeAt]
  omega

/-- At the other hours it is summer as it was an hour ago. -/
theorem summer_steady (day : Int) {hour : Int} (clock : 0 ≤ hour ∧ hour < 24) (other : hour ≠ 2) :
    Summer (3600 * (24 * day + hour - 2)) ↔ Summer (3600 * (24 * day + hour - 1)) := by
  have before : 24 * day + hour - 2 = 24 * day + hour - 1 - 1 := by omega
  rw [before]
  constructor
  · intro summer
    by_contra winter
    have change := winter_begins summer winter
    simp only [changeAt] at change
    omega
  · intro summer
    by_contra winter
    have change := summer_begins winter summer
    simp only [changeAt] at change
    omega

/-- **Each hour of each day is shown once**, but for the two that the changes
of the clock repeat and leave out. -/
theorem localHour_shown (day : Int) {hour : Int} (clock : 0 ≤ hour ∧ hour < 24) : ∃ first,
    ∀ seconds, localHour seconds = 24 * day + hour ↔
      first ≤ seconds ∧ seconds < first + 3600 * timesShown day hour := by
  have shown := @localHour_eq_iff
  have times : timesShown day hour =
      (if Summer (3600 * (24 * day + hour - 1)) then 0 else 1) +
        (if Summer (3600 * (24 * day + hour - 2)) then 1 else 0) := by
    by_cases third : hour = 2
    · subst third
      have inYear := (lastSunday_bounds (civil day).year).2.1
      simp only [timesShown, summer_at_change, summer_before_change, changeAt, true_and]
      split_ifs <;> omega
    · rw [timesShown, if_neg fun both => third both.1, if_neg fun both => third both.1]
      simp only [summer_steady day clock third]
      split <;> rfl
  by_cases now : Summer (3600 * (24 * day + hour - 1))
  · rw [if_pos now] at times
    refine ⟨3600 * (24 * day + hour - 2), fun seconds => ?_⟩
    by_cases before : Summer (3600 * (24 * day + hour - 2))
    · rw [if_pos before] at times
      rw [times, shown]
      simp only [now, before, not_true_eq_false, and_false, and_true, false_or]
      omega
    · rw [if_neg before] at times
      rw [times, shown]
      simp only [now, before, not_true_eq_false, and_false, or_false, false_iff]
      omega
  · rw [if_neg now] at times
    by_cases before : Summer (3600 * (24 * day + hour - 2))
    · rw [if_pos before] at times
      refine ⟨3600 * (24 * day + hour - 2), fun seconds => ?_⟩
      rw [times, shown]
      simp only [now, before, not_false_eq_true, and_true]
      omega
    · rw [if_neg before] at times
      refine ⟨3600 * (24 * day + hour - 1), fun seconds => ?_⟩
      rw [times, shown]
      simp only [now, before, not_false_eq_true, and_true, and_false, or_false]
      omega

end EnergyDisplay.Calendar

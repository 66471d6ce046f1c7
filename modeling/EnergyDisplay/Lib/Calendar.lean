import Mathlib.Data.Int.Order.Basic

/-! The Gregorian calendar over day counts from 1970-01-01 on, and the clock
of Central Europe under the rule of the European Union: an hour ahead of UTC,
two from the last Sunday of March to the last Sunday of October. -/
namespace EnergyDisplay.Calendar

@[ext]
structure CivilDate where
  year : Int
  month : ℕ
  day : ℕ
  deriving DecidableEq

/-- A day counted in years that start on the first of March, in cycles of 400
years: the leap day is the last of its year. -/
structure MarchDay where
  cycle : Int
  year : Int
  day : Int

/-- The centuries of a cycle have 36524 days, and four years 1461, but for the
last of them; so do the years have 365. -/
def marchDay (days : Int) : MarchDay :=
  let inCycle := (days + 719468) % 146097
  let century := min (inCycle / 36524) 3
  let inCentury := inCycle - 36524 * century
  let inFour := inCentury % 1461
  let year := min (inFour / 365) 3
  { cycle := (days + 719468) / 146097
    year := 100 * century + 4 * (inCentury / 1461) + year
    day := inFour - 365 * year }

/-- The date of a day. -/
def civil (days : Int) : CivilDate :=
  let date := marchDay days
  let month := (5 * date.day + 2) / 153
  { year := 400 * date.cycle + date.year + if month < 10 then 0 else 1
    month := (if month < 10 then month + 3 else month - 9).toNat
    day := (date.day - (153 * month + 2) / 5 + 1).toNat }

/-- The day of a date. -/
def dayOf (date : CivilDate) : Int :=
  let year := if date.month ≤ 2 then date.year - 1 else date.year
  let month := ((date.month : Int) + 9) % 12
  365 * year + year / 4 - year / 100 + year / 400 + (153 * month + 2) / 5 + date.day - 719469

/-- Sunday is 0. -/
def weekday (days : Int) : ℕ := ((days + 4) % 7).toNat

theorem marchDay_bounds (days : Int) :
    0 ≤ (marchDay days).year ∧ (marchDay days).year < 400 ∧
      0 ≤ (marchDay days).day ∧ (marchDay days).day ≤ 365 := by
  simp only [marchDay]
  omega

/-- The leap years among the years before, by century and four years. -/
theorem leapYears (century : Int) {four year : Int} (fours : 0 ≤ four ∧ four < 25) (years : 0 ≤ year ∧ year < 4) :
    (100 * century + 4 * four + year) / 4 = 25 * century + four ∧
      (100 * century + 4 * four + year) / 100 = century := by
  omega

/-- The leap years of whole cycles and of the years after them. -/
theorem cycle_leapYears (cycle : Int) {year : Int} (years : 0 ≤ year ∧ year < 400) :
    (400 * cycle + year) / 4 = 100 * cycle + year / 4 ∧
      (400 * cycle + year) / 100 = 4 * cycle + year / 100 ∧ (400 * cycle + year) / 400 = cycle := by
  omega

/-- The days before a year, and those in it. -/
theorem marchDay_days (days : Int) :
    146097 * (marchDay days).cycle + 365 * (marchDay days).year + (marchDay days).year / 4 -
      (marchDay days).year / 100 + (marchDay days).day = days + 719468 := by
  simp only [marchDay]
  have whole := Int.emod_add_mul_ediv (days + 719468) 146097
  have lower : 0 ≤ (days + 719468) % 146097 := Int.emod_nonneg _ (by decide)
  have upper : (days + 719468) % 146097 < 146097 := Int.emod_lt_of_pos _ (by decide)
  generalize (days + 719468) % 146097 = inCycle at *
  have centuries : 0 ≤ inCycle - 36524 * min (inCycle / 36524) 3 ∧
      inCycle - 36524 * min (inCycle / 36524) 3 < 36525 := by omega
  generalize min (inCycle / 36524) 3 = century at *
  have fours : 0 ≤ (inCycle - 36524 * century) / 1461 ∧ (inCycle - 36524 * century) / 1461 < 25 := by
    omega
  have years : 0 ≤ min ((inCycle - 36524 * century) % 1461 / 365) 3 ∧
      min ((inCycle - 36524 * century) % 1461 / 365) 3 < 4 := by omega
  obtain ⟨quarter, hundredth⟩ := leapYears century fours years
  rw [quarter, hundredth]
  omega

theorem dayOf_civil (days : Int) : dayOf (civil days) = days := by
  obtain ⟨yearLower, yearUpper, dayLower, dayUpper⟩ := marchDay_bounds days
  have total := marchDay_days days
  simp only [civil]
  generalize marchDay days = date at *
  obtain ⟨cycle, year, day⟩ := date
  dsimp only at *
  have months : 0 ≤ (5 * day + 2) / 153 ∧ (5 * day + 2) / 153 < 12 := by omega
  have inMonth : 0 ≤ day - (153 * ((5 * day + 2) / 153) + 2) / 5 := by omega
  obtain ⟨quarter, hundredth, whole⟩ := cycle_leapYears cycle ⟨yearLower, yearUpper⟩
  simp only [dayOf]
  generalize (5 * day + 2) / 153 = month at *
  have counted : ((day - (153 * month + 2) / 5 + 1).toNat : Int) = day - (153 * month + 2) / 5 + 1 :=
    Int.toNat_of_nonneg (by omega)
  rcases lt_or_ge month 10 with early | late
  · have after : ¬(month + 3).toNat ≤ 2 := by omega
    have same : (((month + 3).toNat : Int) + 9) % 12 = month := by omega
    rw [if_pos early, if_pos early, if_neg after, same, counted, Int.add_zero, quarter, hundredth, whole]
    omega
  · have before : (month - 9).toNat ≤ 2 := by omega
    have same : (((month - 9).toNat : Int) + 9) % 12 = month := by omega
    rw [if_neg (not_lt.mpr late), if_neg (not_lt.mpr late), if_pos before, same, counted,
      Int.add_sub_cancel, quarter, hundredth, whole]
    omega

/-- A date is that of one day only. -/
theorem civil_injective : Function.Injective civil :=
  Function.LeftInverse.injective dayOf_civil

example : civil 11016 = ⟨2000, 2, 29⟩ ∧ civil 20705 = ⟨2026, 9, 9⟩ ∧ weekday 20705 = 3 := by decide

/-! ## Central European time -/

/-- The last Sunday of a month of 31 days. -/
def lastSunday (year : Int) (month : ℕ) : Int :=
  let last := dayOf ⟨year, month, 31⟩
  last - weekday last

/-- Both changes are at 01:00 UTC. -/
def changeAt (day : Int) : Int := 86400 * day + 3600

/-- Seconds ahead of UTC, at so many seconds after the epoch. -/
def centralOffset (seconds : Int) : Int :=
  let year := (civil (seconds / 86400)).year
  if changeAt (lastSunday year 3) ≤ seconds ∧ seconds < changeAt (lastSunday year 10) then 7200
  else 3600

theorem centralOffset_cases (seconds : Int) :
    centralOffset seconds = 3600 ∨ centralOffset seconds = 7200 := by
  simp only [centralOffset]
  split
  · exact Or.inr rfl
  · exact Or.inl rfl

/-- The local day is the day in UTC, or the next. -/
theorem localDay_cases (seconds : Int) :
    (seconds + centralOffset seconds) / 86400 =
      if seconds % 86400 + centralOffset seconds < 86400 then seconds / 86400 else seconds / 86400 + 1 := by
  rcases centralOffset_cases seconds with winter | summer
  · rw [winter]
    split <;> omega
  · rw [summer]
    split <;> omega

end EnergyDisplay.Calendar

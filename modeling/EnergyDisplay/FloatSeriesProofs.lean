import EnergyDisplay.Lib.RoundingError
import EnergyDisplay.RenderSafetyProofs
import EnergyDisplay.SeriesProjection

/-! The hourly series in the floats of the device, next to the same series in exact
arithmetic. The counters of the grid are floats; the solar total is a rounded sum, and
rounding keeps the order. So both open a baseline at the same readings, unless a solar
total drops by less than the floats of two sums are off. What an hour has counted is a
difference of two readings, whatever came between them: the errors of a run do not add
up. -/
namespace EnergyDisplay

open Runs
open Renderer (F64)
open FloatFormat (binary64 Value)

/-! ## Updates in exact arithmetic -/

section Map

variable {F G : Type} (f : F → G)

def TemperatureData.map (data : TemperatureData F) : TemperatureData G where
  temperature := f data.temperature
  humidity := f data.humidity

def HeatpumpData.map (data : HeatpumpData F) : HeatpumpData G where
  indoorTemperature := f data.indoorTemperature
  outdoorTemperature := f data.outdoorTemperature
  dhwTemperature := f data.dhwTemperature

def SolarData.map (data : SolarData F) : SolarData G where
  pv1InputPower := f data.pv1InputPower
  pv2InputPower := f data.pv2InputPower
  energyToday := f data.energyToday
  batteryChargePower := f data.batteryChargePower
  batteryDischargePower := f data.batteryDischargePower
  batteryStateOfCharge := f data.batteryStateOfCharge
  batteryDischargeEnergyToday := f data.batteryDischargeEnergyToday
  batteryChargeEnergyToday := f data.batteryChargeEnergyToday

def GarageSolarData.map (data : GarageSolarData F) : GarageSolarData G where
  pvTotalPower := f data.pvTotalPower
  energyToday := f data.energyToday

def GridData.map (data : GridData F) : GridData G where
  powerImport := f data.powerImport
  powerExport := f data.powerExport
  powerImportToday := f data.powerImportToday
  powerExportToday := f data.powerExportToday
  quarterlyPeakCurrent := f data.quarterlyPeakCurrent
  quarterlyPeakMonth := f data.quarterlyPeakMonth
  quarterlyPeakYear := f data.quarterlyPeakYear

def HourlyData.map (data : HourlyData F) : HourlyData G where
  valuesAtHourStart := fun hour => f (data.valuesAtHourStart hour)
  values := fun hour => f (data.values hour)
  lastUpdate := data.lastUpdate
  baselinePresent := data.baselinePresent
  lastValue := data.lastValue.map f

def DailySummary.map (summary : DailySummary F) : DailySummary G where
  date := summary.date
  solarProduction := summary.solarProduction.map f
  gridImport := summary.gridImport.map f
  gridExport := summary.gridExport.map f

def Update.map : Update F → Update G
  | .heatpump data => .heatpump (data.map f)
  | .heatpumpPower power => .heatpumpPower power
  | .heatpumpBackupPower power => .heatpumpBackupPower power
  | .heatpumpCop cop => .heatpumpCop (f cop)
  | .heatpumpRecommend recommend => .heatpumpRecommend recommend
  | .heatpumpForce force => .heatpumpForce force
  | .outdoorSensor sensor => .outdoorSensor (sensor.map f)
  | .solar data => .solar (data.map f)
  | .garageSolar data => .garageSolar (data.map f)
  | .grid data => .grid (data.map f)
  | .dailySummary summary => .dailySummary (summary.map f)

end Map

/-- The number that a float is. -/
def FloatFormat.Value.number {format : FloatFormat} : format.Value → ℚ
  | .finite value _ => value
  | _ => 0

/-- An update and its time, with the numbers of its floats. -/
def exactly (event : Update F64 × Option LocalDateTime) : Update ℚ × Option LocalDateTime :=
  (event.1.map Value.number, event.2)

/-- A counter that is a number up to a power of two. -/
def Reads (power : ℤ) (value : F64) (number : ℚ) : Prop :=
  ∃ held, value = .finite number held ∧ 0 ≤ number ∧ number ≤ 2 ^ power

/-- Whatever is counted or restored is a number, and a counter not too large. -/
def Update.Counts (power : ℤ) : Update F64 → Prop
  | .solar data => Reads power data.energyToday data.energyToday.number
  | .garageSolar data => Reads power data.energyToday data.energyToday.number
  | .grid data => Reads power data.powerImportToday data.powerImportToday.number ∧
      Reads power data.powerExportToday data.powerExportToday.number
  | .dailySummary summary => ∀ series hour,
      Reads power ((summary.hourly series).valuesAtHourStart hour)
        ((summary.hourly series).valuesAtHourStart hour).number ∧
      ∃ held, (summary.hourly series).values hour = .finite ((summary.hourly series).values hour).number held
  | _ => True

namespace Dashboard

/-- A solar total that drops, drops by more than the floats of two sums are off. -/
def Resolves (power : ℤ) (dashboard : Dashboard ℚ) (event : Update ℚ × Option LocalDateTime) : Prop :=
  ∀ cumulative last, dashboard.cumulative event.1 .solarProduction = some cumulative →
    (dashboard.hourly .solarProduction).lastValue = some last → cumulative < last →
      cumulative + 2 ^ (power - 51) < last

end Dashboard

/-! ## Counters -/

variable {power : ℤ} {cumulative baseline last : ℚ}

theorem two_pow_le_largest (small : power ≤ 971) : (2 : ℚ) ^ power ≤ binary64.largest := by
  have raised : (2 : ℚ) ^ power ≤ 2 ^ (971 : ℤ) := zpow_le_zpow_right₀ (by norm_num) small
  have digits : (2 : ℚ) ^ (971 : ℤ) ≤ (2 ^ 53 - 1) * 2 ^ (971 : ℤ) :=
    le_mul_of_one_le_left (zpow_nonneg (by norm_num) _) (by norm_num)
  exact raised.trans digits

theorem thousand_held : binary64.Has ((1000 : ℕ) : ℚ) := by
  exact_mod_cast binary64.has_intCast (show |(1000 : ℤ)| < 2 ^ binary64.precision by decide)

/-- The powers of two around a counter, in units of its last place. -/
theorem two_pow_units {exponent : ℤ} {more : ℕ} (same : exponent = power - 52 + more) :
    (2 : ℚ) ^ exponent = 2 ^ (power - 52) * 2 ^ more := by
  rw [same, zpow_add₀ (by norm_num), zpow_natCast]

section Counters

variable (some_ : 0 ≤ power) (small : power ≤ 900)

include some_ small

/-- A counter is rounded by less than a unit. -/
theorem close_counter (nonneg : 0 ≤ cumulative) (le : cumulative ≤ 2 ^ (power + 1)) :
    Value.Close (2 ^ (power - 52)) (Value.rounded cumulative : F64) cumulative := by
  have close : Value.Close (0 + 2 ^ (power + 1 - 53)) (Value.rounded cumulative : F64) cumulative :=
    Value.close_rounded (show (-1074 : ℤ) + 53 ≤ power + 1 by omega) (two_pow_le_largest (by omega))
      (by simp) (by rwa [abs_of_nonneg nonneg])
  rw [zero_add, show power + 1 - 53 = power - 52 by omega] at close
  exact close

/-- A sum drops where its rounding drops. -/
theorem sum_lt_iff (nonneg : 0 ≤ cumulative) (le : cumulative ≤ 2 ^ (power + 1)) (lastNonneg : 0 ≤ last)
    (lastLe : last ≤ 2 ^ (power + 1)) (resolves : cumulative < last → cumulative + 2 ^ (power - 51) < last) :
    (Value.rounded cumulative : F64) < Value.rounded last ↔ cumulative < last := by
  obtain ⟨now, nowHeld, nowSame, nowNear⟩ := close_counter some_ small nonneg le
  obtain ⟨before, beforeHeld, beforeSame, beforeNear⟩ := close_counter some_ small lastNonneg lastLe
  rw [nowSame, beforeSame, Value.finite_lt_finite]
  constructor
  · intro drops
    by_contra grown
    have ordered : (Value.rounded last : F64) ≤ Value.rounded cumulative :=
      Value.rounded_le_rounded lastNonneg (not_lt.mp grown)
    rw [nowSame, beforeSame, Value.finite_le_finite] at ordered
    linarith
  · intro drops
    have units : (2 : ℚ) ^ (power - 51) = 2 ^ (power - 52) * 2 ^ 1 := two_pow_units (by omega)
    linarith [resolves drops, (abs_le.mp nowNear).2, (abs_le.mp beforeNear).1]

/-- What an hour has counted is off by the rounding of two readings, of their
difference and of its thousandfold. -/
theorem counted_close {first second : F64} (nonneg : 0 ≤ cumulative) (le : cumulative ≤ 2 ^ (power + 1))
    (startNonneg : 0 ≤ baseline) (startLe : baseline ≤ 2 ^ (power + 1))
    (one : Value.Close (2 ^ (power - 52)) first cumulative) (two : Value.Close (2 ^ (power - 52)) second baseline) :
    Value.Close (2 ^ (power - 39)) ((first - second) * ((1000 : ℕ) : F64))
      ((cumulative - baseline) * (1000 : ℕ)) := by
  have unit : (0 : ℚ) < 2 ^ (power - 52) := zpow_pos (by norm_num) _
  have most : (2 : ℚ) ^ (power + 1) = 2 ^ (power - 52) * 2 ^ 53 := two_pow_units (by omega)
  have apart : |cumulative - baseline| ≤ 2 ^ (power + 1) := abs_le.mpr ⟨by linarith, by linarith⟩
  have difference : Value.Close (2 ^ (power - 52) + 2 ^ (power - 52) + 2 ^ (power + 2 - 53)) (first - second)
      (cumulative - baseline) := by
    refine one.sub (show (-1074 : ℤ) + 53 ≤ power + 2 by omega) (two_pow_le_largest (by omega)) two ?_
    have room : (2 : ℚ) ^ (power + 2) = 2 ^ (power - 52) * 2 ^ 54 := two_pow_units (by omega)
    linarith
  have subtracted : (2 : ℚ) ^ (power + 2 - 53) = 2 ^ (power - 52) * 2 ^ 1 := two_pow_units (by omega)
  have product : Value.Close ((2 ^ (power - 52) + 2 ^ (power - 52) + 2 ^ (power + 2 - 53)) * (1000 : ℕ) +
      2 ^ (power + 12 - 53)) ((first - second) * ((1000 : ℕ) : F64)) ((cumulative - baseline) * (1000 : ℕ)) := by
    rw [show ((1000 : ℕ) : F64) = .finite ((1000 : ℕ) : ℚ) thousand_held from Value.rounded_eq _]
    refine difference.mul (show (-1074 : ℤ) + 53 ≤ power + 12 by omega) (two_pow_le_largest (by omega))
      thousand_held (by norm_num) ?_
    have room : (2 : ℚ) ^ (power + 12) = 2 ^ (power - 52) * 2 ^ 64 := two_pow_units (by omega)
    push_cast
    linarith
  have multiplied : (2 : ℚ) ^ (power + 12 - 53) = 2 ^ (power - 52) * 2 ^ 11 := two_pow_units (by omega)
  have bound : (2 : ℚ) ^ (power - 39) = 2 ^ (power - 52) * 2 ^ 13 := two_pow_units (by omega)
  refine product.mono ?_
  push_cast
  linarith

end Counters

theorem finite_bne_zero {value : ℚ} (held : binary64.Has value) :
    ((Value.finite value held : F64) != 0) = (value != 0) := by
  show (!(!decide ((Value.finite value held : F64) = .nan) &&
    decide ((Value.finite value held : F64) = .finite 0 _))) = !decide (value = 0)
  simp

/-! ## Series -/

/-- What a series is shown: the counters of the grid are floats themselves, the solar
total is a sum of two. -/
structure Shown (power : ℤ) (series : Series) (counter : ℚ) : Prop where
  nonneg : 0 ≤ counter
  le : counter ≤ 2 ^ (power + 1)
  held : series ≠ .solarProduction → binary64.Has counter

/-- Both kinds of counters drop at the same readings. -/
theorem Shown.rounded_lt_iff {series : Series} (some_ : 0 ≤ power) (small : power ≤ 900)
    (shown : Shown power series cumulative) (before : Shown power series last)
    (resolves : series = .solarProduction → cumulative < last → cumulative + 2 ^ (power - 51) < last) :
    (Value.rounded cumulative : F64) < Value.rounded last ↔ cumulative < last := by
  by_cases sums : series = .solarProduction
  · exact sum_lt_iff some_ small shown.nonneg shown.le before.nonneg before.le (resolves sums)
  · rw [Value.rounded_eq (shown.held sums), Value.rounded_eq (before.held sums), Value.finite_lt_finite]

/-- A counter, and its float. -/
structure Follows (power : ℤ) (value : F64) (counter : ℚ) : Prop where
  nonneg : 0 ≤ counter
  le : counter ≤ 2 ^ (power + 1)
  close : Value.Close (2 ^ (power - 52)) value counter

namespace HourlyData

/-- The series of the device opened the hours that the exact one opened, at the
floats of its readings, and counted in each what the exact one counted, up to the
rounding of one difference. -/
structure Near (power : ℤ) (series : Series) (data : HourlyData F64) (exact : HourlyData ℚ) : Prop where
  lastUpdate : data.lastUpdate = exact.lastUpdate
  present : data.baselinePresent = exact.baselinePresent
  lastValue : data.lastValue = exact.lastValue.map Value.rounded
  last : ∀ value, exact.lastValue = some value → Shown power series value
  started : ∀ hour, Follows power (data.valuesAtHourStart hour) (exact.valuesAtHourStart hour)
  counted : ∀ hour, Value.Close (2 ^ (power - 39)) (data.values hour) (exact.values hour)

variable {data : HourlyData F64} {exact : HourlyData ℚ} {series : Series}

/-- Related functions stay so where both are given related values. -/
theorem related_update {α β ι : Type*} [DecidableEq ι] {related : α → β → Prop} {first : ι → α} {second : ι → β}
    {place : ι} {one : α} {two : β} (here : related one two) (others : ∀ i, related (first i) (second i)) :
    ∀ i, related (Function.update first place one i) (Function.update second place two i) := by
  intro i
  by_cases same : i = place
  · subst same
    simpa using here
  · simpa [same] using others i

theorem zero_close {error : ℚ} (nonneg : 0 ≤ error) : Value.Close error (0 : F64) 0 :=
  (Value.close_finite binary64.has_zero).mono nonneg

theorem near_default (power : ℤ) (series : Series) :
    (HourlyData.default : HourlyData F64).Near power series .default where
  lastUpdate := rfl
  present := rfl
  lastValue := rfl
  last _ reads := nomatch reads
  started _ := ⟨le_rfl, zpow_nonneg (by norm_num) _, zero_close (zpow_nonneg (by norm_num) _)⟩
  counted _ := zero_close (zpow_nonneg (by norm_num) _)

section Reading

variable (some_ : 0 ≤ power) (small : power ≤ 900) (shown : Shown power series cumulative)

include some_ small shown

/-- Both open a baseline. -/
theorem Near.opened (near : data.Near power series exact) (now : LocalDateTime) :
    Near power series
      { data.setBaseline now.slot (Value.rounded cumulative) with
        lastUpdate := some now, lastValue := some (Value.rounded cumulative) }
      { exact.setBaseline now.slot cumulative with
        lastUpdate := some now, lastValue := some cumulative } where
  lastUpdate := rfl
  present := by simp only [setBaseline, near.present]
  lastValue := rfl
  last value reads := by
    obtain rfl : cumulative = value := Option.some.inj reads
    exact shown
  started := related_update ⟨shown.nonneg, shown.le, close_counter some_ small shown.nonneg shown.le⟩ near.started
  counted := related_update (zero_close (zpow_nonneg (by norm_num) _)) near.counted

/-- Both count from the baselines they opened. -/
theorem Near.counts (near : data.Near power series exact) (now : LocalDateTime) :
    Near power series
      { data with
        values := Function.update data.values now.slot
          ((Value.rounded cumulative - data.valuesAtHourStart now.slot) * ((1000 : ℕ) : F64))
        lastUpdate := some now
        lastValue := some (Value.rounded cumulative) }
      { exact with
        values := Function.update exact.values now.slot
          ((cumulative - exact.valuesAtHourStart now.slot) * (1000 : ℕ))
        lastUpdate := some now
        lastValue := some cumulative } where
  lastUpdate := rfl
  present := near.present
  lastValue := rfl
  last value reads := by
    obtain rfl : cumulative = value := Option.some.inj reads
    exact shown
  started := near.started
  counted := by
    have start := near.started now.slot
    have close := close_counter some_ small shown.nonneg shown.le
    exact related_update
      (counted_close some_ small shown.nonneg shown.le start.nonneg start.le close start.close) near.counted

/-- Both open a baseline at the same readings. -/
theorem Near.rebaselines_eq (near : data.Near power series exact) (now : LocalDateTime)
    (resolves : series = .solarProduction → ∀ last, exact.lastValue = some last →
      cumulative < last → cumulative + 2 ^ (power - 51) < last) :
    data.rebaselines (Value.rounded cumulative) now = exact.rebaselines cumulative now := by
  have drops : (data.lastValue.any fun previous => (Value.rounded cumulative : F64) < previous) =
      exact.lastValue.any fun previous => cumulative < previous := by
    rw [near.lastValue]
    cases reads : exact.lastValue with
    | none => rfl
    | some last =>
      have order := shown.rounded_lt_iff some_ small (near.last last reads) fun sums => resolves sums last reads
      simp only [Option.map_some, Option.any_some, order]
  simp only [rebaselines, hourChanged, near.lastUpdate, near.present, drops]

theorem Near.append (near : data.Near power series exact) (now : LocalDateTime)
    (resolves : series = .solarProduction → ∀ last, exact.lastValue = some last →
      cumulative < last → cumulative + 2 ^ (power - 51) < last) :
    (data.appendValue (Value.rounded cumulative) now).Near power series (exact.appendValue cumulative now) := by
  have sameDay : data.dateChanged now = exact.dateChanged now := by simp only [dateChanged, near.lastUpdate]
  cases day : exact.dateChanged now with
  | true =>
    rw [append_new_day (sameDay.trans day), append_new_day day, append_first rfl rfl, append_first rfl rfl]
    exact (near_default power series).opened some_ small shown now
  | false =>
    have same := near.rebaselines_eq some_ small shown now resolves
    cases opens : exact.rebaselines cumulative now with
    | true =>
      rw [append_rebaselined (sameDay.trans day) (same.trans opens), append_rebaselined day opens]
      exact near.opened some_ small shown now
    | false =>
      rw [append_counted (sameDay.trans day) (same.trans opens), append_counted day opens]
      exact near.counts some_ small shown now

end Reading

/-- A restored series is taken over as it is. -/
theorem near_restore {restored : HourlyData F64}
    (starts : ∀ hour, Reads power (restored.valuesAtHourStart hour) (restored.valuesAtHourStart hour).number)
    (values : ∀ hour, ∃ held, restored.values hour = .finite (restored.values hour).number held)
    (now : Option LocalDateTime) :
    (restored.restore now).Near power series ((restored.map Value.number).restore now) where
  lastUpdate := by simp
  present := by
    funext hour
    rw [restore_present, restore_present]
    obtain ⟨held, same, -, -⟩ := starts hour
    show (restored.valuesAtHourStart hour != 0) = ((restored.valuesAtHourStart hour).number != 0)
    rw [same]
    exact finite_bne_zero held
  lastValue := by simp
  last value reads := by simp at reads
  started hour := by
    obtain ⟨held, same, nonneg, le⟩ := starts hour
    rw [restore_starts, restore_starts, same]
    exact ⟨nonneg, le.trans (zpow_le_zpow_right₀ (by norm_num) (by omega)),
      (Value.close_finite held).mono (zpow_nonneg (by norm_num) _)⟩
  counted hour := by
    obtain ⟨held, same⟩ := values hour
    rw [restore_values, restore_values, same]
    exact (Value.close_finite held).mono (zpow_nonneg (by norm_num) _)

end HourlyData

/-! ## Dashboards -/

section Readings

variable {first second : F64} {one other : ℚ}

/-- A payload is the float of its number. -/
theorem Reads.shown (reads : Reads power first one) (series : Series) :
    first = Value.rounded one ∧ Shown power series one := by
  obtain ⟨held, rfl, nonneg, le⟩ := reads
  refine ⟨(Value.rounded_eq held).symm, nonneg, ?_, fun _ => held⟩
  exact le.trans (zpow_le_zpow_right₀ (by norm_num) (by omega))

/-- The sum of the solar sources is rounded once. -/
theorem Reads.add (reads : Reads power first one) (others : Reads power second other) :
    first + second = Value.rounded (one + other) ∧ Shown power .solarProduction (one + other) := by
  obtain ⟨held, rfl, nonneg, le⟩ := reads
  obtain ⟨otherHeld, rfl, otherNonneg, otherLe⟩ := others
  refine ⟨rfl, add_nonneg nonneg otherNonneg, ?_, fun grid => absurd rfl grid⟩
  rw [zpow_add_one₀ (by norm_num)]
  linarith

end Readings

namespace Dashboard

/-- A series follows, and the payloads that are summed are the same numbers. -/
structure Near (power : ℤ) (series : Series) (dashboard : Dashboard F64) (exact : Dashboard ℚ) : Prop where
  hourly : (dashboard.hourly series).Near power series (exact.hourly series)
  solar : Reads power dashboard.solar.energyToday exact.solar.energyToday
  garageSolar : Reads power dashboard.garageSolar.energyToday exact.garageSolar.energyToday

variable {dashboard : Dashboard F64} {exact : Dashboard ℚ} {series : Series} {update : Update F64}
  {event : Update F64 × Option LocalDateTime}

theorem near_default (power : ℤ) (series : Series) : Near power series .default .default where
  hourly := by cases series <;> exact HourlyData.near_default power _
  solar := ⟨binary64.has_zero, rfl, le_rfl, zpow_nonneg (by norm_num) _⟩
  garageSolar := ⟨binary64.has_zero, rfl, le_rfl, zpow_nonneg (by norm_num) _⟩

/-- What a series is shown is the float of what the exact one is shown. -/
theorem Near.shows (near : Near power series dashboard exact) (counts : update.Counts power) :
    dashboard.cumulative update series =
        (exact.cumulative (update.map Value.number) series).map Value.rounded ∧
      ∀ value, exact.cumulative (update.map Value.number) series = some value → Shown power series value := by
  have shown {series : Series} {value : F64} {counter : ℚ}
      (same : value = Value.rounded counter ∧ Shown power series counter) :
      some value = (some counter).map Value.rounded ∧
        ∀ each, some counter = some each → Shown power series each := by
    refine ⟨congrArg some same.1, ?_⟩
    rintro each ⟨⟩
    exact same.2
  cases update with
  | solar data =>
    cases series with
    | solarProduction => exact shown (Reads.add counts near.garageSolar)
    | _ => exact ⟨rfl, nofun⟩
  | garageSolar data =>
    cases series with
    | solarProduction => exact shown (Reads.add near.solar counts)
    | _ => exact ⟨rfl, nofun⟩
  | grid data =>
    cases series with
    | solarProduction => exact ⟨rfl, nofun⟩
    | gridImport => exact shown (counts.1.shown _)
    | gridExport => exact shown (counts.2.shown _)
  | _ => exact ⟨rfl, nofun⟩

theorem Near.restored (near : Near power series dashboard exact) {summary : DailySummary F64}
    (counts : (Update.dailySummary summary).Counts power) (now : Option LocalDateTime) :
    ((dashboard.apply (.dailySummary summary) now).hourly series).Near power series
      ((exact.apply (.dailySummary (summary.map Value.number)) now).hourly series) := by
  have taken : (summary.map Value.number).hourly series = (summary.hourly series).map Value.number := by
    cases series <;> rfl
  have sameDate : (now.any fun now => !(summary.map Value.number).isFor now) =
    now.any fun now => !summary.isFor now := rfl
  rw [hourly_apply, hourly_apply]
  simp only [seriesStep, sameDate]
  split
  case isTrue => exact near.hourly
  case isFalse =>
    rw [taken]
    exact HourlyData.near_restore (fun hour => (counts series hour).1) (fun hour => (counts series hour).2) now

section Run

variable (some_ : 0 ≤ power) (small : power ≤ 900)

include some_ small

theorem Near.live (near : Near power series dashboard exact) (counts : update.Counts power)
    (live : update.isDailySummary = false) (now : Option LocalDateTime)
    (resolves : series = .solarProduction → exact.Resolves power (update.map Value.number, now)) :
    ((dashboard.apply update now).hourly series).Near power series
      ((exact.apply (update.map Value.number) now).hourly series) := by
  have alive : (update.map Value.number).isDailySummary = false := by
    cases update with
    | dailySummary => cases live
    | _ => rfl
  rw [hourly_live live, hourly_live alive]
  cases now with
  | none => exact near.hourly
  | some now =>
    obtain ⟨same, shown⟩ := near.shows counts
    rw [same]
    cases shows : exact.cumulative (update.map Value.number) series with
    | none => exact near.hourly
    | some cumulative =>
      refine near.hourly.append some_ small (shown cumulative shows) now ?_
      rintro rfl last reads
      exact resolves rfl cumulative last shows reads

/-- The step: an update keeps the dashboard of the device near the exact one. -/
theorem Near.take (near : Near power series dashboard exact) (counts : event.1.Counts power)
    (resolves : series = .solarProduction → exact.Resolves power (exactly event)) :
    (dashboard.step event).Near power series (exact.step (exactly event)) := by
  obtain ⟨update, now⟩ := event
  obtain ⟨solar, garageSolar⟩ := caches_apply dashboard update now
  obtain ⟨exactSolar, exactGarage⟩ := caches_apply exact (update.map Value.number) now
  constructor
  case hourly =>
    cases update with
    | dailySummary summary => exact near.restored counts now
    | _ => exact near.live some_ small counts rfl now resolves
  case solar =>
    show Reads power (dashboard.apply update now).solar.energyToday
      (exact.apply (update.map Value.number) now).solar.energyToday
    rw [solar, exactSolar]
    cases update with
    | solar data => exact counts
    | _ => exact near.solar
  case garageSolar =>
    show Reads power (dashboard.apply update now).garageSolar.energyToday
      (exact.apply (update.map Value.number) now).garageSolar.energyToday
    rw [garageSolar, exactGarage]
    cases update with
    | garageSolar data => exact counts
    | _ => exact near.garageSolar

/-- Along every run of updates whose counters are numbers, a series of the device
keeps the accounts of the exact one; of the solar series, if its total drops by more
than it is rounded. -/
theorem floats_keep_accounts {events : List (Update F64 × Option LocalDateTime)} {series : Series}
    (counts : ∀ event ∈ events, event.1.Counts power)
    (resolves : series = .solarProduction → StepsMeet step (Resolves power) .default (events.map exactly)) :
    ((run step .default events).hourly series).Near power series
      ((run step .default (events.map exactly)).hourly series) := by
  have near : Near power series (run step .default events) (run step .default (events.map exactly)) :=
    (stepsMeet_imp.mpr resolves).simulates (Near power series)
      (fun _ _ _ near counts resolves => near.take some_ small counts resolves) (near_default power series) counts
  exact near.hourly

end Run

/-- Two solar sources, of which one starts again within the hour. -/
def sunnyHour (F : Type) [Zero F] [IntCast F] : List (Update F × Option LocalDateTime) :=
  [(.solar { SolarData.default with energyToday := (12 : ℤ) }, some .morning),
    (.garageSolar { GarageSolarData.default with energyToday := (3 : ℤ) }, some .morning),
    (.solar { SolarData.default with energyToday := (1 : ℤ) }, some .morning),
    (.solar { SolarData.default with energyToday := (2 : ℤ) }, some .morning)]

theorem reads_intCast (digits : ℤ) (nonneg : 0 ≤ digits) (small : digits ≤ 2 ^ 10) :
    Reads 10 (digits : F64) (digits : F64).number ∧ (digits : F64).number = digits := by
  have few : |digits| < 2 ^ binary64.precision := by
    rw [abs_of_nonneg nonneg]
    exact small.trans_lt (by decide)
  rw [Value.intCast_eq few]
  refine ⟨⟨_, rfl, ?_⟩, rfl⟩
  show 0 ≤ (digits : ℚ) ∧ (digits : ℚ) ≤ 2 ^ (10 : ℤ)
  exact_mod_cast And.intro nonneg small

theorem exactly_sunnyHour : (sunnyHour F64).map exactly = sunnyHour ℚ := by
  have twelve := (reads_intCast 12 (by norm_num) (by norm_num)).2
  have three := (reads_intCast 3 (by norm_num) (by norm_num)).2
  have one := (reads_intCast 1 (by norm_num) (by norm_num)).2
  have two := (reads_intCast 2 (by norm_num) (by norm_num)).2
  have zero : (0 : F64).number = 0 := rfl
  simp only [sunnyHour, List.map_cons, List.map_nil, exactly, Update.map, SolarData.map, GarageSolarData.map,
    SolarData.default, GarageSolarData.default, twelve, three, one, two, zero]

theorem floats_keep_accounts_sunny :
    ((run step .default (sunnyHour F64)).hourly .solarProduction).Near 10 .solarProduction
      ((run step .default ((sunnyHour F64).map exactly)).hourly .solarProduction) := by
  have counts : ∀ event ∈ sunnyHour F64, event.1.Counts 10 := by
    intro event member
    simp only [sunnyHour, List.mem_cons, List.not_mem_nil, or_false] at member
    rcases member with rfl | rfl | rfl | rfl
    · exact (reads_intCast 12 (by norm_num) (by norm_num)).1
    · exact (reads_intCast 3 (by norm_num) (by norm_num)).1
    · exact (reads_intCast 1 (by norm_num) (by norm_num)).1
    · exact (reads_intCast 2 (by norm_num) (by norm_num)).1
  have resolves : StepsMeet step (Resolves 10) .default ((sunnyHour F64).map exactly) := by
    rw [exactly_sunnyHour]
    refine ⟨?_, ?_, ?_, ?_, trivial⟩
    · intro cumulative last shows reads
      cases reads
    all_goals
      intro cumulative last shows reads drops
      simp [step, apply, updateCombinedSolar, Dashboard.cumulative, hourly, Dashboard.default, EnergyStatus.default,
        SolarData.default, GarageSolarData.default, HourlyData.default, HourlyData.appendValue] at shows reads
      subst shows reads
      revert drops
      norm_num
  exact floats_keep_accounts (by norm_num) (by norm_num) counts fun _ => resolves

end Dashboard

end EnergyDisplay

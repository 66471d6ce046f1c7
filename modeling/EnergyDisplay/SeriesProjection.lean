import EnergyDisplay.HourlyProofs
import EnergyDisplay.Lib.Runs

/-! The three hourly series evolve independently: each sees only the counter
readings meant for it and the summaries that are applied. Everything the
dashboard does to a series is a step of the machine defined here. -/
namespace EnergyDisplay

/-- The hourly series of a status. -/
inductive Series where
  | solarProduction
  | gridImport
  | gridExport
  deriving DecidableEq

/-- What can happen to one series: a timestamped counter reading, or a restore
with the clock value it was applied at. -/
inductive SeriesStep (F : Type) where
  | reading (cumulative : F) (now : LocalDateTime)
  | restored (data : HourlyData F) (now : Option LocalDateTime)

variable {F : Type}

def Dashboard.hourly (dashboard : Dashboard F) : Series → HourlyData F
  | .solarProduction => dashboard.status.solarProductionHourly
  | .gridImport => dashboard.status.gridImportHourly
  | .gridExport => dashboard.status.gridExportHourly

def DailySummary.hourly (summary : DailySummary F) : Series → HourlyData F
  | .solarProduction => summary.solarProduction
  | .gridImport => summary.gridImport
  | .gridExport => summary.gridExport

/-- The counter an update shows a series: the grid counters are read as they
come, the solar one is the sum with the other source's last payload. -/
def Dashboard.cumulative [Add F] (dashboard : Dashboard F) : Update F → Series → Option F
  | .solar solar, .solarProduction => some (solar.energyToday + dashboard.garageSolar.energyToday)
  | .garageSolar solar, .solarProduction => some (dashboard.solar.energyToday + solar.energyToday)
  | .grid grid, .gridImport => some grid.powerImportToday
  | .grid grid, .gridExport => some grid.powerExportToday
  | _, _ => none

/-- The step an update is for a series, if it is one. -/
def Dashboard.seriesStep [Add F] (dashboard : Dashboard F) (series : Series) (update : Update F)
    (now : Option LocalDateTime) : Option (SeriesStep F) :=
  match update with
  | .dailySummary summary =>
    if now.any fun now => !summary.isFor now then none
    else some (.restored (summary.hourly series) now)
  | update => do
    let now ← now
    let cumulative ← dashboard.cumulative update series
    return .reading cumulative now

namespace HourlyData
variable [Zero F] [BEq F]

def restore (data : HourlyData F) : Option LocalDateTime → HourlyData F
  | some now => data.markRestored now
  | none => data.markRestoredWithoutTime

variable {data : HourlyData F} {now : Option LocalDateTime}

@[simp] theorem restore_starts :
    (data.restore now).valuesAtHourStart = data.valuesAtHourStart := by
  cases now <;> rfl

@[simp] theorem restore_values : (data.restore now).values = data.values := by
  cases now <;> rfl

/-- A restore keeps a baseline only if it is not zero. -/
@[simp] theorem restore_present {hour : Fin 24} :
    (data.restore now).baselinePresent hour = (data.valuesAtHourStart hour != 0) := by
  cases now <;> rfl

@[simp] theorem restore_lastUpdate : (data.restore now).lastUpdate = now := by
  cases now <;> rfl

@[simp] theorem restore_lastValue : (data.restore now).lastValue = none := by
  cases now <;> rfl

end HourlyData

section Steps
variable [Zero F] [Sub F] [Mul F] [NatCast F] [LT F] [DecidableLT F] [BEq F]

def HourlyData.step (data : HourlyData F) : SeriesStep F → HourlyData F
  | .reading cumulative now => data.appendValue cumulative now
  | .restored restored now => restored.restore now

variable [Add F]

/-- Updates applied with a synchronized clock. -/
def Dashboard.applySynced (dashboard : Dashboard F) (events : List (Update F × LocalDateTime)) :
    Dashboard F :=
  dashboard.applyAll (events.map fun event => (event.1, some event.2))

theorem Dashboard.applySynced_cons (dashboard : Dashboard F) (update : Update F) (now : LocalDateTime)
    (events : List (Update F × LocalDateTime)) : dashboard.applySynced ((update, now) :: events) =
      (dashboard.apply update (some now)).applySynced events := rfl

/-- An update acts on each series by its step for that series alone. -/
theorem hourly_apply (dashboard : Dashboard F) (update : Update F) (now : Option LocalDateTime)
    (series : Series) : (dashboard.apply update now).hourly series =
      ((dashboard.seriesStep series update now).map (dashboard.hourly series).step).getD
        (dashboard.hourly series) := by
  cases update with
  | dailySummary summary =>
    simp only [Dashboard.apply, Dashboard.seriesStep]
    split
    · rfl
    · cases series <;> cases now <;> rfl
  | _ => cases series <;> cases now <;> rfl

theorem hourly_of_step {dashboard : Dashboard F} {update : Update F} {now : Option LocalDateTime}
    {series : Series} {event : SeriesStep F}
    (acts : dashboard.seriesStep series update now = some event) :
    (dashboard.apply update now).hourly series = (dashboard.hourly series).step event := by
  simp [hourly_apply, acts]

/-- A counter shown to a series with a synchronized clock is appended to it. -/
theorem hourly_of_reading {dashboard : Dashboard F} {update : Update F} {now : LocalDateTime}
    {series : Series} {cumulative : F} (reads : dashboard.cumulative update series = some cumulative) :
    (dashboard.apply update (some now)).hourly series =
      (dashboard.hourly series).appendValue cumulative now := by
  have acts : dashboard.seriesStep series update (some now) = some (.reading cumulative now) := by
    cases update with
    | dailySummary => cases series <;> cases reads
    | _ => simp [Dashboard.seriesStep, reads]
  exact hourly_of_step acts

theorem hourly_untouched {dashboard : Dashboard F} {update : Update F} {now : Option LocalDateTime}
    {series : Series} (idle : dashboard.seriesStep series update now = none) :
    (dashboard.apply update now).hourly series = dashboard.hourly series := by
  simp [hourly_apply, idle]

/-- A live update appends what it shows to a series, with a synchronized clock. -/
theorem hourly_live {dashboard : Dashboard F} {update : Update F} {now : Option LocalDateTime} {series : Series}
    (live : update.isDailySummary = false) :
    (dashboard.apply update now).hourly series =
      (now.bind fun now => (dashboard.cumulative update series).map fun cumulative =>
        (dashboard.hourly series).appendValue cumulative now).getD (dashboard.hourly series) := by
  rw [hourly_apply]
  cases update with
  | dailySummary => cases live
  | _ =>
    cases now with
    | none => rfl
    | some now => cases series <;> rfl

/-- The cached payloads change with their own kind only, whatever the clock
says; a restore does not reach them. -/
theorem caches_apply (dashboard : Dashboard F) (update : Update F) (now : Option LocalDateTime) :
    (dashboard.apply update now).solar =
        (match update with | .solar solar => solar | _ => dashboard.solar) ∧
      (dashboard.apply update now).garageSolar =
        (match update with | .garageSolar solar => solar | _ => dashboard.garageSolar) := by
  cases update with
  | dailySummary summary =>
    simp only [Dashboard.apply]
    split <;> exact ⟨rfl, rfl⟩
  | _ => cases now <;> exact ⟨rfl, rfl⟩

end Steps

end EnergyDisplay

import EnergyDisplay.Lib.Runs
import Mathlib.Data.Fintype.Pi
import Mathlib.Data.Nat.Cast.Defs
import Mathlib.Logic.Function.Basic

/-! The dashboard model of `crates/dashboard-core/src/model.rs`: the payloads,
the hourly series with their baselines, and `Dashboard::apply`.

`F` stands for `f64`. The source only adds, subtracts, scales and compares, so
the model is written over any type with these operations; results about exact
values take `F := ℚ`. An array indexed by hour is a function on `Fin 24`. -/
namespace EnergyDisplay

structure TemperatureData (F : Type) where
  temperature : F
  humidity : F
  deriving DecidableEq

structure HeatpumpData (F : Type) where
  indoorTemperature : F
  outdoorTemperature : F
  dhwTemperature : F
  deriving DecidableEq

structure SolarData (F : Type) where
  pv1InputPower : F
  pv2InputPower : F
  energyToday : F
  batteryChargePower : F
  batteryDischargePower : F
  batteryStateOfCharge : F
  batteryDischargeEnergyToday : F
  batteryChargeEnergyToday : F
  deriving DecidableEq

structure GarageSolarData (F : Type) where
  pvTotalPower : F
  energyToday : F
  deriving DecidableEq

structure GridData (F : Type) where
  powerImport : F
  powerExport : F
  powerImportToday : F
  powerExportToday : F
  quarterlyPeakCurrent : F
  quarterlyPeakMonth : F
  quarterlyPeakYear : F
  deriving DecidableEq

/-- A local wall-clock reading, to the minute. -/
structure LocalDateTime where
  year : Int
  month : Nat
  day : Nat
  weekday : Nat
  hour : Nat
  minute : Nat
  deriving DecidableEq

/-- `jiff::civil::Date`. -/
structure SummaryDate where
  year : Int
  month : Nat
  day : Nat
  deriving DecidableEq

structure HourlyData (F : Type) where
  valuesAtHourStart : Fin 24 → F
  values : Fin 24 → F
  lastUpdate : Option LocalDateTime
  baselinePresent : Fin 24 → Bool
  lastValue : Option F
  deriving DecidableEq

structure EnergyStatus (F : Type) where
  grid : GridData F
  solarCurrent : F
  solarCurrentHome : F
  solarCurrentGarage : F
  solarToday : F
  batteryPercentage : F
  batteryChargeCurrent : F
  batteryDischargeCurrent : F
  batteryDischargeEnergyToday : F
  batteryChargeEnergyToday : F
  heatpumpRecommend : Bool
  heatpumpForce : Bool
  heatpumpData : HeatpumpData F
  heatpumpPower : Int
  heatpumpPowerBuh : Int
  heatpumpCop : F
  outdoorSensor : TemperatureData F
  solarProductionHourly : HourlyData F
  gridImportHourly : HourlyData F
  gridExportHourly : HourlyData F
  deriving DecidableEq

structure DailySummary (F : Type) where
  date : SummaryDate
  solarProduction : HourlyData F
  gridImport : HourlyData F
  gridExport : HourlyData F
  deriving DecidableEq

inductive Update (F : Type) where
  | heatpump (data : HeatpumpData F)
  | heatpumpPower (power : Int)
  | heatpumpBackupPower (power : Int)
  | heatpumpCop (cop : F)
  | heatpumpRecommend (recommend : Bool)
  | heatpumpForce (force : Bool)
  | outdoorSensor (sensor : TemperatureData F)
  | solar (solar : SolarData F)
  | garageSolar (solar : GarageSolarData F)
  | grid (grid : GridData F)
  | dailySummary (summary : DailySummary F)
  deriving DecidableEq

/-- The status together with the last payload of each solar source. -/
structure Dashboard (F : Type) where
  status : EnergyStatus F
  solar : SolarData F
  garageSolar : GarageSolarData F
  deriving DecidableEq

namespace LocalDateTime

def sameDate (self other : LocalDateTime) : Bool :=
  self.year == other.year && self.month == other.month && self.day == other.day

/-- The array slot of a reading, `usize::from(now.hour.min(23))`. -/
def slot (now : LocalDateTime) : Fin 24 := ⟨min now.hour 23, by omega⟩

/-- `MORNING`, the instant the source's tests use. -/
def morning : LocalDateTime where
  year := 2026
  month := 9
  day := 9
  weekday := 3
  hour := 10
  minute := 15

end LocalDateTime

variable {F : Type} [Zero F]

/-! ## Defaults -/

def TemperatureData.default : TemperatureData F where
  temperature := 0
  humidity := 0

def HeatpumpData.default : HeatpumpData F where
  indoorTemperature := 0
  outdoorTemperature := 0
  dhwTemperature := 0

def SolarData.default : SolarData F where
  pv1InputPower := 0
  pv2InputPower := 0
  energyToday := 0
  batteryChargePower := 0
  batteryDischargePower := 0
  batteryStateOfCharge := 0
  batteryDischargeEnergyToday := 0
  batteryChargeEnergyToday := 0

def GarageSolarData.default : GarageSolarData F where
  pvTotalPower := 0
  energyToday := 0

def GridData.default : GridData F where
  powerImport := 0
  powerExport := 0
  powerImportToday := 0
  powerExportToday := 0
  quarterlyPeakCurrent := 0
  quarterlyPeakMonth := 0
  quarterlyPeakYear := 0

/-- A meter that has counted so much since midnight. -/
def GridData.counting (energyImport energyExport : F) : GridData F :=
  { GridData.default with powerImportToday := energyImport, powerExportToday := energyExport }

def HourlyData.default : HourlyData F where
  valuesAtHourStart := fun _ => 0
  values := fun _ => 0
  lastUpdate := none
  baselinePresent := fun _ => false
  lastValue := none

def EnergyStatus.default : EnergyStatus F where
  grid := .default
  solarCurrent := 0
  solarCurrentHome := 0
  solarCurrentGarage := 0
  solarToday := 0
  batteryPercentage := 0
  batteryChargeCurrent := 0
  batteryDischargeCurrent := 0
  batteryDischargeEnergyToday := 0
  batteryChargeEnergyToday := 0
  heatpumpRecommend := false
  heatpumpForce := false
  heatpumpData := .default
  heatpumpPower := 0
  heatpumpPowerBuh := 0
  heatpumpCop := 0
  outdoorSensor := .default
  solarProductionHourly := .default
  gridImportHourly := .default
  gridExportHourly := .default

def Dashboard.default : Dashboard F where
  status := .default
  solar := .default
  garageSolar := .default

/-! ## The hourly series -/

namespace HourlyData

def setBaseline (self : HourlyData F) (hour : Fin 24) (cumulativeKwh : F) : HourlyData F :=
  { self with
    valuesAtHourStart := Function.update self.valuesAtHourStart hour cumulativeKwh
    values := Function.update self.values hour 0
    baselinePresent := Function.update self.baselinePresent hour true }

/-- The reset a reading of another date starts with. -/
def clearDay (self : HourlyData F) : HourlyData F :=
  { self with
    valuesAtHourStart := fun _ => 0
    values := fun _ => 0
    baselinePresent := fun _ => false
    lastValue := none }

def dateChanged (self : HourlyData F) (now : LocalDateTime) : Bool :=
  self.lastUpdate.any fun previous => !previous.sameDate now

def hourChanged (self : HourlyData F) (now : LocalDateTime) : Bool :=
  self.lastUpdate.any fun previous => previous.hour != now.hour

def appendValue [Sub F] [Mul F] [NatCast F] [LT F] [DecidableLT F]
    (self : HourlyData F) (cumulativeKwh : F) (now : LocalDateTime) : HourlyData F :=
  let hour := now.slot
  let dateChanged := self.dateChanged now
  let data := if dateChanged then self.clearDay else self
  let data :=
    if dateChanged || data.hourChanged now || !data.baselinePresent hour then
      data.setBaseline hour cumulativeKwh
    else
      let baseline := data.valuesAtHourStart hour
      if data.lastValue.any fun previous => cumulativeKwh < previous then
        data.setBaseline hour cumulativeKwh
      else
        { data with
          values := Function.update data.values hour ((cumulativeKwh - baseline) * (1000 : ℕ)) }
  { data with lastUpdate := some now, lastValue := some cumulativeKwh }

def markBaselinesPresent [BEq F] (self : HourlyData F) : HourlyData F :=
  { self with baselinePresent := fun hour => self.valuesAtHourStart hour != 0 }

def markRestored [BEq F] (self : HourlyData F) (now : LocalDateTime) : HourlyData F :=
  { self with lastUpdate := some now, lastValue := none }.markBaselinesPresent

def markRestoredWithoutTime [BEq F] (self : HourlyData F) : HourlyData F :=
  { self with lastUpdate := none, lastValue := none }.markBaselinesPresent

/-- What serialization keeps of a series: `#[serde(skip)]` leaves the other
three fields at their defaults. -/
def skipped (self : HourlyData F) : HourlyData F :=
  { HourlyData.default with
    valuesAtHourStart := self.valuesAtHourStart
    values := self.values }

end HourlyData

/-! ## The dashboard -/

def DailySummary.isFor (self : DailySummary F) (now : LocalDateTime) : Bool :=
  self.date.year == now.year && self.date.month == now.month && self.date.day == now.day

def SolarData.pvTotalPower [Add F] (self : SolarData F) : F :=
  self.pv1InputPower + self.pv2InputPower

/-- `matches!(update, Update::DailySummary(_))`. -/
def Update.isDailySummary : Update F → Bool
  | .dailySummary _ => true
  | _ => false

namespace Dashboard

variable [Add F] [Sub F] [Mul F] [NatCast F] [LT F] [DecidableLT F] [BEq F]

def updateCombinedSolar (self : Dashboard F) (now : Option LocalDateTime) : Dashboard F :=
  let home := self.solar.pvTotalPower
  let garage := self.garageSolar.pvTotalPower
  let today := self.solar.energyToday + self.garageSolar.energyToday
  let status :=
    { self.status with
      solarCurrentHome := home
      solarCurrentGarage := garage
      solarCurrent := home + garage
      solarToday := today }
  match now with
  | some now =>
    { self with
      status :=
        { status with
          solarProductionHourly := status.solarProductionHourly.appendValue today now } }
  | none => { self with status := status }

def apply (self : Dashboard F) (update : Update F) (now : Option LocalDateTime) : Dashboard F :=
  match update with
  | .heatpump data => { self with status := { self.status with heatpumpData := data } }
  | .heatpumpPower power => { self with status := { self.status with heatpumpPower := power } }
  | .heatpumpBackupPower power =>
    { self with status := { self.status with heatpumpPowerBuh := power } }
  | .heatpumpCop cop => { self with status := { self.status with heatpumpCop := cop } }
  | .heatpumpRecommend recommend =>
    { self with status := { self.status with heatpumpRecommend := recommend } }
  | .heatpumpForce force => { self with status := { self.status with heatpumpForce := force } }
  | .outdoorSensor sensor => { self with status := { self.status with outdoorSensor := sensor } }
  | .solar solar =>
    let status :=
      { self.status with
        batteryPercentage := solar.batteryStateOfCharge
        batteryChargeCurrent := solar.batteryChargePower
        batteryDischargeCurrent := solar.batteryDischargePower
        batteryDischargeEnergyToday := solar.batteryDischargeEnergyToday
        batteryChargeEnergyToday := solar.batteryChargeEnergyToday }
    { self with solar := solar, status := status }.updateCombinedSolar now
  | .garageSolar solar => { self with garageSolar := solar }.updateCombinedSolar now
  | .grid grid =>
    let status := { self.status with grid := grid }
    match now with
    | some now =>
      { self with
        status :=
          { status with
            gridExportHourly := status.gridExportHourly.appendValue grid.powerExportToday now
            gridImportHourly := status.gridImportHourly.appendValue grid.powerImportToday now } }
    | none => { self with status := status }
  | .dailySummary summary =>
    if now.any fun now => !summary.isFor now then self
    else
      let mark (data : HourlyData F) :=
        match now with
        | some now => data.markRestored now
        | none => data.markRestoredWithoutTime
      { self with
        status :=
          { self.status with
            solarProductionHourly := mark summary.solarProduction
            gridImportHourly := mark summary.gridImport
            gridExportHourly := mark summary.gridExport } }

/-- An update with the time it is applied at. -/
def step (self : Dashboard F) (event : Update F × Option LocalDateTime) : Dashboard F :=
  self.apply event.1 event.2

/-- A dashboard that is given updates one after the other. -/
def applyAll (self : Dashboard F) (updates : List (Update F × Option LocalDateTime)) : Dashboard F :=
  Runs.run step self updates

@[simp] theorem applyAll_nil (self : Dashboard F) : self.applyAll [] = self := rfl

@[simp] theorem applyAll_cons (self : Dashboard F) (update : Update F × Option LocalDateTime)
    (updates : List (Update F × Option LocalDateTime)) :
    self.applyAll (update :: updates) = (self.apply update.1 update.2).applyAll updates := rfl

@[simp] theorem applyAll_append (self : Dashboard F) (first second : List (Update F × Option LocalDateTime)) :
    self.applyAll (first ++ second) = (self.applyAll first).applyAll second := Runs.run_append first second

end Dashboard

end EnergyDisplay

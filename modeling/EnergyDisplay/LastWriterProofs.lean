import EnergyDisplay.LiveProofs
import Mathlib.Algebra.Order.Ring.Rat

/-! The live fields after any updates are a function of the last update of
each kind. The two solar payloads the dashboard keeps to itself are part of
that function: they are what the sums of both sources are recomputed from. -/
namespace EnergyDisplay

variable {F : Type}

/-- The last update of a kind, whatever the clock said. -/
def lastOf (updates : List (Update F × Option LocalDateTime)) (kind : Kind) : Option (Update F) :=
  ((updates.map Prod.fst).filter fun update => update.kind = kind).getLast?

/-- One more update is the last of its kind, and of no other. -/
theorem lastOf_append (updates : List (Update F × Option LocalDateTime))
    (update : Update F × Option LocalDateTime) :
    lastOf (updates ++ [update]) =
      Function.update (lastOf updates) update.1.kind (some update.1) := by
  funext kind
  by_cases same : update.1.kind = kind
  · subst same
    simp [lastOf]
  · simp [lastOf, Function.update_of_ne (Ne.symm same), same]

variable [Zero F]

/-- The last payload of each kind, the default where there was none. -/
structure LastPayloads (F : Type) where
  heatpump : HeatpumpData F
  heatpumpPower : Int
  heatpumpBackupPower : Int
  heatpumpCop : F
  heatpumpRecommend : Bool
  heatpumpForce : Bool
  outdoorSensor : TemperatureData F
  solar : SolarData F
  garageSolar : GarageSolarData F
  grid : GridData F

/-- The payloads of one chosen update for each kind. -/
def lastPayloads (last : Kind → Option (Update F)) : LastPayloads F where
  heatpump := match last .heatpump with | some (.heatpump data) => data | _ => .default
  heatpumpPower := match last .heatpumpPower with | some (.heatpumpPower power) => power | _ => 0
  heatpumpBackupPower :=
    match last .heatpumpBackupPower with | some (.heatpumpBackupPower power) => power | _ => 0
  heatpumpCop := match last .heatpumpCop with | some (.heatpumpCop cop) => cop | _ => 0
  heatpumpRecommend :=
    match last .heatpumpRecommend with | some (.heatpumpRecommend recommend) => recommend | _ => false
  heatpumpForce := match last .heatpumpForce with | some (.heatpumpForce force) => force | _ => false
  outdoorSensor :=
    match last .outdoorSensor with | some (.outdoorSensor sensor) => sensor | _ => .default
  solar := match last .solar with | some (.solar solar) => solar | _ => .default
  garageSolar := match last .garageSolar with | some (.garageSolar solar) => solar | _ => .default
  grid := match last .grid with | some (.grid grid) => grid | _ => .default

namespace LastPayloads

variable [Add F]

/-- What the live fields show of the last payloads. -/
def liveStatus (last : LastPayloads F) : EnergyStatus F where
  grid := last.grid
  solarCurrent :=
    (last.solar.pv1InputPower + last.solar.pv2InputPower) + last.garageSolar.pvTotalPower
  solarCurrentHome := last.solar.pv1InputPower + last.solar.pv2InputPower
  solarCurrentGarage := last.garageSolar.pvTotalPower
  solarToday := last.solar.energyToday + last.garageSolar.energyToday
  batteryPercentage := last.solar.batteryStateOfCharge
  batteryChargeCurrent := last.solar.batteryChargePower
  batteryDischargeCurrent := last.solar.batteryDischargePower
  batteryDischargeEnergyToday := last.solar.batteryDischargeEnergyToday
  batteryChargeEnergyToday := last.solar.batteryChargeEnergyToday
  heatpumpRecommend := last.heatpumpRecommend
  heatpumpForce := last.heatpumpForce
  heatpumpData := last.heatpump
  heatpumpPower := last.heatpumpPower
  heatpumpPowerBuh := last.heatpumpBackupPower
  heatpumpCop := last.heatpumpCop
  outdoorSensor := last.outdoorSensor
  solarProductionHourly := .default
  gridImportHourly := .default
  gridExportHourly := .default

/-- The dashboard these payloads leave behind, its two caches included. -/
def dashboard (last : LastPayloads F) : Dashboard F where
  status := last.liveStatus
  solar := last.solar
  garageSolar := last.garageSolar

end LastPayloads

namespace Dashboard

variable [Add F] [Sub F] [Mul F] [NatCast F] [LT F] [DecidableLT F] [BEq F]

/-- Step lemma: an update takes the place of the last one of its kind. -/
theorem writeLive_lastPayloads (last : Kind → Option (Update F)) (update : Update F) :
    (lastPayloads last).dashboard.writeLive update =
      (lastPayloads (Function.update last update.kind (some update))).dashboard := by
  cases update <;> simp [lastPayloads, Function.update, Update.kind] <;> rfl

/-- Run lemma: caches and live fields show the last payloads. -/
theorem live_lastPayloads (zero : (0 : F) + 0 = 0) (updates : List (Update F × Option LocalDateTime)) :
    ((Dashboard.default : Dashboard F).applyAll updates).live =
      (lastPayloads (lastOf updates)).dashboard := by
  induction updates using List.reverseRecOn with
  | nil =>
    simp [live, liveStatus, lastPayloads, lastOf, LastPayloads.dashboard,
      LastPayloads.liveStatus, Dashboard.default, EnergyStatus.default, SolarData.default,
      GarageSolarData.default, zero]
  | append_singleton updates update ih =>
    have stepped : (Dashboard.default.applyAll (updates ++ [update])).live =
        ((Dashboard.default.applyAll updates).apply update.1 update.2).live := by
      simp
    rw [stepped, live_apply, ih, writeLive_lastPayloads, lastOf_append]

/-- **Live fields are last-writer-wins per kind.** After any updates with any
timestamps the live fields show the last payload of each kind; so they agree
for any two sequences with the same last update of each kind that has live
fields, and a daily summary never changes them. The source starts from
`0.0 + 0.0`, which has to be its default `0.0`. -/
theorem live_fields_last_writer_wins (zero : (0 : F) + 0 = 0) :
    (∀ updates : List (Update F × Option LocalDateTime),
        (Dashboard.default.applyAll updates).liveStatus =
          (lastPayloads (lastOf updates)).liveStatus) ∧
      (∀ first second : List (Update F × Option LocalDateTime),
        (∀ kind, kind ≠ .dailySummary → lastOf first kind = lastOf second kind) →
          (Dashboard.default.applyAll first).liveStatus =
            (Dashboard.default.applyAll second).liveStatus) ∧
      ∀ (dashboard : Dashboard F) (summary : DailySummary F) (now : Option LocalDateTime),
        (dashboard.apply (.dailySummary summary) now).liveStatus = dashboard.liveStatus := by
  have shows : ∀ updates : List (Update F × Option LocalDateTime),
      (Dashboard.default.applyAll updates).liveStatus =
        (lastPayloads (lastOf updates)).liveStatus := fun updates =>
    congrArg Dashboard.status (live_lastPayloads zero updates)
  refine ⟨shows, fun first second agree => ?_, fun dashboard summary now => ?_⟩
  · rw [shows first, shows second]
    simp [lastPayloads, agree]
  · have kept := (live_apply dashboard (.dailySummary summary) now).trans
      (writeLive_summary dashboard rfl)
    exact congrArg Dashboard.status kept

/-- Two sequences of different lengths and clocks that end in the same payloads. -/
theorem rational_live_fields_last_writer_wins :
    let solar : Update ℚ := .solar { SolarData.default with pv1InputPower := 40, energyToday := 3 }
    let garage : Update ℚ := .garageSolar ⟨15, 2⟩
    let first := [(.solar .default, some .morning), (garage, none), (solar, some .morning)]
    let second := [(solar, none), (garage, some .morning)]
    (Dashboard.default.applyAll first).liveStatus = (Dashboard.default.applyAll second).liveStatus ∧
      (Dashboard.default.applyAll second).liveStatus.solarCurrent = 55 := by
  intro solar garage first second
  refine ⟨(live_fields_last_writer_wins (zero_add 0)).2.1 first second fun kind _ => ?_, ?_⟩
  · cases kind <;> rfl
  · rw [(live_fields_last_writer_wins (zero_add 0)).1 second]
    decide +kernel

end Dashboard

end EnergyDisplay

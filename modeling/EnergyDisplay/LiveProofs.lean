import EnergyDisplay.Lib.Overwrite
import EnergyDisplay.Tasks

/-! The live fields of the status, everything but the hourly series. An update
writes the fields of its kind whatever the clock says, and hides the last
update of that kind. -/
namespace EnergyDisplay

variable {F : Type}

/-- The kinds of updates; each has its own part of the status. -/
inductive Kind where
  | heatpump
  | heatpumpPower
  | heatpumpBackupPower
  | heatpumpCop
  | heatpumpRecommend
  | heatpumpForce
  | outdoorSensor
  | solar
  | garageSolar
  | grid
  | dailySummary
  deriving DecidableEq

def Update.kind : Update F → Kind
  | .heatpump _ => .heatpump
  | .heatpumpPower _ => .heatpumpPower
  | .heatpumpBackupPower _ => .heatpumpBackupPower
  | .heatpumpCop _ => .heatpumpCop
  | .heatpumpRecommend _ => .heatpumpRecommend
  | .heatpumpForce _ => .heatpumpForce
  | .outdoorSensor _ => .outdoorSensor
  | .solar _ => .solar
  | .garageSolar _ => .garageSolar
  | .grid _ => .grid
  | .dailySummary _ => .dailySummary

namespace Dashboard

variable [Zero F]

/-- The status without its hourly series. -/
def liveStatus (dashboard : Dashboard F) : EnergyStatus F :=
  { dashboard.status with
    solarProductionHourly := .default
    gridImportHourly := .default
    gridExportHourly := .default }

/-- The dashboard without its hourly series. -/
def live (dashboard : Dashboard F) : Dashboard F := { dashboard with status := dashboard.liveStatus }

variable [Add F] [Sub F] [Mul F] [NatCast F] [LT F] [DecidableLT F] [BEq F]

/-- What an update does to the live fields. -/
def writeLive (dashboard : Dashboard F) (update : Update F) : Dashboard F :=
  (dashboard.apply update none).live

/-- Neither the clock nor the hourly series matter to the live fields. -/
theorem live_apply (dashboard : Dashboard F) (update : Update F) (now : Option LocalDateTime) :
    (dashboard.apply update now).live = dashboard.live.writeLive update := by
  cases update with
  | dailySummary summary =>
    simp only [apply, writeLive]
    split <;> rfl
  | _ => cases now <;> rfl

theorem live_applyAll (dashboard : Dashboard F) (updates : List (Update F × Option LocalDateTime)) :
    (dashboard.applyAll updates).live = (updates.map Prod.fst).foldl writeLive dashboard.live := by
  induction updates generalizing dashboard with
  | nil => rfl
  | cons update rest ih =>
    refine (ih (dashboard.apply update.1 update.2)).trans ?_
    rw [live_apply, List.map_cons, List.foldl_cons]

theorem writeLive_summary (dashboard : Dashboard F) {update : Update F}
    (summary : update.isDailySummary = true) : dashboard.live.writeLive update = dashboard.live := by
  cases update with
  | dailySummary => rfl
  | _ => cases summary

/-- The kinds do not interfere: even the two solar sources only meet in sums
that either recomputes from both. -/
theorem writeLive_overwrites : Overwrites (writeLive (F := F)) Update.kind where
  commute := by
    intro dashboard first second different
    cases first <;> cases second <;> first | exact absurd rfl different | rfl
  absorb := by
    intro dashboard first second same
    cases first <;> cases second <;> first | contradiction | rfl

end Dashboard

end EnergyDisplay

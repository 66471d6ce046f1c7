import EnergyDisplay.Clock
import EnergyDisplay.SeriesProjection
import EnergyDisplay.Tasks
import Mathlib.Algebra.Order.Ring.Rat

/-! The device and the broker that retains its summary, through lost connections
and reboots. A publication travels for a while after the call that sent it, and
may still arrive when that call has failed or the device has restarted; what has
not arrived when the next connection is made never does. -/
namespace EnergyDisplay

open Mqtt

/-- The payload of a publication, read back: the date is that of its timestamp in
UTC, and serialization has kept two arrays of each series. -/
def Mqtt.SummarySnapshot.summary {F : Type} [Zero F] (snapshot : SummarySnapshot F) : DailySummary F where
  date := snapshot.timestamp.utcDate
  solarProduction := snapshot.solarProduction.skipped
  gridImport := snapshot.gridImport.skipped
  gridExport := snapshot.gridExport.skipped

/-- The meter an update shows. The solar counter is no meter: it is the sum with
what the other inverter said last. -/
def Update.meter {F : Type} : Update F → Series → Option F
  | .grid data, .gridImport => some data.powerImportToday
  | .grid data, .gridExport => some data.powerExportToday
  | _, _ => none

structure Household where
  device : Tasks ℚ
  /-- The summary that the broker retains. -/
  retained : Option (DailySummary ℚ)
  /-- The publications of this connection that have not arrived, oldest first. -/
  inFlight : List (SummarySnapshot ℚ)
  /-- History: what the meters showed last. -/
  meters : Series → ℚ
  /-- History: the hour of the last wake-up of the display task. -/
  hour : ℕ

namespace Household

inductive Event where
  | device (event : EnergyDisplay.Event ℚ)
  /-- The broker sends what it retains. -/
  | delivers
  /-- The oldest publication on its way arrives. -/
  | stores
  | reboots

/-- Power-on. -/
def boot (retained : Option (DailySummary ℚ)) : Household where
  device := .boot
  retained := retained
  inFlight := []
  meters := fun _ => 0
  hour := 0

/-- What a new connection leaves on its way. -/
def connected (house : Household) (event : EnergyDisplay.Event ℚ) : List (SummarySnapshot ℚ) :=
  match house.device.phase, event with
  | .offline, .connects => []
  | _, _ => house.inFlight

def metersAfter (house : Household) (event : EnergyDisplay.Event ℚ) (series : Series) : ℚ :=
  match event with
  | .receives update => (update.meter series).getD (house.meters series)
  | _ => house.meters series

def hourAfter (house : Household) (event : EnergyDisplay.Event ℚ) (clock : Clock) : ℕ :=
  match event, clock.now with
  | .displays, some now => now.hour
  | _, _ => house.hour

def step (house : Household) (event : Event × Clock) : Household :=
  match event.1 with
  | .device happens =>
    let device := house.device.step (happens, event.2)
    { device := device
      retained := house.retained
      inFlight := house.connected happens ++
        (device.calls.drop house.device.calls.length).map PublishCall.snapshot
      meters := house.metersAfter happens
      hour := house.hourAfter happens event.2 }
  | .delivers =>
    match house.retained with
    | some summary =>
      { house with device := house.device.step (.receives (.dailySummary summary), event.2) }
    | none => house
  | .stores =>
    match house.inFlight with
    | snapshot :: rest => { house with retained := some snapshot.summary, inFlight := rest }
    | [] => house
  | .reboots => { house with device := .boot }

/-- A clock reading on the date, and not in the hours after midnight in which UTC
is still at the day before. -/
def FallsOn (date : SummaryDate) (now : LocalDateTime) : Prop :=
  date.year = now.year ∧ date.month = now.month ∧ date.day = now.day ∧ now.hour < 24

/-- In the hour a reading is counted from a baseline of zero, which a restore takes for
a missing one. -/
def countsFromZero (series : Series) (hour : Fin 24) (dashboard : Dashboard ℚ)
    (event : Update ℚ × Option LocalDateTime) : Bool :=
  (event.1.meter series).any (0 < ·) && event.2.any (·.slot = hour) &&
    (dashboard.hourly series).baselinePresent hour && (dashboard.hourly series).valuesAtHourStart hour == 0

/-- None of the updates is counted so. -/
def FromBaselines (series : Series) (hour : Fin 24) (now : Option LocalDateTime) (dashboard : Dashboard ℚ)
    (updates : List (Update ℚ)) : Prop :=
  Runs.StepsMeet Dashboard.step (fun dashboard event => countsFromZero series hour dashboard event = false)
    dashboard (updates.map fun update => (update, now))

instance (series : Series) (hour : Fin 24) (now : Option LocalDateTime) (dashboard : Dashboard ℚ)
    (updates : List (Update ℚ)) : Decidable (FromBaselines series hour now dashboard updates) :=
  Runs.decidableStepsMeet _ _ _ _

/-- A step on a day that is ordinary for a series and an hour of it: when it matters the
clock is synchronized and on the date, hours do not go back; the meter does not go back,
and in the hour it is not counted from zero; the broker retains nothing but the device's
own publications, and sends what it retains for the date before the restore times out. -/
structure Ordinary (date : SummaryDate) (series : Series) (hour : Fin 24) (house : Household)
    (event : Event × Clock) : Prop where
  clock : event.1 = .device .displays ∨ event.1 = .delivers → ∃ now timestamp, event.2.now = some now ∧
    event.2.utcNow = some timestamp ∧ FallsOn date now ∧ timestamp.utcDate = date
  forward : event.1 = .device .displays → ∀ now, event.2.now = some now → house.hour ≤ now.hour
  grows : ∀ update, event.1 = .device (.receives update) → ∀ reading,
    update.meter series = some reading → house.meters series ≤ reading
  baselines : event.1 = .device .displays →
    FromBaselines series hour event.2.now house.device.dashboard house.device.updates.items
  broker : ∀ update, event.1 = .device (.receives update) → update.isDailySummary = false
  restores : event.1 = .device .restoreTimesOut → ∀ summary, house.retained = some summary →
    summary.date ≠ date

end Household

end EnergyDisplay

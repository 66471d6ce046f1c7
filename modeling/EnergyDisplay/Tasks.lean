import EnergyDisplay.Lib.Runs
import EnergyDisplay.Mqtt

/-! The MQTT task (`run` and `run_session` of `mqtt.rs`) and the display task
(`main.rs`) as one machine. Tasks are cooperative, so everything between two
awaits is one step, and the steps of the two tasks interleave at the awaits.

An event names the step taken and what the environment answers in it; an event
that the MQTT task is not waiting for changes nothing. Every event comes with
the clock at that moment. -/
namespace EnergyDisplay

open Mqtt

/-- Where the MQTT task waits. -/
inductive Phase (F : Type) where
  | offline
  | restoring
  | unsubscribing (awaitSnapshot : Bool)
  | serving (awaitingRestoredSnapshot : Bool)
  | publishing (summary : SummaryUpdate F)
  | toggling (awaitingRestoredSnapshot : Bool)
  deriving DecidableEq

structure Tasks (F : Type) where
  dashboard : Dashboard F
  updates : Updates F
  publications : SummaryPublications F
  commands : OvenplaatDimmerCommands
  lastSummaryUpdate : Option Timestamp
  outboundPublishes : Option OutboundPublish
  phase : Phase F
  /-- History: the updates the dashboard was given, oldest first. -/
  applied : List (Update F × Option LocalDateTime)
  /-- History: the client's publishing calls for summaries, oldest first. -/
  calls : List (PublishCall F)
  /-- History: the snapshots whose call returned without an error. -/
  published : List (SummarySnapshot F)

inductive Event (F : Type) where
  /-- The broker accepted the connection; `run_session` starts. -/
  | connects
  /-- A publication of the broker was polled and decoded. -/
  | receives (update : Update F)
  | restoreTimesOut
  | unsubscribes
  /-- The main loop takes the queued summary. `encodes` says whether it can be
  written out, `packetIdentifier` is the one the client picks. -/
  | takesSummary (encodes : Bool) (packetIdentifier : ℕ)
  | takesToggle (packetIdentifier : ℕ)
  | callReturns
  /-- An await of the session ends in an error. -/
  | fails
  /-- The broker acknowledges the tracked publication. -/
  | acknowledges
  | pressesButton
  /-- The display task wakes up and drains the queue. -/
  | displays
  deriving DecidableEq

/-- A summary the display task takes for one of today. -/
def Update.isCurrentSummary {F : Type} (update : Update F) (now : Option LocalDateTime) : Bool :=
  match update with
  | .dailySummary summary => now.all summary.isFor
  | _ => false

namespace Tasks

variable {F : Type} [Zero F] [Add F] [Sub F] [Mul F] [NatCast F] [LT F] [DecidableLT F] [BEq F]

/-! ## The display task -/

/-- What one wake-up of the display task has collected. -/
structure Batch (F : Type) where
  dashboard : Dashboard F
  nonSummaryUpdate : Bool
  summaryReceived : Bool

def Batch.take (batch : Batch F) (update : Update F) (now : Option LocalDateTime) : Batch F where
  dashboard := batch.dashboard.apply update now
  nonSummaryUpdate := batch.nonSummaryUpdate || !update.isDailySummary
  summaryReceived := batch.summaryReceived || update.isCurrentSummary now

/-- No other task runs while the queue is drained, so the loop receives
exactly what is queued. -/
def Batch.drain (dashboard : Dashboard F) (updates : List (Update F)) (now : Option LocalDateTime) :
    Batch F :=
  updates.foldl (fun batch update => batch.take update now)
    { dashboard := dashboard, nonSummaryUpdate := false, summaryReceived := false }

/-- The snapshot a wake-up hands to the MQTT task. -/
def snapshot (tasks : Tasks F) (timestamp : Timestamp) : SummarySnapshot F where
  timestamp := timestamp
  gridImport := tasks.dashboard.status.gridImportHourly
  gridExport := tasks.dashboard.status.gridExportHourly
  solarProduction := tasks.dashboard.status.solarProductionHourly
  applied := tasks.applied

/-- One wake-up: the display task waits for a first update. -/
def displayBatch (tasks : Tasks F) (clock : Clock) : Tasks F :=
  if tasks.updates.items.isEmpty then tasks
  else
    let batch := Batch.drain tasks.dashboard tasks.updates.items clock.now
    let applied := tasks.updates.items.map fun update => (update, clock.now)
    let tasks :=
      { tasks with
        dashboard := batch.dashboard
        updates := .empty
        applied := tasks.applied ++ applied }
    match clock.utcNow with
    | some timestamp =>
      if batch.nonSummaryUpdate || batch.summaryReceived then
        { tasks with
          publications := queueSummaryUpdate tasks.publications
            { snapshot := tasks.snapshot timestamp
              summaryReceivedAt := if batch.summaryReceived then some timestamp else none } }
      else tasks
    | none => tasks

/-! ## The MQTT task -/

/-- The session ends; what the failed step held goes back to its queue. -/
def fail (tasks : Tasks F) : Tasks F :=
  match tasks.phase with
  | .publishing summary =>
    { tasks with
      phase := .offline
      publications := queueSummaryUpdate tasks.publications summary }
  | .toggling _ =>
    { tasks with
      phase := .offline
      commands := queueOvenplaatDimmerToggle tasks.commands }
  | _ => { tasks with phase := .offline }

def receive (tasks : Tasks F) (update : Update F) (clock : Clock) : Tasks F :=
  match tasks.phase with
  | .restoring =>
    let (updates, publications, observation) :=
      queueIncomingUpdate tasks.updates tasks.publications update clock
    { tasks with
      updates := updates
      publications := publications
      phase := if observation.seen then .unsubscribing observation.awaitSnapshot else .restoring }
  | .serving _ =>
    -- A summary that arrives after the restore is ignored.
    if update.isDailySummary then tasks
    else { tasks with updates := queueUpdate tasks.updates update }
  | _ => tasks

def takeSummary (tasks : Tasks F) (encodes : Bool) (packetIdentifier : ℕ) : Tasks F :=
  match tasks.phase with
  | .serving awaiting =>
    match tasks.publications.tryReceive with
    | none => tasks
    | some (summary, publications) =>
      let tasks := { tasks with publications := publications }
      let (ready, awaiting) := summaryReadyToPublish awaiting summary
      if !ready then { tasks with phase := .serving awaiting }
      else
        let (lastSummaryUpdate, call) := publishSummaryIfNeeded summary tasks.lastSummaryUpdate
          encodes tasks.outboundPublishes
        let tasks := { tasks with lastSummaryUpdate := lastSummaryUpdate }
        match call with
        | none => { tasks with phase := .serving awaiting }
        | some call =>
          { tasks with
            phase := .publishing summary
            calls := tasks.calls ++ [call]
            outboundPublishes := tasks.outboundPublishes.or
              (some { packetIdentifier := packetIdentifier, topic := .summary }) }
  | _ => tasks

/-- The client refuses to publish while another publication is tracked. -/
def takeToggle (tasks : Tasks F) (packetIdentifier : ℕ) : Tasks F :=
  match tasks.phase with
  | .serving awaiting =>
    match tasks.commands.tryReceive with
    | none => tasks
    | some ((), commands) =>
      let tasks := { tasks with commands := commands, phase := .toggling awaiting }
      match tasks.outboundPublishes with
      | some _ => tasks.fail
      | none =>
        { tasks with
          outboundPublishes := some
            { packetIdentifier := packetIdentifier, topic := .ovenplaatDimmer } }
  | _ => tasks

/-- The awaited call of the client returns without an error. -/
def callReturn (tasks : Tasks F) : Tasks F :=
  match tasks.phase with
  | .publishing summary =>
    { tasks with
      phase := .serving false
      lastSummaryUpdate := some summary.snapshot.timestamp
      published := tasks.published ++ [summary.snapshot] }
  | .toggling awaiting => { tasks with phase := .serving awaiting }
  | _ => tasks

def step (tasks : Tasks F) (event : Event F × Clock) : Tasks F :=
  match event.1 with
  | .connects =>
    match tasks.phase with
    | .offline =>
      { tasks with
        phase := .restoring
        publications := clearSummaryPublications tasks.publications }
    | _ => tasks
  | .receives update => tasks.receive update event.2
  | .restoreTimesOut =>
    match tasks.phase with
    | .restoring => { tasks with phase := .unsubscribing RestoreObservation.default.awaitSnapshot }
    | _ => tasks
  | .unsubscribes =>
    match tasks.phase with
    | .unsubscribing awaiting =>
      { tasks with
        phase := .serving awaiting
        publications :=
          if awaiting then tasks.publications else clearSummaryPublications tasks.publications }
    | _ => tasks
  | .takesSummary encodes packetIdentifier => tasks.takeSummary encodes packetIdentifier
  | .takesToggle packetIdentifier => tasks.takeToggle packetIdentifier
  | .callReturns => tasks.callReturn
  | .fails => tasks.fail
  | .acknowledges =>
    -- Acknowledgements are polled with the broker's other packets.
    match tasks.phase with
    | .restoring | .serving _ => { tasks with outboundPublishes := none }
    | _ => tasks
  | .pressesButton => { tasks with commands := queueOvenplaatDimmerToggle tasks.commands }
  | .displays => tasks.displayBatch event.2

/-- Power-on. -/
def boot : Tasks F where
  dashboard := .default
  updates := .empty
  publications := .empty
  commands := .empty
  lastSummaryUpdate := none
  outboundPublishes := none
  phase := .offline
  applied := []
  calls := []
  published := []

end Tasks

end EnergyDisplay

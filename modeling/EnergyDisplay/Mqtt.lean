import EnergyDisplay.Lib.Channel
import EnergyDisplay.Model

/-! The functions of `firmware/src/tasks/mqtt.rs` that decide what is queued,
restored and published. The broker and `rust-mqtt` stay outside: what they
answer arrives as an argument here, or as an event of the task model. -/
namespace EnergyDisplay

/-- `jiff::Timestamp`: nanoseconds since the Unix epoch. -/
structure Timestamp where
  nanoseconds : Int
  deriving DecidableEq

namespace Timestamp

/-- The UTC date, as the number of days since the epoch. -/
def utcDay (timestamp : Timestamp) : Int := timestamp.nanoseconds / 86400000000000

def utcHour (timestamp : Timestamp) : Int := timestamp.nanoseconds % 86400000000000 / 3600000000000

end Timestamp

namespace Mqtt

def updateQueueDepth : ℕ := 8

def ovenplaatDimmerCommandQueueDepth : ℕ := 8

def summaryPublicationQueueDepth : ℕ := 1

variable {F : Type}

structure SummarySnapshot (F : Type) where
  timestamp : Timestamp
  gridImport : HourlyData F
  gridExport : HourlyData F
  solarProduction : HourlyData F
  /-- History, not a field of the source and read by no function: what the
  dashboard had been given when the snapshot was taken. -/
  applied : List (Update F × Option LocalDateTime)
  deriving DecidableEq

structure SummaryUpdate (F : Type) where
  snapshot : SummarySnapshot F
  /-- When a summary of the current day was received. It advances the
  publication watermark without echoing the retained payload. -/
  summaryReceivedAt : Option Timestamp
  deriving DecidableEq

abbrev Updates (F : Type) := Channel (Update F) updateQueueDepth

abbrev SummaryPublications (F : Type) := Channel (SummaryUpdate F) summaryPublicationQueueDepth

abbrev OvenplaatDimmerCommands := Channel Unit ovenplaatDimmerCommandQueueDepth

/-- A clock that is unsynchronized reads `none`. -/
structure Clock where
  now : Option LocalDateTime
  utcNow : Option Timestamp
  deriving DecidableEq

structure RestoreObservation where
  seen : Bool
  awaitSnapshot : Bool
  deriving DecidableEq

def RestoreObservation.default : RestoreObservation where
  seen := false
  awaitSnapshot := false

def queueOvenplaatDimmerToggle (commands : OvenplaatDimmerCommands) : OvenplaatDimmerCommands :=
  (commands.trySend ()).getD commands

/-- The display only needs the latest snapshot: the oldest queued update makes
room for a new one. -/
def queueUpdate (updates : Updates F) (update : Update F) : Updates F :=
  updates.sendReplacingOldest update

def clearSummaryPublications (_ : SummaryPublications F) : SummaryPublications F := .empty

/-- The queues after an update of the restore phase, and what it was. -/
def queueIncomingUpdate (updates : Updates F) (publications : SummaryPublications F)
    (update : Update F) (clock : Clock) :
    Updates F × SummaryPublications F × RestoreObservation :=
  match update with
  | .dailySummary summary =>
    let current := clock.now.all summary.isFor
    (queueUpdate updates update, clearSummaryPublications publications,
      { seen := true, awaitSnapshot := current && clock.utcNow.isSome })
  | _ => (queueUpdate updates update, publications, .default)

/-- Whether the summary may be published, and the guard after the test. -/
def summaryReadyToPublish (awaitingRestore : Bool) (update : SummaryUpdate F) : Bool × Bool :=
  if awaitingRestore && update.summaryReceivedAt.isNone then (false, awaitingRestore)
  else (true, false)

/-- A newer snapshot replaces the queued one and keeps its watermark, unless
it brings its own. -/
def queueSummaryUpdate (publications : SummaryPublications F) (update : SummaryUpdate F) :
    SummaryPublications F :=
  match publications.trySend update with
  | some sent => sent
  | none =>
    match publications.tryReceive with
    | some (previous, room) =>
      let update :=
        if update.summaryReceivedAt.isNone then
          { update with summaryReceivedAt := previous.summaryReceivedAt }
        else update
      (room.trySend update).getD room
    | none => (publications.trySend update).getD publications

def sameUtcHour (left right : Timestamp) : Bool :=
  left.utcDay == right.utcDay && left.utcHour == right.utcHour

/-- What a publication still waiting for its acknowledgement was about. -/
inductive Topic where
  | summary
  | ovenplaatDimmer
  deriving DecidableEq

/-- An entry of the session's `outbound_publishes`. -/
structure OutboundPublish where
  packetIdentifier : ℕ
  topic : Topic
  deriving DecidableEq

/-- A call of the MQTT client that publishes. -/
inductive PublishCall (F : Type) where
  | publish (snapshot : SummarySnapshot F)
  | republish (packetIdentifier : ℕ) (snapshot : SummarySnapshot F)
  deriving DecidableEq

def PublishCall.snapshot : PublishCall F → SummarySnapshot F
  | .publish snapshot => snapshot
  | .republish _ snapshot => snapshot

/-- The part of `publish_summary_if_needed` before the call of the client: the
watermark, and the call unless none is made. `encodes` says whether timestamp
and payload can be formatted. -/
def publishSummaryIfNeeded (update : SummaryUpdate F) (lastSummaryUpdate : Option Timestamp)
    (encodes : Bool) (outboundPublishes : Option OutboundPublish) :
    Option Timestamp × Option (PublishCall F) :=
  let snapshot := update.snapshot
  let lastSummaryUpdate := update.summaryReceivedAt.or lastSummaryUpdate
  if lastSummaryUpdate.any fun previous => sameUtcHour previous snapshot.timestamp then
    (lastSummaryUpdate, none)
  else if !encodes then (lastSummaryUpdate, none)
  else
    match outboundPublishes with
    | some pending => (lastSummaryUpdate, some (.republish pending.packetIdentifier snapshot))
    | none => (lastSummaryUpdate, some (.publish snapshot))

end Mqtt

end EnergyDisplay

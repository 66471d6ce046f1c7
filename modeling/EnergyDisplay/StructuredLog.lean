import EnergyDisplay.Lib.Channel
import EnergyDisplay.Logging
import Mathlib.Data.UInt

/-! The queue of structured records in `firmware/src/logging.rs` and the task
that forwards them, `firmware/src/tasks/structured_log.rs`. The socket and the
server are outside: how an attempt ends is given with it. What goes to serial is
history. -/
namespace EnergyDisplay.StructuredLog

open Logging

def structuredLogQueueCapacity : ℕ := 1

def victoriaBodyCapacity : ℕ := 1600

structure StructuredLogMessage where
  json : HeaplessString structuredLogMessageCapacity
  persistedPanic : Bool

/-- `STRUCTURED_LOG_QUEUE` and `STRUCTURED_LOG_DROPPED`. -/
structure Queue where
  pending : Channel StructuredLogMessage structuredLogQueueCapacity
  dropped : UInt32

namespace Queue

def empty : Queue := ⟨.empty, 0⟩

def enqueueStructuredRecord (queue : Queue) (record : Record) (persistedPanic : Bool) : Queue :=
  match queue.pending.trySend ⟨formatStructuredLogMessage record, persistedPanic⟩ with
  | some pending => { queue with pending := pending }
  | none => { queue with dropped := queue.dropped + 1 }

def enqueueStructured (queue : Queue) (record : Record) : Queue := queue.enqueueStructuredRecord record false

def reportPreviousPanic (queue : Queue) (message : List Char) : Queue :=
  queue.enqueueStructuredRecord (previousPanic message) true

end Queue

/-- `level as usize`: the more severe the less. -/
def levelRank : Level → ℕ
  | .error => 1
  | .warn => 2
  | .info => 3
  | .debug => 4
  | .trace => 5

/-- `FanoutLogger::enabled`. -/
def enabled (level : Level) : Bool := decide (levelRank level ≤ levelRank .info)

/-- A record is kept for the server. -/
def structured (record : Record) : Bool :=
  enabled record.level && decide (levelRank record.level ≤ levelRank .warn)

/-- `FanoutLogger::log`. -/
def Queue.log (queue : Queue) (record : Record) : Queue :=
  if structured record then queue.enqueueStructured record else queue

/-! ## The forwarder -/

/-- How an attempt to post a body ends. -/
inductive Attempt where
  | notConnected
  | notAnswered
  | answered (status : ℕ)

def Attempt.accepted : Attempt → Bool
  | .answered status => decide (status < 300)
  | _ => false

/-- Where `task` waits; it stops where an `expect` does. -/
inductive Forwarding where
  | receiving
  | sending (message : StructuredLogMessage)
  | pausing (message : StructuredLogMessage)
  | stopped

/-- What `serial_only` prints. -/
inductive Diagnostic where
  | failed
  | restored
  | notCleared
  deriving DecidableEq

structure Forwarder where
  state : Forwarding
  failed : Bool
  serial : List Diagnostic

/-- `writeln!(body, "{}", message)`, and whether it fits. -/
def body (message : StructuredLogMessage) : HeaplessString victoriaBodyCapacity × Bool :=
  HeaplessString.writePieces .empty [message.json.items, ['\n']]

namespace Forwarder

def initial : Forwarder := ⟨.receiving, false, []⟩

/-- The message between `receive` and the end of the inner loop. -/
def inHand (forwarder : Forwarder) : Option StructuredLogMessage :=
  match forwarder.state with
  | .sending message => some message
  | .pausing message => some message
  | _ => none

def receive (forwarder : Forwarder) (message : StructuredLogMessage) : Forwarder :=
  { forwarder with state := .sending message }

/-- The body does not fit. -/
def stop (forwarder : Forwarder) : Forwarder := { forwarder with state := .stopped }

/-- The branch `Ok(())`; `cleared` tells what became of the record of a panic. -/
def succeed (forwarder : Forwarder) (cleared : Bool) : Forwarder where
  state := .receiving
  failed := false
  serial := forwarder.serial ++ (if forwarder.failed then [.restored] else []) ++
    if cleared then [] else [.notCleared]

/-- The branch `Err(())` up to the pause. -/
def fail (forwarder : Forwarder) (message : StructuredLogMessage) : Forwarder where
  state := .pausing message
  failed := true
  serial := forwarder.serial ++ if forwarder.failed then [] else [.failed]

/-- Behind the pause: only the report of a panic is sent again. -/
def resume (forwarder : Forwarder) (message : StructuredLogMessage) : Forwarder :=
  { forwarder with state := if message.persistedPanic then .sending message else .receiving }

end Forwarder

/-! ## The request -/

def victoriaLogsPort : ℕ := 9428

def victoriaPath : List Char := "/insert/jsonline?_stream_fields=app_name,hostname,proc_id".toList

/-- `Buffers::initialize`: the URL, and whether it fits. -/
def victoriaUrl : HeaplessString 96 × Bool :=
  HeaplessString.writePieces .empty ["http://logs.lan:".toList, Nat.toDigits 10 victoriaLogsPort, victoriaPath]

theorem victoriaUrl_fits : victoriaUrl.2 = true := by decide

end EnergyDisplay.StructuredLog

import EnergyDisplay.Clock

/-! The task that synchronises the clock (`run` and `request_time` of `clock.rs`)
and the time that others read of it. Instants are microseconds since power-on, and
an event comes with the microseconds since the one before it. -/
namespace EnergyDisplay.ClockTask

/-- What `sntpc` and `jiff` do: `fraction_to_nanoseconds`, `Timestamp::new` and
`Timestamp::checked_add`, of nanoseconds. -/
structure Libraries where
  fractionToNanoseconds : UInt32 → UInt32
  new : Int → Int → Option Timestamp
  checkedAdd : Timestamp → ℕ → Option Timestamp

structure Anchor where
  utc : Timestamp
  instant : ℕ
  deriving DecidableEq

/-- What the task reads of an answer. -/
structure NtpResult where
  sec : UInt64
  secFraction : UInt32
  roundtrip : UInt64
  deriving DecidableEq

def requestTimeout : ℕ := 5 * 1000000
def retryInterval : ℕ := 60 * 1000000
def syncInterval : ℕ := 6 * 60 * 60 * 1000000

/-- Where the task waits. -/
inductive Phase where
  | configuring
  | requesting (deadline : ℕ)
  | sleeping (wake : ℕ)
  deriving DecidableEq

structure State where
  clock : Option Anchor
  phase : Phase
  instant : ℕ
  deriving DecidableEq

inductive Event where
  /-- `wait_config_up` returns. -/
  | configured
  /-- `get_time` returns a result. -/
  | answered (result : NtpResult)
  /-- Binding the socket or `get_time` fails. -/
  | failed
  /-- The timer that the task waits for is looked at. -/
  | polled
  deriving DecidableEq

/-- Power-on. -/
def boot : State where
  clock := none
  phase := .configuring
  instant := 0

/-- `ntp_timestamp`, of an answer. -/
def Libraries.timestamp (libraries : Libraries) (result : NtpResult) : Except ClockError Timestamp :=
  ntpTimestamp libraries.fractionToNanoseconds libraries.new result.sec result.secFraction result.roundtrip

def step (libraries : Libraries) (state : State) (event : ℕ × Event) : State :=
  let now := state.instant + event.1
  let state := { state with instant := now }
  match state.phase, event.2 with
  | .configuring, .configured => { state with phase := .requesting (now + requestTimeout) }
  | .requesting _, .answered result =>
    match libraries.timestamp result with
    | .ok utc =>
      { state with
        clock := some { utc := utc, instant := now }
        phase := .sleeping (now + syncInterval) }
    | .error _ => { state with phase := .sleeping (now + retryInterval) }
  | .requesting _, .failed => { state with phase := .sleeping (now + retryInterval) }
  | .requesting deadline, .polled =>
    if deadline ≤ now then { state with phase := .sleeping (now + retryInterval) } else state
  | .sleeping wake, .polled => if wake ≤ now then { state with phase := .configuring } else state
  | _, _ => state

def timestampAt (libraries : Libraries) (anchor : Option Anchor) (instant : ℕ) : Option Timestamp := do
  let anchor ← anchor
  if instant < anchor.instant then none
  else libraries.checkedAdd anchor.utc ((instant - anchor.instant) * 1000)

/-- The time that a task reads. -/
def utcNow (libraries : Libraries) (state : State) : Option Timestamp :=
  timestampAt libraries state.clock state.instant

/-- The requests that a step sends. -/
def requests (state : State) (event : ℕ × Event) : ℕ :=
  match state.phase, event.2 with
  | .configuring, .configured => 1
  | _, _ => 0

/-- The answers of a step that the clock is set by. -/
def synchronised (libraries : Libraries) (state : State) (event : ℕ × Event) : ℕ :=
  match state.phase, event.2 with
  | .requesting _, .answered result => if (libraries.timestamp result).isOk then 1 else 0
  | _, _ => 0

end EnergyDisplay.ClockTask

import EnergyDisplay.Lib.Calendar
import EnergyDisplay.Lib.MachineInt
import EnergyDisplay.Mqtt

/-! Wall time: what `firmware/src/clock.rs` makes of a UTC timestamp. -/
namespace EnergyDisplay

namespace Timestamp

/-- `as_second` truncates. -/
def asSecond (timestamp : Timestamp) : Int := timestamp.nanoseconds.tdiv 1000000000

/-- Seconds since the epoch, a fraction of a second counted for nothing. -/
def second (timestamp : Timestamp) : Int := timestamp.nanoseconds / 1000000000

/-- `timestamp.to_zoned(TimeZone::UTC).date()`. -/
def utcDate (timestamp : Timestamp) : SummaryDate :=
  let date := Calendar.civil timestamp.utcDay
  { year := date.year, month := date.month, day := date.day }

end Timestamp

/-- From 2000 to 2099 in UTC. -/
def validTimestamp (timestamp : Timestamp) : Bool :=
  decide (946684800 ≤ timestamp.asSecond ∧ timestamp.asSecond < 4102444800)

/-- The seconds a clock in Brussels shows, counted from 1970 on. -/
def brusselsSecond (timestamp : Timestamp) : Int :=
  timestamp.second + Calendar.centralOffset timestamp.second

/-- Before the epoch `as_second` is not positive, so truncation makes no difference. -/
theorem validTimestamp_iff (timestamp : Timestamp) :
    validTimestamp timestamp = true ↔
      946684800000000000 ≤ timestamp.nanoseconds ∧ timestamp.nanoseconds < 4102444800000000000 := by
  rw [validTimestamp, decide_eq_true_iff, Timestamp.asSecond]
  rcases Int.le_total 0 timestamp.nanoseconds with since | before
  · rw [Int.tdiv_eq_ediv_of_nonneg since]
    omega
  · have negated : (-timestamp.nanoseconds).tdiv 1000000000 = -timestamp.nanoseconds.tdiv 1000000000 :=
        Int.neg_tdiv ..
    rw [Int.tdiv_eq_ediv_of_nonneg (by omega)] at negated
    omega

def localDatetime (timestamp : Timestamp) : Option LocalDateTime :=
  if !validTimestamp timestamp then none
  else
    let seconds := brusselsSecond timestamp
    let date := Calendar.civil (seconds / 86400)
    some {
      year := date.year
      month := date.month
      day := date.day
      weekday := Calendar.weekday (seconds / 86400)
      hour := (seconds % 86400 / 3600).toNat
      minute := (seconds % 3600 / 60).toNat }

inductive ClockError where
  | timestampOutOfRange
  deriving DecidableEq

/-- `.ok_or(Error::TimestampOutOfRange)`. -/
def okOrOutOfRange {α : Type} (value : Option α) : Except ClockError α :=
  value.elim (.error .timestampOutOfRange) .ok

/-- `new` stands for `Timestamp::new` of `jiff`, `fractionToNanoseconds` for the
function of `sntpc`. -/
def ntpTimestamp (fractionToNanoseconds : UInt32 → UInt32) (new : Int → Int → Option Timestamp)
    (seconds : UInt64) (fraction : UInt32) (roundtripMicros : UInt64) : Except ClockError Timestamp := do
  -- Half the round trip, in nanoseconds.
  let delayNanos ← okOrOutOfRange (IntType.u64.checked (roundtripMicros.toNat * 500))
  let nanos ← okOrOutOfRange (IntType.u64.checked ((fractionToNanoseconds fraction).toNat + delayNanos))
  let seconds ← okOrOutOfRange
    ((IntType.u64.checked (seconds.toNat + nanos / 1000000000)).bind IntType.i64.checked)
  let timestamp ← okOrOutOfRange (new seconds (IntType.i32.wrap (nanos % 1000000000)))
  if !validTimestamp timestamp then .error .timestampOutOfRange else return timestamp

example : localDatetime ⟨1792890000 * 1000000000⟩ =
    some { year := 2026, month := 10, day := 25, weekday := 0, hour := 2, minute := 0 } := by decide

end EnergyDisplay

import EnergyDisplay.Clock
import Mathlib.Algebra.Order.Field.Rat
import Mathlib.Tactic.Linarith
import Mathlib.Tactic.Ring

/-! The time that is made of an NTP answer is exact to the nanosecond, and none
in range is lost to a guard against overflow. -/
namespace EnergyDisplay

/-- What `ntp_timestamp` relies on of the libraries: a fraction of a second is
less than one, and `Timestamp::new` takes the seconds from 2000 to 2099 and
never another instant than the one asked for. -/
structure NtpLibraries (fractionToNanoseconds : UInt32 → UInt32) (new : Int → Int → Option Timestamp) :
    Prop where
  subsecond : ∀ fraction, (fractionToNanoseconds fraction).toNat < 1000000000
  accepts : ∀ second nanosecond, 946684800 ≤ second → second < 4102444800 → 0 ≤ nanosecond →
    nanosecond < 1000000000 → (new second nanosecond).isSome
  exact : ∀ second nanosecond timestamp, 0 ≤ nanosecond → nanosecond < 1000000000 →
    new second nanosecond = some timestamp → timestamp.nanoseconds = second * 1000000000 + nanosecond

variable {fractionToNanoseconds : UInt32 → UInt32} {new : Int → Int → Option Timestamp}

/-- The exact time in nanoseconds. -/
def ntpNanoseconds (fractionToNanoseconds : UInt32 → UInt32) (seconds : UInt64) (fraction : UInt32)
    (roundtripMicros : UInt64) : ℕ :=
  seconds.toNat * 1000000000 + (fractionToNanoseconds fraction).toNat + roundtripMicros.toNat * 500

@[simp] theorem okOrOutOfRange_some {α β : Type} (value : α) (next : α → Except ClockError β) :
    okOrOutOfRange (some value) >>= next = next value := rfl

@[simp] theorem okOrOutOfRange_none {α β : Type} (next : α → Except ClockError β) :
    okOrOutOfRange none >>= next = .error .timestampOutOfRange := rfl

/-- A guard against overflow passes what fits, and refuses nothing that comes to
another end. -/
theorem checked_bind {α : Type} {type : IntType} {value : Int} {next : Int → Except ClockError α}
    {result : Except ClockError α} (fits : type.Holds value → next value = result)
    (refused : ¬ type.Holds value → result = .error .timestampOutOfRange) :
    okOrOutOfRange (type.checked value) >>= next = result := by
  by_cases holds : type.Holds value
  · rw [IntType.checked_of_holds holds, okOrOutOfRange_some, fits holds]
  · rw [IntType.checked_eq_none.mpr holds, okOrOutOfRange_none, refused holds]

/-- What fits an `i64` and is not negative fits a `u64`. -/
theorem checked_u64_i64 {value : Int} (nonneg : 0 ≤ value) :
    (IntType.u64.checked value).bind IntType.i64.checked = IntType.i64.checked value := by
  by_cases fits : IntType.u64.Holds value
  · rw [IntType.checked_of_holds fits, Option.bind_some]
  · rw [IntType.checked_eq_none.mpr fits, Option.bind_none, eq_comm, IntType.checked_eq_none]
    simp only [IntType.Holds, IntType.least, IntType.greatest] at fits ⊢
    omega

/-- The timestamp made of seconds and nanoseconds is the whole time, if it is
from 2000 to 2099. -/
theorem new_eq (libraries : NtpLibraries fractionToNanoseconds new) (nanoseconds : ℕ) :
    (do
      let timestamp ← okOrOutOfRange (new (nanoseconds / 1000000000) (nanoseconds % 1000000000))
      if !validTimestamp timestamp then .error .timestampOutOfRange else return timestamp) =
      if 946684800000000000 ≤ nanoseconds ∧ nanoseconds < 4102444800000000000 then .ok ⟨nanoseconds⟩
      else .error .timestampOutOfRange := by
  have valid := validTimestamp_iff ⟨nanoseconds⟩
  cases made : new (nanoseconds / 1000000000) (nanoseconds % 1000000000) with
  | none =>
    rw [okOrOutOfRange_none, if_neg]
    rintro ⟨lower, upper⟩
    have accepted := libraries.accepts (nanoseconds / 1000000000) (nanoseconds % 1000000000)
      (by omega) (by omega) (by omega) (by omega)
    rw [made] at accepted
    cases accepted
  | some timestamp =>
    have exact_ := libraries.exact _ _ timestamp (by omega) (by omega) made
    have same : timestamp = ⟨nanoseconds⟩ := by
      cases timestamp
      simp only [Timestamp.mk.injEq] at exact_ ⊢
      omega
    rw [okOrOutOfRange_some, same]
    by_cases inside : 946684800000000000 ≤ nanoseconds ∧ nanoseconds < 4102444800000000000
    · rw [if_pos inside, valid.mpr (by dsimp only; omega)]
      rfl
    · have refused : validTimestamp ⟨nanoseconds⟩ = false := by
        rw [Bool.eq_false_iff]
        intro accepted
        obtain ⟨lower, upper⟩ := valid.mp accepted
        dsimp only at lower upper
        omega
      rw [if_neg inside, refused]
      rfl

/-- The four guards together: the time in nanoseconds, if it is from 2000 to 2099. -/
theorem ntpTimestamp_eq (libraries : NtpLibraries fractionToNanoseconds new) (seconds : UInt64)
    (fraction : UInt32) (roundtripMicros : UInt64) :
    ntpTimestamp fractionToNanoseconds new seconds fraction roundtripMicros =
      let total := ntpNanoseconds fractionToNanoseconds seconds fraction roundtripMicros
      if 946684800000000000 ≤ total ∧ total < 4102444800000000000 then .ok ⟨total⟩
      else .error .timestampOutOfRange := by
  have below := libraries.subsecond fraction
  dsimp only [ntpTimestamp, ntpNanoseconds]
  generalize (fractionToNanoseconds fraction).toNat = subsecond at below ⊢
  generalize seconds.toNat = seconds
  generalize roundtripMicros.toNat = roundtrip
  generalize total : seconds * 1000000000 + subsecond + roundtrip * 500 = nanoseconds
  -- A guard that refuses has seen a time after 2099.
  have late {type : IntType} {value : Int} (refused : ¬ type.Holds value) (nonneg : 0 ≤ value)
      (wide : type = .u64 ∧ value ≤ nanoseconds ∨ type = .i64 ∧ value * 1000000000 ≤ nanoseconds) :
      (if 946684800000000000 ≤ nanoseconds ∧ nanoseconds < 4102444800000000000 then .ok ⟨nanoseconds⟩
        else .error .timestampOutOfRange : Except ClockError Timestamp) = .error .timestampOutOfRange := by
    refine if_neg fun inside => refused ?_
    rcases wide with ⟨rfl, less⟩ | ⟨rfl, less⟩ <;>
        simp only [IntType.Holds, IntType.least, IntType.greatest] <;> omega
  have split : (seconds : Int) + (subsecond + roundtrip * 500) / 1000000000 = nanoseconds / 1000000000 ∧
      ((subsecond : Int) + roundtrip * 500) % 1000000000 = nanoseconds % 1000000000 := by
    omega
  have narrow : IntType.i32.Holds (nanoseconds % 1000000000) := by
    simp only [IntType.Holds, IntType.least, IntType.greatest]
    omega
  refine checked_bind (fun _ => ?_) fun refused => late refused (by omega) (Or.inl ⟨rfl, by omega⟩)
  refine checked_bind (fun _ => ?_) fun refused => late refused (by omega) (Or.inl ⟨rfl, by omega⟩)
  rw [split.1, split.2, checked_u64_i64 (by omega), IntType.wrap_of_holds narrow]
  exact checked_bind (fun _ => new_eq libraries nanoseconds) fun refused =>
    late refused (by omega) (Or.inr ⟨rfl, by omega⟩)

/-- Seconds since 1970, with the fraction and half the round trip. -/
def exactTime (fractionToNanoseconds : UInt32 → UInt32) (seconds : UInt64) (fraction : UInt32)
    (roundtripMicros : UInt64) : ℚ :=
  seconds.toNat + (fractionToNanoseconds fraction).toNat / 10 ^ 9 + roundtripMicros.toNat / (2 * 10 ^ 6)

theorem exactTime_eq (fractionToNanoseconds : UInt32 → UInt32) (seconds : UInt64) (fraction : UInt32)
    (roundtripMicros : UInt64) : exactTime fractionToNanoseconds seconds fraction roundtripMicros * 10 ^ 9 =
      ntpNanoseconds fractionToNanoseconds seconds fraction roundtripMicros := by
  simp only [exactTime, ntpNanoseconds, Nat.cast_add, Nat.cast_mul, Nat.cast_ofNat]
  ring

/-- **The time of an NTP answer is exact, and every time in range is taken.** A
timestamp comes out exactly if the time with the fraction and half the round
trip is from 2000 to 2099; then it is that time to the nanosecond. No guard
against overflow refuses one of these times, and the one conversion that is not
guarded keeps its value. -/
theorem ntp_timestamp_exact (libraries : NtpLibraries fractionToNanoseconds new) (seconds : UInt64)
    (fraction : UInt32) (roundtripMicros : UInt64) :
    ((∃ timestamp, ntpTimestamp fractionToNanoseconds new seconds fraction roundtripMicros = .ok timestamp) ↔
        946684800 ≤ exactTime fractionToNanoseconds seconds fraction roundtripMicros ∧
          exactTime fractionToNanoseconds seconds fraction roundtripMicros < 4102444800) ∧
      (∀ timestamp, ntpTimestamp fractionToNanoseconds new seconds fraction roundtripMicros = .ok timestamp →
        (timestamp.nanoseconds : ℚ) =
          exactTime fractionToNanoseconds seconds fraction roundtripMicros * 10 ^ 9) ∧
      ∀ nanos : Int, IntType.i32.wrap (nanos % 1000000000) = nanos % 1000000000 := by
  have result := ntpTimestamp_eq libraries seconds fraction roundtripMicros
  have scaled := exactTime_eq fractionToNanoseconds seconds fraction roundtripMicros
  dsimp only at result
  generalize exactTime fractionToNanoseconds seconds fraction roundtripMicros = time at scaled ⊢
  generalize ntpNanoseconds fractionToNanoseconds seconds fraction roundtripMicros = total at result scaled
  have range : (946684800000000000 ≤ total ∧ total < 4102444800000000000) ↔
      946684800 ≤ time ∧ time < 4102444800 := by
    have lower : (946684800000000000 ≤ total) ↔ (946684800000000000 : ℚ) ≤ total := by exact_mod_cast Iff.rfl
    have upper : (total < 4102444800000000000) ↔ (total : ℚ) < 4102444800000000000 := by exact_mod_cast Iff.rfl
    rw [lower, upper, ← scaled]
    constructor
    · rintro ⟨above, below⟩
      exact ⟨by linarith, by linarith⟩
    · rintro ⟨above, below⟩
      exact ⟨by linarith, by linarith⟩
  rw [result, ← range]
  refine ⟨?_, ?_, ?_⟩
  · by_cases inside : 946684800000000000 ≤ total ∧ total < 4102444800000000000
    · rw [if_pos inside]
      exact ⟨fun _ => inside, fun _ => ⟨_, rfl⟩⟩
    · rw [if_neg inside]
      exact ⟨fun ⟨_, made⟩ => (by cases made), fun holds => absurd holds inside⟩
  · intro timestamp made
    split at made
    · cases made
      rw [scaled]
      rfl
    · cases made
  · intro nanos
    exact IntType.wrap_of_holds (by simp only [IntType.Holds, IntType.least, IntType.greatest]; omega)

/-- `fraction_to_nanoseconds` and `Timestamp::new` on exact arithmetic. -/
def exactFraction (fraction : UInt32) : UInt32 := UInt32.ofNat (fraction.toNat * 1000000000 / 4294967296)

def newTimestamp (second nanosecond : Int) : Option Timestamp :=
  if 0 ≤ second ∧ second ≤ 253402207200 then some ⟨second * 1000000000 + nanosecond⟩ else none

theorem exactFraction_newTimestamp : NtpLibraries exactFraction newTimestamp where
  subsecond fraction := by
    have small := fraction.toNat_lt
    have below : fraction.toNat * 1000000000 / 4294967296 < 1000000000 :=
      Nat.div_lt_of_lt_mul (by omega)
    rw [exactFraction, UInt32.toNat_ofNat']
    exact (Nat.mod_le _ _).trans_lt below
  accepts second nanosecond lower upper _ _ := by
    simp only [newTimestamp]
    rw [if_pos (by omega)]
    rfl
  exact second nanosecond timestamp _ _ made := by
    simp only [newTimestamp] at made
    split at made
    · cases made
      rfl
    · cases made

/-- Half a second and an odd round trip. -/
theorem ntp_timestamp_exact_sample :
    ((∃ timestamp, ntpTimestamp exactFraction newTimestamp 1000000000 2147483648 3 = .ok timestamp) ↔
        946684800 ≤ exactTime exactFraction 1000000000 2147483648 3 ∧
          exactTime exactFraction 1000000000 2147483648 3 < 4102444800) ∧
      (∀ timestamp, ntpTimestamp exactFraction newTimestamp 1000000000 2147483648 3 = .ok timestamp →
        (timestamp.nanoseconds : ℚ) = exactTime exactFraction 1000000000 2147483648 3 * 10 ^ 9) ∧
      ∀ nanos : Int, IntType.i32.wrap (nanos % 1000000000) = nanos % 1000000000 :=
  ntp_timestamp_exact exactFraction_newTimestamp 1000000000 2147483648 3

example : ntpTimestamp exactFraction newTimestamp 1000000000 2147483648 3 = .ok ⟨1000000000500001500⟩ := by
  decide

end EnergyDisplay

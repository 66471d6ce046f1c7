import EnergyDisplay.ClockTask
import EnergyDisplay.NtpProofs
import EnergyDisplay.Lib.Runs
import Mathlib.Algebra.Order.Group.Unbundled.Int

/-! The task keeps its pace whatever happens, and what is read of the clock is
right to half a round trip and the drift since. -/
namespace EnergyDisplay.ClockTask

open Runs

variable (libraries : Libraries) (state : State) (event : ℕ × Event)

/-! ## The pace of the requests -/

/-- When the next request is due. -/
def requestDue (state : State) : ℕ :=
  match state.phase with
  | .configuring => state.instant
  | .requesting _ => state.instant + retryInterval
  | .sleeping wake => max wake state.instant

/-- When the clock can be set next. -/
def syncDue (state : State) : ℕ :=
  match state.phase with
  | .sleeping wake => max wake state.instant
  | _ => state.instant

/-- What a step does: it sends a request, sets the clock, goes to sleep over a
failure, wakes up, or lets time pass. -/
inductive Moves (libraries : Libraries) (state : State) (event : ℕ × Event) : State → Prop
  | sends (phase : state.phase = .configuring) (asked : requests state event = 1)
      (unset : synchronised libraries state event = 0) :
      Moves libraries state event
        { state with
          instant := state.instant + event.1
          phase := .requesting (state.instant + event.1 + requestTimeout) }
  | sets (deadline : ℕ) (result : NtpResult) (utc : Timestamp) (phase : state.phase = .requesting deadline)
      (answer : event.2 = .answered result) (taken : libraries.timestamp result = .ok utc)
      (unasked : requests state event = 0) (set : synchronised libraries state event = 1) :
      Moves libraries state event
        { clock := some { utc := utc, instant := state.instant + event.1 }
          instant := state.instant + event.1
          phase := .sleeping (state.instant + event.1 + syncInterval) }
  | gives (deadline : ℕ) (phase : state.phase = .requesting deadline) (unasked : requests state event = 0)
      (unset : synchronised libraries state event = 0) :
      Moves libraries state event
        { state with
          instant := state.instant + event.1
          phase := .sleeping (state.instant + event.1 + retryInterval) }
  | wakes (wake : ℕ) (phase : state.phase = .sleeping wake) (past : wake ≤ state.instant + event.1)
      (unasked : requests state event = 0) (unset : synchronised libraries state event = 0) :
      Moves libraries state event
        { state with instant := state.instant + event.1, phase := .configuring }
  | waits (unasked : requests state event = 0) (unset : synchronised libraries state event = 0) :
      Moves libraries state event { state with instant := state.instant + event.1 }

theorem step_moves : Moves libraries state event (step libraries state event) := by
  obtain ⟨clock, phase, instant⟩ := state
  obtain ⟨elapsed, event⟩ := event
  cases phase with
  | configuring =>
    cases event with
    | configured => exact .sends rfl rfl rfl
    | _ => exact .waits rfl rfl
  | requesting deadline =>
    cases event with
    | configured => exact .waits rfl rfl
    | answered result =>
      cases taken : libraries.timestamp result with
      | ok utc =>
        have set : synchronised libraries ⟨clock, .requesting deadline, instant⟩
            (elapsed, .answered result) = 1 := by
          simp [synchronised, taken, Except.isOk, Except.toBool]
        simp only [step, taken]
        exact .sets deadline result utc rfl rfl taken rfl set
      | error error =>
        have unset : synchronised libraries ⟨clock, .requesting deadline, instant⟩
            (elapsed, .answered result) = 0 := by
          simp [synchronised, taken, Except.isOk, Except.toBool]
        simp only [step, taken]
        exact .gives deadline rfl rfl unset
    | failed => exact .gives deadline rfl rfl rfl
    | polled =>
      simp only [step]
      split
      · exact .gives deadline rfl rfl rfl
      · exact .waits rfl rfl
  | sleeping wake =>
    cases event with
    | polled =>
      simp only [step]
      split
      · next past => exact .wakes wake rfl past rfl rfl
      · exact .waits rfl rfl
    | _ => exact .waits rfl rfl

@[simp] theorem step_instant : (step libraries state event).instant = state.instant + event.1 := by
  have moves := step_moves libraries state event
  generalize step libraries state event = next at moves
  cases moves <;> rfl

theorem request_advances : requests state event * retryInterval + requestDue state ≤
    requestDue (step libraries state event) := by
  have moves := step_moves libraries state event
  generalize step libraries state event = next at moves ⊢
  cases moves with
  | sends phase asked => simp only [asked, requestDue, phase]; omega
  | sets deadline result utc phase _ _ unasked =>
    simp only [unasked, requestDue, phase, retryInterval, syncInterval]
    omega
  | gives deadline phase unasked => simp only [unasked, requestDue, phase]; omega
  | wakes wake phase past unasked => simp only [unasked, requestDue, phase]; omega
  | waits unasked => simp only [unasked, requestDue]; split <;> omega

theorem sync_advances : synchronised libraries state event * syncInterval + syncDue state ≤
    syncDue (step libraries state event) := by
  have moves := step_moves libraries state event
  generalize step libraries state event = next at moves ⊢
  cases moves with
  | sends phase _ unset => simp only [unset, syncDue, phase]; omega
  | sets deadline result utc phase _ _ _ set => simp only [set, syncDue, phase]; omega
  | gives deadline phase _ unset => simp only [unset, syncDue, phase]; omega
  | wakes wake phase past _ unset => simp only [unset, syncDue, phase]; omega
  | waits _ unset => simp only [unset, syncDue]; split <;> omega

theorem request_awaited : requests state event = 0 ∨
    requests state event = 1 ∧ requestDue state ≤ state.instant := by
  unfold requests
  split
  · next phase _ => exact Or.inr ⟨rfl, by rw [requestDue, phase]⟩
  · exact Or.inl rfl

theorem sync_awaited : synchronised libraries state event = 0 ∨
    synchronised libraries state event = 1 ∧ syncDue state ≤ state.instant := by
  unfold synchronised
  split
  · next phase _ =>
    split
    · exact Or.inr ⟨rfl, by rw [syncDue, phase]⟩
    · exact Or.inl rfl
  · exact Or.inl rfl

/-- **The pace of the requests.** Whatever the network and the server do, in any
stretch of time requests are a minute apart, and the clock is set at most every
six hours. -/
theorem requests_paced (events : List (ℕ × Event)) :
    tally (step libraries) requests state events * retryInterval + state.instant ≤
        (run (step libraries) state events).instant + retryInterval ∧
      tally (step libraries) (synchronised libraries) state events * syncInterval + state.instant ≤
        (run (step libraries) state events).instant + syncInterval := by
  have passes (state : State) (event : ℕ × Event) :
      state.instant ≤ (step libraries state event).instant := by
    rw [step_instant]
    exact Nat.le_add_right _ _
  constructor
  · refine run_paced requestDue State.instant retryInterval (request_advances libraries)
      request_awaited passes ?_
    unfold requestDue
    split <;> omega
  · refine run_paced syncDue State.instant syncInterval (sync_advances libraries)
      (sync_awaited libraries) passes ?_
    unfold syncDue
    split <;> omega

/-! ## The time that is read -/

/-- How far `Timestamp` goes on after 2099, in microseconds. -/
def lifespan : ℕ := 249299762400 * 1000000

/-- What the clock relies on of the libraries. -/
structure Libraries.Lawful (libraries : Libraries) : Prop where
  ntp : NtpLibraries libraries.fractionToNanoseconds libraries.new
  adds : ∀ (timestamp : Timestamp) (nanoseconds : ℕ), 0 ≤ timestamp.nanoseconds →
    timestamp.nanoseconds + nanoseconds < 253402207200 * 1000000000 →
    libraries.checkedAdd timestamp nanoseconds = some ⟨timestamp.nanoseconds + nanoseconds⟩

/-- An anchor of a valid time, in the past. -/
structure Anchor.Valid (anchor : Anchor) (instant : ℕ) : Prop where
  past : anchor.instant ≤ instant
  since : 0 ≤ anchor.utc.nanoseconds
  before : anchor.utc.nanoseconds < 4102444800 * 1000000000

/-- The clock is not set, or it is set to what has the property. -/
def Set (property : Anchor → ℕ → Prop) (state : State) : Prop :=
  ∀ anchor, state.clock = some anchor → property anchor state.instant

variable {libraries state event} {utc : ℕ → ℤ} {latency millionths : ℕ}

/-- Without an answer that is taken, the anchor stays and time goes on. -/
theorem Set.step {property : Anchor → ℕ → Prop} (set : Set property state)
    (later : ∀ anchor instant elapsed, property anchor instant → property anchor (instant + elapsed))
    (takes : ∀ deadline result timestamp, state.phase = .requesting deadline → event.2 = .answered result →
      libraries.timestamp result = .ok timestamp →
        property ⟨timestamp, state.instant + event.1⟩ (state.instant + event.1)) :
    Set property (step libraries state event) := by
  have moves := step_moves libraries state event
  have kept (next : State) (clock : next.clock = state.clock) (instant : next.instant = state.instant + event.1) :
      Set property next := by
    intro anchor held
    rw [instant]
    exact later anchor _ _ (set anchor (clock ▸ held))
  generalize ClockTask.step libraries state event = next at moves ⊢
  cases moves with
  | sets deadline result timestamp phase answer taken =>
    rintro anchor ⟨⟩
    exact takes deadline result timestamp phase answer taken
  | sends | gives | wakes | waits => exact kept _ rfl rfl

theorem Anchor.Valid.later {anchor : Anchor} {instant : ℕ} (valid : anchor.Valid instant) (elapsed : ℕ) :
    anchor.Valid (instant + elapsed) :=
  { valid with past := valid.past.trans (Nat.le_add_right _ _) }

/-- What is read of a clock that is set. -/
theorem Anchor.Valid.read {anchor : Anchor} {instant : ℕ} (valid : anchor.Valid instant) (lawful : libraries.Lawful)
    (alive : instant ≤ lifespan) : timestampAt libraries (some anchor) instant =
      some ⟨anchor.utc.nanoseconds + 1000 * (instant - anchor.instant : ℕ)⟩ := by
  obtain ⟨past, since, before⟩ := valid
  have fits := lawful.adds anchor.utc ((instant - anchor.instant) * 1000) since (by unfold lifespan at alive; omega)
  simp only [timestampAt, Option.bind_eq_bind, Option.bind_some]
  rw [if_neg (by omega), fits]
  push_cast
  rw [Int.mul_comm]

/-- An answer after 40 ms, 12 of them since it was stamped, and an hour more. -/
def morning : List (ℕ × Event) :=
  [(10000000, .configured),
    (40000, .answered { sec := 1800000010, secFraction := 120259084, roundtrip := 30000 }),
    (3600000000, .polled)]

end EnergyDisplay.ClockTask

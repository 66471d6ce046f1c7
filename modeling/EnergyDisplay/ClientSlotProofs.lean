import EnergyDisplay.Lib.Slot
import EnergyDisplay.TaskProofs
import Mathlib.Algebra.Order.Ring.Rat

/-! The outbound slot of the MQTT client, shared by the hourly summary and the
dimmer toggle. The summary path looks at the tracked publication but not at
what it is about, the toggle path does not look at all. The slot is used
consistently exactly as long as no toggle finds it taken and no summary that
is due finds a toggle in it. -/
namespace EnergyDisplay

open Mqtt Runs Slot

variable {F : Type}

namespace Mqtt

/-- The client's operation for a publishing call of the summary. -/
def PublishCall.operation (packetIdentifier : ℕ) : PublishCall F → Operation OutboundPublish
  | .publish _ => .publish { packetIdentifier := packetIdentifier, topic := .summary }
  | .republish pending _ => .republish { packetIdentifier := pending, topic := .summary }

/-- A summary is due: the guard lets it through, it can be written out, and its
hour is not that of the watermark. -/
def SummaryUpdate.Due (update : SummaryUpdate F) (awaiting encodes : Bool) (last : Option Timestamp) :
    Prop :=
  (awaiting = true → update.summaryReceivedAt.isSome) ∧ encodes = true ∧
    ∀ previous ∈ update.summaryReceivedAt.or last,
      sameUtcHour previous update.snapshot.timestamp = false

/-- A call starts exactly for a summary that is due: it republishes what is
tracked, or publishes. -/
theorem publishSummaryIfNeeded_due (update : SummaryUpdate F) (last : Option Timestamp)
    (encodes : Bool) (outbound : Option OutboundPublish) :
    (publishSummaryIfNeeded update last encodes outbound).2 =
      if encodes = true ∧ ∀ previous ∈ update.summaryReceivedAt.or last,
          sameUtcHour previous update.snapshot.timestamp = false then
        match outbound with
        | some pending => some (.republish pending.packetIdentifier update.snapshot)
        | none => some (.publish update.snapshot)
      else none := by
  simp only [publishSummaryIfNeeded]
  cases encodes with
  | false => split <;> simp
  | true =>
    cases marked : update.summaryReceivedAt.or last with
    | none => cases outbound <;> simp
    | some previous =>
      cases same : sameUtcHour previous update.snapshot.timestamp <;> cases outbound <;> simp [same]

end Mqtt

namespace Tasks

variable {tasks : Tasks F} {clock : Clock}

/-- What a step asks of the client, and what the broker acknowledges in it. -/
def clientOperations (tasks : Tasks F) (event : Event F × Clock) : List (Operation OutboundPublish) :=
  match event.1, tasks.phase with
  | .takesSummary encodes packetIdentifier, .serving awaiting =>
    match tasks.publications.tryReceive with
    | some (summary, _) =>
      if (summaryReadyToPublish awaiting summary).1 then
        ((publishSummaryIfNeeded summary tasks.lastSummaryUpdate encodes
          tasks.outboundPublishes).2.map (PublishCall.operation packetIdentifier)).toList
      else []
    | none => []
  | .takesToggle packetIdentifier, .serving _ =>
    match tasks.commands.tryReceive with
    | some _ => [.publish { packetIdentifier := packetIdentifier, topic := .ovenplaatDimmer }]
    | none => []
  | .acknowledges, .restoring | .acknowledges, .serving _ => [.acknowledged]
  | _, _ => []

/-- The step finds the slot fit for its call: a toggle finds nothing tracked,
and a summary that is due no toggle. -/
def FindsSlot (tasks : Tasks F) (event : Event F × Clock) : Prop :=
  match event.1, tasks.phase with
  | .takesSummary encodes _, .serving awaiting =>
    ∀ summary ∈ tasks.publications.items, summary.Due awaiting encodes tasks.lastSummaryUpdate →
      ∀ pending ∈ tasks.outboundPublishes, pending.topic = .summary
  | .takesToggle _, .serving _ => tasks.commands.items ≠ [] → tasks.outboundPublishes = none
  | _, _ => True

/-- The operations of taking a summary, one at most. -/
theorem takesSummary_operations (clock : Clock) {awaiting : Bool} {summary : SummaryUpdate F}
    {rest : SummaryPublications F} (serving : tasks.phase = .serving awaiting)
    (received : tasks.publications.tryReceive = some (summary, rest)) (encodes : Bool)
    (packetIdentifier : ℕ) :
    (¬ summary.Due awaiting encodes tasks.lastSummaryUpdate ∧
        tasks.clientOperations (.takesSummary encodes packetIdentifier, clock) = [] ∧
        (tasks.takeSummary encodes packetIdentifier).outboundPublishes = tasks.outboundPublishes) ∨
      summary.Due awaiting encodes tasks.lastSummaryUpdate ∧
        tasks.clientOperations (.takesSummary encodes packetIdentifier, clock) =
          [match tasks.outboundPublishes with
            | some pending =>
              .republish { packetIdentifier := pending.packetIdentifier, topic := .summary }
            | none => .publish { packetIdentifier := packetIdentifier, topic := .summary }] ∧
        (tasks.takeSummary encodes packetIdentifier).outboundPublishes =
          tasks.outboundPublishes.or
            (some { packetIdentifier := packetIdentifier, topic := .summary }) := by
  have called := publishSummaryIfNeeded_due summary tasks.lastSummaryUpdate encodes tasks.outboundPublishes
  obtain ⟨waits, unmarked, held⟩ | ⟨marked, ready⟩ := summaryReadyToPublish_cases awaiting summary
  · refine Or.inl ⟨fun due => ?_, ?_, ?_⟩
    · simpa [unmarked] using due.1 waits
    · simp [clientOperations, serving, received, held]
    · simp [takeSummary, serving, received, held]
  · split at called
    case isTrue due =>
      refine Or.inr ⟨⟨marked, due⟩, ?_, ?_⟩
      · cases outbound : tasks.outboundPublishes <;> rw [outbound] at called <;>
          simp [clientOperations, serving, received, ready, outbound, called, PublishCall.operation]
      · cases outbound : tasks.outboundPublishes <;> rw [outbound] at called <;>
          simp [takeSummary, serving, received, ready, outbound, called]
    case isFalse undue =>
      refine Or.inl ⟨fun due => undue due.2, ?_, ?_⟩
      · simp [clientOperations, serving, received, ready, called]
      · simp [takeSummary, serving, received, ready, called]

/-- Step lemma: what is queued decides whether the slot is used consistently. -/
theorem consistent_step_iff (tasks : Tasks F) (event : Event F × Clock) :
    Consistent tasks.outboundPublishes (tasks.clientOperations event) ↔ tasks.FindsSlot event := by
  obtain ⟨event, clock⟩ := event
  cases event with
  | takesSummary encodes packetIdentifier =>
    cases phase : tasks.phase with
    | serving awaiting =>
      cases received : tasks.publications.tryReceive with
      | none =>
        have nothing := Channel.tryReceive_eq_none.mp received
        simp [clientOperations, FindsSlot, phase, received, nothing, Consistent]
      | some both =>
        obtain ⟨summary, rest⟩ := both
        have queued : tasks.publications.items = [summary] :=
          only_queued (by simp [Channel.tryReceive_eq_some.mp received])
        obtain ⟨undue, none_, _⟩ | ⟨due, one, _⟩ :=
          takesSummary_operations clock phase received encodes packetIdentifier
        · simp [none_, FindsSlot, phase, queued, undue, Consistent]
        · rw [one]
          cases outbound : tasks.outboundPublishes with
          | none => simp [FindsSlot, phase, queued, outbound, Consistent, Fits]
          | some pending =>
            obtain ⟨identifier, topic⟩ := pending
            simp [FindsSlot, phase, queued, due, outbound, Consistent, Fits]
    | _ => simp [clientOperations, FindsSlot, phase, Consistent]
  | takesToggle packetIdentifier =>
    cases phase : tasks.phase with
    | serving awaiting =>
      cases received : tasks.commands.tryReceive with
      | none =>
        have nothing := Channel.tryReceive_eq_none.mp received
        simp [clientOperations, FindsSlot, phase, received, nothing, Consistent]
      | some both =>
        have queued : tasks.commands.items ≠ [] := by
          rw [Channel.tryReceive_eq_some.mp received]
          exact List.cons_ne_nil _ _
        simp [clientOperations, FindsSlot, phase, received, queued, Consistent, Fits]
    | _ => simp [clientOperations, FindsSlot, phase, Consistent]
  | acknowledges =>
    cases phase : tasks.phase <;> simp [clientOperations, FindsSlot, phase, Consistent, Fits]
  | _ => simp [clientOperations, FindsSlot, Consistent]

variable [Zero F] [Add F] [Sub F] [Mul F] [NatCast F] [LT F] [DecidableLT F] [BEq F]

theorem displayBatch_outbound (tasks : Tasks F) (clock : Clock) :
    (tasks.displayBatch clock).outboundPublishes = tasks.outboundPublishes := by
  unfold displayBatch
  split
  · rfl
  · cases clock.utcNow with
    | none => rfl
    | some now =>
      dsimp only
      split <;> rfl

/-- The tasks keep the client's slot: it changes by their operations alone. -/
theorem tracked_step (tasks : Tasks F) (event : Event F × Clock) :
    (tasks.step event).outboundPublishes =
      (tasks.clientOperations event).foldl track tasks.outboundPublishes := by
  obtain ⟨event, clock⟩ := event
  cases event with
  | takesSummary encodes packetIdentifier =>
    change (tasks.takeSummary encodes packetIdentifier).outboundPublishes = _
    cases phase : tasks.phase with
    | serving awaiting =>
      cases received : tasks.publications.tryReceive with
      | none => simp [takeSummary, clientOperations, phase, received]
      | some both =>
        obtain ⟨summary, rest⟩ := both
        obtain ⟨_, none_, same⟩ | ⟨_, one, tracks⟩ :=
          takesSummary_operations clock phase received encodes packetIdentifier
        · rw [none_, same]
          rfl
        · rw [one, tracks]
          cases tasks.outboundPublishes <;> rfl
    | _ => simp [takeSummary, clientOperations, phase]
  | takesToggle packetIdentifier =>
    cases phase : tasks.phase with
    | serving awaiting =>
      cases received : tasks.commands.tryReceive with
      | none => simp [step, takeToggle, clientOperations, phase, received]
      | some both =>
        cases outbound : tasks.outboundPublishes <;>
          simp [step, takeToggle, fail, clientOperations, phase, received, outbound, track]
    | _ => simp [step, takeToggle, clientOperations, phase]
  | acknowledges =>
    cases phase : tasks.phase <;> simp [step, clientOperations, phase, track]
  | displays => exact displayBatch_outbound tasks clock
  | receives update =>
    cases phase : tasks.phase with
    | serving awaiting =>
      cases live : update.isDailySummary <;> simp [step, receive, clientOperations, phase, live]
    | _ => simp [step, receive, clientOperations, phase]
  | _ => cases phase : tasks.phase <;> simp [step, fail, callReturn, clientOperations, phase]

/-- **The outbound slot is used consistently exactly when every call finds it
fit.** Along any run from power-on, `publish` is only called with nothing
tracked and `republish` only for a tracked summary, if and only if no toggle
is taken while something is tracked and no summary that is due is taken while
a toggle is. -/
theorem slot_used_consistently_iff (events : List (Event F × Clock)) :
    Consistent none (operationsOf step clientOperations (boot : Tasks F) events) ↔
      StepsMeet step FindsSlot (boot : Tasks F) events := by
  have uses : Consistent (boot : Tasks F).outboundPublishes
      (operationsOf step clientOperations (boot : Tasks F) events) ↔ _ :=
    consistent_run_iff outboundPublishes tracked_step
  refine uses.trans (stepsMeet_congr (fun _ => True) ?_ (fun _ _ _ _ => trivial) trivial)
  exact fun tasks event _ => consistent_step_iff tasks event

/-- 8:15 UTC on 2026-09-09. -/
def quarterPastEight : Clock where
  now := some .morning
  utcNow := some ⟨1788941700000000000⟩

/-- A session up to its main loop; the button is pressed and the toggle
published, but its acknowledgement does not come. -/
def unacknowledgedToggle : List (Event ℚ × Clock) :=
  [(.connects, quarterPastEight), (.restoreTimesOut, quarterPastEight),
    (.unsubscribes, quarterPastEight), (.pressesButton, quarterPastEight),
    (.takesToggle 1, quarterPastEight), (.callReturns, quarterPastEight)]

/-- The button is pressed again. -/
def secondToggle : List (Event ℚ × Clock) :=
  [(.pressesButton, quarterPastEight), (.takesToggle 2, quarterPastEight)]

/-- An hourly summary falls due. -/
def summaryDue : List (Event ℚ × Clock) :=
  [(.receives (.heatpumpPower 900), quarterPastEight), (.displays, quarterPastEight),
    (.takesSummary true 2, quarterPastEight)]

/-- The second toggle is published into the taken slot, and the summary is sent
under the identifier of the toggle. -/
theorem slot_misused_behind_toggle :
    (operationsOf step clientOperations boot (unacknowledgedToggle ++ secondToggle) =
        [.publish ⟨1, .ovenplaatDimmer⟩, .publish ⟨2, .ovenplaatDimmer⟩] ∧
      ¬ Consistent none (operationsOf step clientOperations boot
        (unacknowledgedToggle ++ secondToggle))) ∧
      operationsOf step clientOperations boot (unacknowledgedToggle ++ summaryDue) =
          [.publish ⟨1, .ovenplaatDimmer⟩, .republish ⟨1, .summary⟩] ∧
        ¬ Consistent none (operationsOf step clientOperations boot
          (unacknowledgedToggle ++ summaryDue)) := by
  refine ⟨⟨by decide +kernel, by decide +kernel⟩, by decide +kernel, by decide +kernel⟩

end Tasks

end EnergyDisplay

import EnergyDisplay.Tasks

/-! What each step of the tasks can do, said once: the wake-up of the display
task, the hand-over through the one-entry publication queue, and the main
loop taking a summary. -/
namespace EnergyDisplay

open Mqtt

variable {F : Type}

namespace Mqtt

/-- The publication queue has room for one summary. -/
theorem only_queued {publications : SummaryPublications F} {update : SummaryUpdate F}
    (member : update ∈ publications.items) : publications.items = [update] := by
  have bounded := publications.bounded
  cases queued : publications.items with
  | nil => simp [queued] at member
  | cons first rest =>
    rw [queued, List.length_cons] at bounded
    have vacant : rest = [] :=
      List.length_eq_zero_iff.mp (Nat.le_zero.mp (Nat.le_of_succ_le_succ bounded))
    rw [queued, vacant, List.mem_singleton] at member
    rw [member, vacant]

theorem nothing_behind {publications rest : SummaryPublications F} {summary : SummaryUpdate F}
    (taken : publications.items = summary :: rest.items) : rest.items = [] := by
  have only : publications.items = [summary] := only_queued (by simp [taken])
  exact (List.cons.inj (taken.symm.trans only)).2

/-- The queue holds the newest snapshot with its own watermark, or else the
one that was queued. -/
theorem queueSummaryUpdate_items (publications : SummaryPublications F) (update : SummaryUpdate F) :
    (queueSummaryUpdate publications update).items =
      [{ update with
        summaryReceivedAt := update.summaryReceivedAt.or
          (publications.items.head?.bind SummaryUpdate.summaryReceivedAt) }] := by
  cases received : publications.tryReceive with
  | none =>
    have nothing := Channel.tryReceive_eq_none.mp received
    obtain ⟨sent, succeeds, items⟩ := publications.trySend_room update (by simp [nothing]; decide)
    simp [queueSummaryUpdate, succeeds, items, nothing]
  | some both =>
    obtain ⟨previous, room⟩ := both
    have queued := Channel.tryReceive_eq_some.mp received
    have vacant := nothing_behind queued
    have full := publications.trySend_full update (by simp [queued, vacant]; rfl)
    obtain ⟨sent, succeeds, items⟩ := room.trySend_room
      { update with summaryReceivedAt := update.summaryReceivedAt.or previous.summaryReceivedAt }
      (by simp [vacant]; decide)
    have inherited : (if update.summaryReceivedAt.isNone then
          { update with summaryReceivedAt := previous.summaryReceivedAt }
        else update) =
        { update with summaryReceivedAt := update.summaryReceivedAt.or previous.summaryReceivedAt } := by
      cases mark : update.summaryReceivedAt <;> simp
      rw [← mark]
    simp only [queueSummaryUpdate, full, received, inherited, succeeds, queued]
    simp [items, vacant]

theorem current_isDailySummary {update : Update F} {now : Option LocalDateTime}
    (current : update.isCurrentSummary now = true) : update.isDailySummary = true := by
  cases update with
  | dailySummary => rfl
  | _ => cases current

/-- Nothing but the oldest of eight queued updates is lost. -/
theorem queueUpdate_cases (updates : Updates F) (update : Update F) :
    (updates.items.length < updateQueueDepth ∧
        (queueUpdate updates update).items = updates.items ++ [update]) ∨
      ∃ oldest others, updates.items = oldest :: others ∧ updates.items.length = updateQueueDepth ∧
        (queueUpdate updates update).items = others ++ [update] :=
  Channel.sendReplacingOldest_cases (by decide) updates update

/-- The guard holds a summary back, or is released. -/
theorem summaryReadyToPublish_cases (awaiting : Bool) (update : SummaryUpdate F) :
    (awaiting = true ∧ update.summaryReceivedAt = none ∧
        summaryReadyToPublish awaiting update = (false, true)) ∨
      ((awaiting = true → update.summaryReceivedAt.isSome) ∧
        summaryReadyToPublish awaiting update = (true, false)) := by
  cases awaiting <;> cases mark : update.summaryReceivedAt <;> simp [summaryReadyToPublish, mark]

/-- A call, when one is made, publishes the snapshot it was given. -/
theorem publishSummaryIfNeeded_call {update : SummaryUpdate F} {last : Option Timestamp}
    {encodes : Bool} {outbound : Option OutboundPublish} {call : PublishCall F}
    (called : (publishSummaryIfNeeded update last encodes outbound).2 = some call) :
    call.snapshot = update.snapshot := by
  simp only [publishSummaryIfNeeded] at called
  split at called
  · contradiction
  · split at called
    · contradiction
    · cases outbound <;> cases called <;> rfl

end Mqtt

/-- `awaiting_restored_snapshot`, where a session has it. -/
def Phase.guard : Phase F → Option Bool
  | .unsubscribing awaiting | .serving awaiting | .toggling awaiting => some awaiting
  | .publishing _ => some false
  | .offline | .restoring => none

/-- Nothing the two tasks share has moved, and the session only goes on or ends. -/
structure Tasks.Idle (before after : Tasks F) : Prop where
  updates : after.updates = before.updates
  publications : after.publications = before.publications
  dashboard : after.dashboard = before.dashboard
  applied : after.applied = before.applied
  calls : after.calls = before.calls
  published : after.published = before.published
  guard : after.phase.guard = before.phase.guard ∨ after.phase.guard = none
  publishing : ∀ summary, after.phase = .publishing summary → before.phase = .publishing summary
  restored : after.phase ≠ .restoring

namespace Tasks

/-- The commands, the tracked publication and the phase belong to the MQTT
task alone. -/
theorem Idle.move (tasks : Tasks F) (commands : OvenplaatDimmerCommands)
    (outbound : Option OutboundPublish) {phase : Phase F}
    (guard : phase.guard = tasks.phase.guard ∨ phase.guard = none)
    (publishing : ∀ summary, phase = .publishing summary → tasks.phase = .publishing summary)
    (restored : phase ≠ .restoring) :
    Idle tasks { tasks with commands := commands, outboundPublishes := outbound, phase := phase } :=
  ⟨rfl, rfl, rfl, rfl, rfl, rfl, guard, publishing, restored⟩

/-- A toggle touches neither the dashboard nor the queues of the summary. -/
theorem takeToggle_idle (tasks : Tasks F) (packetIdentifier : ℕ) (restored : tasks.phase ≠ .restoring) :
    Idle tasks (tasks.takeToggle packetIdentifier) := by
  have stays : Idle tasks tasks :=
    .move tasks tasks.commands tasks.outboundPublishes (Or.inl rfl) (fun _ same => same) restored
  cases phase : tasks.phase with
  | serving awaiting =>
    cases received : tasks.commands.tryReceive with
    | none => simpa [takeToggle, phase, received] using stays
    | some both =>
      obtain ⟨⟨⟩, commands⟩ := both
      cases outbound : tasks.outboundPublishes with
      | none =>
        simp only [takeToggle, phase, received, outbound]
        refine .move tasks commands _ (Or.inl ?_) ?_ ?_ <;> simp [phase, Phase.guard]
      | some pending =>
        -- The client refuses, which ends the session.
        simp only [takeToggle, phase, received, outbound, fail]
        refine .move tasks _ _ (Or.inr ?_) ?_ ?_ <;> simp [Phase.guard]
  | _ => simpa [takeToggle, phase] using stays

theorem snapshot_congr {first second : Tasks F} (dashboard : first.dashboard = second.dashboard)
    (applied : first.applied = second.applied) (timestamp : Timestamp) :
    first.snapshot timestamp = second.snapshot timestamp := by
  simp [snapshot, dashboard, applied]

/-! ## The main loop taking a summary -/

/-- Taking a summary drops it because of the guard, finds nothing to publish,
or starts a call with its snapshot. -/
theorem takeSummary_cases (tasks : Tasks F) (encodes : Bool) (packetIdentifier : ℕ) :
    tasks.takeSummary encodes packetIdentifier = tasks ∨
      ∃ awaiting summary rest, tasks.phase = .serving awaiting ∧
        tasks.publications.items = summary :: rest.items ∧
        ((awaiting = true ∧ summary.summaryReceivedAt = none ∧
            tasks.takeSummary encodes packetIdentifier =
              { tasks with publications := rest, phase := .serving true }) ∨
          (awaiting = true → summary.summaryReceivedAt.isSome) ∧ ∃ last,
            (tasks.takeSummary encodes packetIdentifier =
                { tasks with
                  publications := rest
                  phase := .serving false
                  lastSummaryUpdate := last } ∨
              ∃ call outbound, call.snapshot = summary.snapshot ∧
                tasks.takeSummary encodes packetIdentifier =
                  { tasks with
                    publications := rest
                    phase := .publishing summary
                    lastSummaryUpdate := last
                    calls := tasks.calls ++ [call]
                    outboundPublishes := outbound })) := by
  cases phase : tasks.phase with
  | serving awaiting =>
    cases received : tasks.publications.tryReceive with
    | none => exact Or.inl (by simp [takeSummary, phase, received])
    | some both =>
      obtain ⟨summary, rest⟩ := both
      refine Or.inr ⟨awaiting, summary, rest, rfl, Channel.tryReceive_eq_some.mp received, ?_⟩
      obtain ⟨waits, unmarked, held⟩ | ⟨marked, ready⟩ := summaryReadyToPublish_cases awaiting summary
      · refine Or.inl ⟨waits, unmarked, ?_⟩
        simp [takeSummary, phase, received, held]
      · refine Or.inr ⟨marked, (publishSummaryIfNeeded summary tasks.lastSummaryUpdate encodes
          tasks.outboundPublishes).1, ?_⟩
        cases called : (publishSummaryIfNeeded summary tasks.lastSummaryUpdate encodes
            tasks.outboundPublishes).2 with
        | none =>
          refine Or.inl ?_
          simp [takeSummary, phase, received, ready, called]
        | some call =>
          refine Or.inr ⟨call, tasks.outboundPublishes.or
            (some { packetIdentifier := packetIdentifier, topic := .summary }),
            publishSummaryIfNeeded_call called, ?_⟩
          simp [takeSummary, phase, received, ready, called]
  | _ => exact Or.inl (by simp [takeSummary, phase])

/-! ## The display task -/

variable [Zero F] [Add F] [Sub F] [Mul F] [NatCast F] [LT F] [DecidableLT F] [BEq F]
variable {tasks : Tasks F} {clock : Clock}


theorem drain_spec (dashboard : Dashboard F) (updates : List (Update F)) (now : Option LocalDateTime) :
    Batch.drain dashboard updates now =
      { dashboard := dashboard.applyAll (updates.map fun update => (update, now))
        nonSummaryUpdate := updates.any fun update => !update.isDailySummary
        summaryReceived := updates.any fun update => update.isCurrentSummary now } := by
  have general : ∀ batch : Batch F,
      updates.foldl (fun batch update => batch.take update now) batch =
        { dashboard := batch.dashboard.applyAll (updates.map fun update => (update, now))
          nonSummaryUpdate := batch.nonSummaryUpdate || updates.any fun update => !update.isDailySummary
          summaryReceived := batch.summaryReceived ||
            updates.any fun update => update.isCurrentSummary now } := by
    induction updates with
    | nil => simp
    | cons update rest ih =>
      intro batch
      rw [List.foldl_cons, ih]
      simp [Batch.take, Bool.or_assoc]
  rw [Batch.drain, general]
  simp

section Wakeup

/-- A wake-up applies everything queued. -/
theorem displayBatch_fields (tasks : Tasks F) (clock : Clock) :
    (tasks.displayBatch clock).updates.items = [] ∧
      (tasks.displayBatch clock).applied =
        tasks.applied ++ tasks.updates.items.map (fun update => (update, clock.now)) ∧
      (tasks.displayBatch clock).dashboard =
        tasks.dashboard.applyAll (tasks.updates.items.map fun update => (update, clock.now)) := by
  unfold displayBatch
  cases nothing : tasks.updates.items with
  | nil => exact ⟨nothing, by simp, rfl⟩
  | cons first rest =>
    rw [drain_spec]
    cases clock.utcNow with
    | none => exact ⟨rfl, rfl, rfl⟩
    | some timestamp =>
      simp only [List.isEmpty_cons, Bool.false_eq_true, ↓reduceIte]
      split <;> exact ⟨rfl, rfl, rfl⟩

/-- The MQTT task stays where it is. -/
theorem displayBatch_frame (tasks : Tasks F) (clock : Clock) :
    (tasks.displayBatch clock).phase = tasks.phase ∧
      (tasks.displayBatch clock).calls = tasks.calls ∧
      (tasks.displayBatch clock).published = tasks.published := by
  unfold displayBatch
  split
  · exact ⟨rfl, rfl, rfl⟩
  · cases clock.utcNow with
    | none => exact ⟨rfl, rfl, rfl⟩
    | some timestamp =>
      dsimp only
      split <;> exact ⟨rfl, rfl, rfl⟩

/-- With a synchronized clock it hands over a snapshot of the result, marked if
the queue held a current summary, unless there was nothing to show for. -/
theorem displayBatch_publications (tasks : Tasks F) {timestamp : Timestamp}
    (utc : clock.utcNow = some timestamp) :
    (tasks.displayBatch clock).publications.items =
      if (tasks.updates.items.any fun update => !update.isDailySummary) ||
          tasks.updates.items.any fun update => update.isCurrentSummary clock.now then
        [{ snapshot := (tasks.displayBatch clock).snapshot timestamp
           summaryReceivedAt :=
             (if tasks.updates.items.any fun update => update.isCurrentSummary clock.now then
               some timestamp
             else none).or
               (tasks.publications.items.head?.bind SummaryUpdate.summaryReceivedAt) }]
      else tasks.publications.items := by
  obtain ⟨_, applied, dashboard⟩ := displayBatch_fields tasks clock
  have taken : ((tasks.displayBatch clock).snapshot timestamp) =
      { tasks with
        dashboard := tasks.dashboard.applyAll
          (tasks.updates.items.map fun update => (update, clock.now))
        updates := .empty
        applied := tasks.applied ++ tasks.updates.items.map fun update =>
          (update, clock.now) }.snapshot timestamp :=
    snapshot_congr dashboard applied timestamp
  rw [taken]
  unfold displayBatch
  cases nothing : tasks.updates.items with
  | nil => simp
  | cons first rest =>
    rw [drain_spec, utc, ← nothing]
    have queued : tasks.updates.items.isEmpty = false := by simp [nothing]
    simp only [queued, Bool.false_eq_true, ↓reduceIte]
    split
    · exact queueSummaryUpdate_items _ _
    · rfl

/-- A summary queued after a wake-up was queued before, or shows the dashboard
as it is now; its mark comes from a current summary or from the one it replaced. -/
theorem displayBatch_queued {timestamp : Timestamp} {update : SummaryUpdate F}
    (utc : clock.utcNow = some timestamp)
    (member : update ∈ (tasks.displayBatch clock).publications.items) :
    update ∈ tasks.publications.items ∨
      update.snapshot = (tasks.displayBatch clock).snapshot timestamp ∧
        (update.summaryReceivedAt.isSome →
          (∃ queued ∈ tasks.updates.items, queued.isCurrentSummary clock.now = true) ∨
            ∃ previous ∈ tasks.publications.items, previous.summaryReceivedAt.isSome) := by
  rw [displayBatch_publications tasks utc] at member
  split at member
  · refine Or.inr ?_
    obtain rfl := List.mem_singleton.mp member
    refine ⟨rfl, ?_⟩
    intro mark
    by_cases current : tasks.updates.items.any fun update => update.isCurrentSummary clock.now
    · exact Or.inl (List.any_eq_true.mp current)
    · refine Or.inr ?_
      cases queued : tasks.publications.items with
      | nil => simp [current, queued] at mark
      | cons previous rest =>
        refine ⟨previous, List.mem_cons_self, ?_⟩
        simpa [current, queued] using mark
  · exact Or.inl member

end Wakeup

/-! ## Any step of a session after its restore -/

/-- What a step can do to what the two tasks share. -/
inductive SessionStep (tasks : Tasks F) (clock : Clock) : Event F → Tasks F → Prop where
  | idle (event : Event F) (after : Tasks F) (idle : Idle tasks after) :
    SessionStep tasks clock event after
  | pushes (update : Update F) (awaiting : Bool) (live : update.isDailySummary = false)
    (serving : tasks.phase = .serving awaiting) :
    SessionStep tasks clock (.receives update)
      { tasks with updates := queueUpdate tasks.updates update }
  | displays : SessionStep tasks clock .displays (tasks.displayBatch clock)
  | holdsBack (encodes : Bool) (packetIdentifier : ℕ) (summary : SummaryUpdate F)
    (rest : SummaryPublications F) (serving : tasks.phase = .serving true)
    (taken : tasks.publications.items = summary :: rest.items)
    (unmarked : summary.summaryReceivedAt = none) :
    SessionStep tasks clock (.takesSummary encodes packetIdentifier)
      { tasks with publications := rest, phase := .serving true }
  | skips (encodes : Bool) (packetIdentifier : ℕ) (awaiting : Bool) (summary : SummaryUpdate F)
    (rest : SummaryPublications F) (last : Option Timestamp)
    (serving : tasks.phase = .serving awaiting)
    (taken : tasks.publications.items = summary :: rest.items)
    (marked : awaiting = true → summary.summaryReceivedAt.isSome) :
    SessionStep tasks clock (.takesSummary encodes packetIdentifier)
      { tasks with publications := rest, phase := .serving false, lastSummaryUpdate := last }
  | calls (encodes : Bool) (packetIdentifier : ℕ) (awaiting : Bool) (summary : SummaryUpdate F)
    (rest : SummaryPublications F) (last : Option Timestamp) (call : PublishCall F)
    (outbound : Option OutboundPublish) (serving : tasks.phase = .serving awaiting)
    (taken : tasks.publications.items = summary :: rest.items)
    (marked : awaiting = true → summary.summaryReceivedAt.isSome)
    (content : call.snapshot = summary.snapshot) :
    SessionStep tasks clock (.takesSummary encodes packetIdentifier)
      { tasks with
        publications := rest
        phase := .publishing summary
        lastSummaryUpdate := last
        calls := tasks.calls ++ [call]
        outboundPublishes := outbound }
  | returns (summary : SummaryUpdate F) (publishing : tasks.phase = .publishing summary) :
    SessionStep tasks clock .callReturns
      { tasks with
        phase := .serving false
        lastSummaryUpdate := some summary.snapshot.timestamp
        published := tasks.published ++ [summary.snapshot] }
  | requeues (summary : SummaryUpdate F) (publishing : tasks.phase = .publishing summary) :
    SessionStep tasks clock .fails
      { tasks with
        phase := .offline
        publications := queueSummaryUpdate tasks.publications summary }
  | clears (unsubscribing : tasks.phase = .unsubscribing false) :
    SessionStep tasks clock .unsubscribes
      { tasks with phase := .serving false, publications := .empty }

/-- Every step of a session, once its restore phase is over and until the next
connection, is one of these. -/
theorem step_in_session (tasks : Tasks F) (event : Event F) (clock : Clock)
    (restored : tasks.phase ≠ .restoring) (sameSession : event ≠ .connects) :
    SessionStep tasks clock event (tasks.step (event, clock)) := by
  have keeps : ∀ (commands : OvenplaatDimmerCommands) (outbound : Option OutboundPublish),
      SessionStep tasks clock event
        { tasks with commands := commands, outboundPublishes := outbound } := fun commands outbound =>
    .idle event _ (.move tasks commands outbound (Or.inl rfl) (fun _ same => same) restored)
  have stays : SessionStep tasks clock event tasks := keeps tasks.commands tasks.outboundPublishes
  cases event with
  | connects => exact absurd rfl sameSession
  | receives update =>
    change SessionStep tasks clock _ (tasks.receive update clock)
    cases phase : tasks.phase with
    | serving awaiting =>
      cases summary : update.isDailySummary with
      | true => simpa [receive, phase, summary] using stays
      | false =>
        have pushed : tasks.receive update clock =
            { tasks with updates := queueUpdate tasks.updates update } := by
          simp [receive, phase, summary]
        rw [pushed]
        exact .pushes update awaiting summary phase
    | restoring => exact absurd phase restored
    | _ => simpa [receive, phase] using stays
  | displays => exact .displays
  | takesSummary encodes packetIdentifier =>
    change SessionStep tasks clock _ (tasks.takeSummary encodes packetIdentifier)
    obtain same | ⟨awaiting, summary, rest, phase, taken, ⟨rfl, unmarked, same⟩ |
      ⟨marked, last, same | ⟨call, outbound, content, same⟩⟩⟩ :=
      takeSummary_cases tasks encodes packetIdentifier
    · rw [same]
      exact stays
    · rw [same]
      exact .holdsBack encodes packetIdentifier summary rest phase taken unmarked
    · rw [same]
      exact .skips encodes packetIdentifier awaiting summary rest last phase taken marked
    · rw [same]
      exact .calls encodes packetIdentifier awaiting summary rest last call outbound phase taken
        marked content
  | restoreTimesOut =>
    cases phase : tasks.phase with
    | restoring => exact absurd phase restored
    | _ => simpa [step, phase] using stays
  | unsubscribes =>
    cases phase : tasks.phase with
    | unsubscribing awaiting =>
      cases awaiting with
      | true =>
        have served : tasks.step (.unsubscribes, clock) = { tasks with phase := .serving true } := by
          simp [step, phase]
        rw [served]
        refine .idle _ _ (.move tasks tasks.commands tasks.outboundPublishes (Or.inl ?_) ?_ ?_) <;>
          simp [phase, Phase.guard]
      | false =>
        have cleared : tasks.step (.unsubscribes, clock) =
            { tasks with phase := .serving false, publications := .empty } := by
          simp [step, phase, clearSummaryPublications]
        rw [cleared]
        exact .clears phase
    | _ => simpa [step, phase] using stays
  | takesToggle packetIdentifier => exact .idle _ _ (takeToggle_idle tasks packetIdentifier restored)
  | callReturns =>
    change SessionStep tasks clock _ tasks.callReturn
    cases phase : tasks.phase with
    | publishing summary =>
      simp only [callReturn, phase]
      exact .returns summary phase
    | toggling awaiting =>
      simp only [callReturn, phase]
      refine .idle _ _ (.move tasks tasks.commands tasks.outboundPublishes (Or.inl ?_) ?_ ?_) <;>
        simp [phase, Phase.guard]
    | _ => simpa [callReturn, phase] using stays
  | fails =>
    change SessionStep tasks clock _ tasks.fail
    cases phase : tasks.phase with
    | publishing summary =>
      simp only [fail, phase]
      exact .requeues summary phase
    | _ =>
      simp only [fail, phase]
      refine .idle _ _ (.move tasks _ _ (Or.inr ?_) ?_ ?_) <;> simp [Phase.guard]
  | acknowledges =>
    cases phase : tasks.phase with
    | serving awaiting =>
      simp only [step, phase]
      refine .idle _ _ (.move tasks tasks.commands none (Or.inl ?_) ?_ ?_) <;> simp [phase, Phase.guard]
    | restoring => exact absurd phase restored
    | _ => simpa [step, phase] using stays
  | pressesButton => exact keeps _ _

/-- Only a new connection restores again. -/
theorem SessionStep.restored {event : Event F} {after : Tasks F}
    (happened : SessionStep tasks clock event after) (restored : tasks.phase ≠ .restoring) :
    after.phase ≠ .restoring := by
  cases happened with
  | idle event after idle => exact idle.restored
  | pushes => exact restored
  | displays =>
    rw [(displayBatch_frame tasks clock).1]
    exact restored
  | _ => simp

/-- While a session restores, nothing is published. -/
theorem restoring_step {event : Event F} (sameSession : event ≠ .connects)
    (still : (tasks.step (event, clock)).phase = .restoring) :
    tasks.phase = .restoring ∧ (tasks.step (event, clock)).calls = tasks.calls ∧
      (tasks.step (event, clock)).published = tasks.published := by
  by_cases restoring : tasks.phase = .restoring
  · refine ⟨restoring, ?_⟩
    cases event with
    | connects => exact absurd rfl sameSession
    | displays => exact (displayBatch_frame tasks clock).2
    | _ => simp [step, receive, takeSummary, takeToggle, callReturn, fail, restoring]
  · exact absurd still ((step_in_session tasks event clock restoring sameSession).restored restoring)

end Tasks

end EnergyDisplay

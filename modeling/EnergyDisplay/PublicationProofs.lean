import EnergyDisplay.TaskProofs
import Mathlib.Algebra.Order.Ring.Rat

/-! Nothing is published before the retained summary is back. In a session
that received a summary of today, a snapshot can only be published once the
guard has seen a marked one; the mark comes from a wake-up that drained the
summary, and the queue cannot lose the summary without losing every older one
before it. -/
namespace EnergyDisplay

open Mqtt Runs

variable {F : Type} {summary : DailySummary F}

/-- The clock is synchronized and shows the date of the summary. -/
structure Mqtt.Clock.On (clock : Clock) (summary : DailySummary F) : Prop where
  today : ∃ now, clock.now = some now ∧ summary.isFor now = true
  synced : ∃ timestamp, clock.utcNow = some timestamp

/-- From any queued summary on, the restored one is still queued. -/
def Mqtt.SummaryLast (summary : DailySummary F) : List (Update F) → Prop
  | [] => True
  | update :: rest =>
    (update.isDailySummary = true → .dailySummary summary ∈ update :: rest) ∧ SummaryLast summary rest

namespace Mqtt.SummaryLast

variable {updates : List (Update F)} {update : Update F}

theorem mem (last : SummaryLast summary updates) (queued : update ∈ updates)
    (isSummary : update.isDailySummary = true) : .dailySummary summary ∈ updates := by
  induction updates with
  | nil => cases queued
  | cons first rest ih =>
    rcases List.mem_cons.mp queued with rfl | later
    · exact last.1 isSummary
    · exact List.mem_cons_of_mem _ (ih last.2 later)

theorem push_live (last : SummaryLast summary updates) (live : update.isDailySummary = false) :
    SummaryLast summary (updates ++ [update]) := by
  induction updates with
  | nil => exact ⟨by simp [live], trivial⟩
  | cons first rest ih =>
    refine ⟨fun isSummary => ?_, ih last.2⟩
    exact List.mem_append_left _ (last.1 isSummary)

theorem push_summary (updates : List (Update F)) :
    SummaryLast summary (updates ++ [.dailySummary summary]) := by
  induction updates with
  | nil => exact ⟨by simp, trivial⟩
  | cons first rest ih => exact ⟨by simp, ih⟩

end Mqtt.SummaryLast

namespace Tasks

variable [Zero F] [Add F] [Sub F] [Mul F] [NatCast F] [LT F] [DecidableLT F] [BEq F]
variable {start tasks : Tasks F} {event : Event F} {clock : Clock}

/-- Since `start`, the dashboard was given the summary, and took it. -/
def Given (start : Tasks F) (summary : DailySummary F)
    (applied : List (Update F × Option LocalDateTime)) (dashboard : Dashboard F) : Prop :=
  ∃ since now, applied = start.applied ++ since ∧ dashboard = start.dashboard.applyAll since ∧
    (.dailySummary summary, some now) ∈ since ∧ summary.isFor now = true

/-- A snapshot of a dashboard to which the summary had been applied. -/
def TakenAfter (start : Tasks F) (summary : DailySummary F) (snapshot : SummarySnapshot F) : Prop :=
  ∃ dashboard, Given start summary snapshot.applied dashboard ∧
    snapshot.gridImport = dashboard.status.gridImportHourly ∧
    snapshot.gridExport = dashboard.status.gridExportHourly ∧
    snapshot.solarProduction = dashboard.status.solarProductionHourly

theorem Given.snapshot (given : Given start summary tasks.applied tasks.dashboard)
    (timestamp : Timestamp) : TakenAfter start summary (tasks.snapshot timestamp) :=
  ⟨tasks.dashboard, given, rfl, rfl, rfl⟩

theorem Given.append {applied : List (Update F × Option LocalDateTime)} {dashboard : Dashboard F}
    (given : Given start summary applied dashboard) (more : List (Update F × Option LocalDateTime)) :
    Given start summary (applied ++ more) (dashboard.applyAll more) := by
  obtain ⟨since, now, rfl, rfl, member, today⟩ := given
  exact ⟨since ++ more, now, List.append_assoc .., (List.foldl_append ..).symm,
    List.mem_append_left _ member, today⟩

/-- The invariant of the session: `received` is the state in which the summary
arrived, `started` the one in which the session began. -/
structure Guarded (started received : Tasks F) (summary : DailySummary F) (tasks : Tasks F) : Prop where
  history : ∃ since, tasks.applied = received.applied ++ since ∧
    tasks.dashboard = received.dashboard.applyAll since
  queued : SummaryLast summary tasks.updates.items
  marked : ∀ update ∈ tasks.publications.items, update.summaryReceivedAt.isSome →
    Given received summary tasks.applied tasks.dashboard
  released : tasks.phase.guard = some false →
    Given received summary tasks.applied tasks.dashboard
  waiting : ∀ update ∈ tasks.publications.items,
    update.summaryReceivedAt.isSome ∨ tasks.phase.guard = some false →
    TakenAfter received summary update.snapshot
  publishing : ∀ update, tasks.phase = .publishing update →
    TakenAfter received summary update.snapshot
  restored : tasks.phase ≠ .restoring
  calls : ∃ made, tasks.calls = started.calls ++ made ∧
    ∀ call ∈ made, TakenAfter received summary call.snapshot
  published : ∃ done, tasks.published = started.published ++ done ∧
    ∀ snapshot ∈ done, TakenAfter received summary snapshot

variable {started received : Tasks F}

/-- A wake-up that drains the summary gives it to the dashboard. -/
theorem Guarded.drained (guarded : Guarded started received summary tasks)
    (on : clock.On summary) (queued : .dailySummary summary ∈ tasks.updates.items) :
    Given received summary (tasks.displayBatch clock).applied (tasks.displayBatch clock).dashboard := by
  obtain ⟨since, applied, dashboard⟩ := guarded.history
  obtain ⟨now, shows, today⟩ := on.today
  obtain ⟨_, applied', dashboard'⟩ := displayBatch_fields tasks clock
  refine ⟨since ++ tasks.updates.items.map (fun update => (update, clock.now)), now, ?_, ?_, ?_, today⟩
  · rw [applied', applied, List.append_assoc]
  · rw [dashboard', dashboard]
    exact (List.foldl_append ..).symm
  · rw [shows]
    exact List.mem_append_right _ (List.mem_map_of_mem queued)

/-- What the dashboard was given stays given. -/
theorem Given.displayBatch (given : Given start summary tasks.applied tasks.dashboard) (clock : Clock) :
    Given start summary (tasks.displayBatch clock).applied (tasks.displayBatch clock).dashboard := by
  obtain ⟨_, applied, dashboard⟩ := displayBatch_fields tasks clock
  rw [applied, dashboard]
  exact given.append _

/-- Step lemma: the display task. -/
theorem Guarded.displayBatch (guarded : Guarded started received summary tasks)
    (on : clock.On summary) : Guarded started received summary (tasks.displayBatch clock) := by
  obtain ⟨updates, applied, dashboard⟩ := displayBatch_fields tasks clock
  obtain ⟨phase, calls, published⟩ := displayBatch_frame tasks clock
  obtain ⟨timestamp, utc⟩ := on.synced
  have given : ∀ update ∈ (tasks.displayBatch clock).publications.items,
      update.summaryReceivedAt.isSome ∨ tasks.phase.guard = some false →
      Given received summary (tasks.displayBatch clock).applied (tasks.displayBatch clock).dashboard := by
    rintro update member (mark | released)
    · obtain old | ⟨_, origin⟩ := displayBatch_queued utc member
      · exact (guarded.marked update old mark).displayBatch clock
      · obtain ⟨queued, inside, current⟩ | ⟨previous, inside, mark⟩ := origin mark
        · exact guarded.drained on (guarded.queued.mem inside (current_isDailySummary current))
        · exact (guarded.marked previous inside mark).displayBatch clock
    · exact (guarded.released released).displayBatch clock
  refine ⟨?_, ?_, ?_, ?_, ?_, ?_, ?_, ?_, ?_⟩
  · obtain ⟨since, applied', dashboard'⟩ := guarded.history
    refine ⟨since ++ tasks.updates.items.map (fun update => (update, clock.now)), ?_, ?_⟩
    · rw [applied, applied', List.append_assoc]
    · rw [dashboard, dashboard']
      exact (List.foldl_append ..).symm
  · rw [updates]
    trivial
  · exact fun update member mark => given update member (Or.inl mark)
  · rw [phase]
    exact fun released => (guarded.released released).displayBatch clock
  · rw [phase]
    intro update member release
    obtain old | ⟨fresh, _⟩ := displayBatch_queued utc member
    · exact guarded.waiting update old release
    · rw [fresh]
      exact (given update member release).snapshot timestamp
  · rw [phase]
    exact guarded.publishing
  · rw [phase]
    exact guarded.restored
  · rw [calls]
    exact guarded.calls
  · rw [published]
    exact guarded.published

theorem Guarded.idle {after : Tasks F} (guarded : Guarded started received summary tasks)
    (idle : Idle tasks after) : Guarded started received summary after where
  history := by
    rw [idle.applied, idle.dashboard]
    exact guarded.history
  queued := by
    rw [idle.updates]
    exact guarded.queued
  marked := by
    rw [idle.applied, idle.dashboard, idle.publications]
    exact guarded.marked
  released := by
    intro release
    rw [idle.applied, idle.dashboard]
    rcases idle.guard with same | gone
    · exact guarded.released (same ▸ release)
    · simp [gone] at release
  waiting := by
    rw [idle.publications]
    intro update member release
    refine guarded.waiting update member (release.imp_right ?_)
    intro release
    rcases idle.guard with same | gone
    · exact same ▸ release
    · simp [gone] at release
  publishing := fun update phase => guarded.publishing update (idle.publishing update phase)
  restored := idle.restored
  calls := by
    rw [idle.calls]
    exact guarded.calls
  published := by
    rw [idle.published]
    exact guarded.published

/-- A summary the guard lets through shows a dashboard with the restored one. -/
theorem Guarded.release {awaiting : Bool} {released : SummaryUpdate F} {rest : SummaryPublications F}
    (guarded : Guarded started received summary tasks) (serving : tasks.phase = .serving awaiting)
    (taken : tasks.publications.items = released :: rest.items)
    (marked : awaiting = true → released.summaryReceivedAt.isSome) :
    Given received summary tasks.applied tasks.dashboard ∧
      TakenAfter received summary released.snapshot := by
  have queued : released ∈ tasks.publications.items := by simp [taken]
  cases awaiting with
  | true => exact ⟨guarded.marked released queued (marked rfl),
      guarded.waiting released queued (Or.inl (marked rfl))⟩
  | false =>
    have open_ : tasks.phase.guard = some false := by rw [serving]; rfl
    exact ⟨guarded.released open_, guarded.waiting released queued (Or.inr open_)⟩

/-- A session that leaves the queue empty keeps the invariant, where the guard
falls only over a dashboard that was given the summary. -/
theorem Guarded.vacates (guarded : Guarded started received summary tasks) {awaiting : Bool}
    {publications : SummaryPublications F} (vacant : publications.items = [])
    (given : awaiting = false → Given received summary tasks.applied tasks.dashboard)
    (last : Option Timestamp) :
    Guarded started received summary
      { tasks with
        publications := publications, phase := .serving awaiting, lastSummaryUpdate := last } := by
  refine { guarded with marked := ?_, released := ?_, waiting := ?_, publishing := ?_, restored := ?_ }
  · simp [vacant]
  · exact fun released => given (by simpa [Phase.guard] using released)
  · simp [vacant]
  · simp
  · simp

/-- Step lemma: any step of the session keeps the invariant. -/
theorem Guarded.stepped {after : Tasks F} (guarded : Guarded started received summary tasks)
    (on : clock.On summary) (happened : SessionStep tasks clock event after) :
    Guarded started received summary after := by
  cases happened with
  | idle event after idle => exact guarded.idle idle
  | pushes update awaiting live serving =>
    refine { guarded with queued := ?_ }
    obtain ⟨_, items⟩ | ⟨oldest, others, full, _, items⟩ := queueUpdate_cases tasks.updates update
    · rw [items]
      exact guarded.queued.push_live live
    · have queued := guarded.queued
      rw [full] at queued
      rw [items]
      exact queued.2.push_live live
  | displays => exact guarded.displayBatch on
  | holdsBack encodes packetIdentifier held rest serving taken unmarked =>
    exact guarded.vacates (nothing_behind taken) (fun falls => by cases falls) tasks.lastSummaryUpdate
  | skips encodes packetIdentifier awaiting released rest last serving taken marked =>
    have given := (guarded.release serving taken marked).1
    exact guarded.vacates (nothing_behind taken) (fun _ => given) last
  | calls encodes packetIdentifier awaiting released rest last call outbound serving taken marked content =>
    have vacant := nothing_behind taken
    obtain ⟨given, after⟩ := guarded.release serving taken marked
    obtain ⟨made, calls, taken'⟩ := guarded.calls
    refine { guarded with
      marked := ?_, released := ?_, waiting := ?_, publishing := ?_, restored := ?_, calls := ?_ }
    · simp [vacant]
    · exact fun _ => given
    · simp [vacant]
    · rintro update ⟨⟩
      exact after
    · simp
    · refine ⟨made ++ [call], by simp [calls], List.forall_mem_append.mpr ⟨taken', ?_⟩⟩
      rintro published member
      obtain rfl := List.mem_singleton.mp member
      rw [content]
      exact after
  | returns update publishing =>
    have after := guarded.publishing update publishing
    obtain ⟨done, published, taken⟩ := guarded.published
    refine { guarded with released := ?_, waiting := ?_, publishing := ?_, restored := ?_, published := ?_ }
    · exact fun _ => guarded.released (by rw [publishing]; rfl)
    · exact fun update member _ => guarded.waiting update member (Or.inr (by rw [publishing]; rfl))
    · simp
    · simp
    · refine ⟨done ++ [update.snapshot], by simp [published], ?_⟩
      exact List.forall_mem_append.mpr ⟨taken, by simpa using after⟩
  | requeues update publishing =>
    have after := guarded.publishing update publishing
    have given := guarded.released (by rw [publishing]; rfl)
    refine { guarded with marked := ?_, released := ?_, waiting := ?_, publishing := ?_, restored := ?_ }
    · exact fun _ _ _ => given
    · exact fun _ => given
    · rw [queueSummaryUpdate_items]
      intro queued member _
      obtain rfl := List.mem_singleton.mp member
      exact after
    · simp
    · simp
  | clears unsubscribing =>
    have given := guarded.released (by rw [unsubscribing]; rfl)
    exact guarded.vacates rfl (fun _ => given) tasks.lastSummaryUpdate

/-! ## The session -/

/-- Run lemma: a session that is still restoring has published nothing. -/
theorem restoring_run {events : List (Event F × Clock)}
    (sameSession : ∀ event ∈ events, event.1 ≠ .connects)
    (still : (run step start events).phase = .restoring) :
    (run step start events).calls = start.calls ∧
      (run step start events).published = start.published := by
  have general : start.phase = .restoring ∧ (run step start events).calls = start.calls ∧
      (run step start events).published = start.published := by
    induction events generalizing start with
    | nil => exact ⟨still, rfl, rfl⟩
    | cons event rest ih =>
      obtain ⟨here, later⟩ := List.forall_mem_cons.mp sameSession
      obtain ⟨restoring, calls, published⟩ := ih later still
      obtain ⟨restoring', calls', published'⟩ := restoring_step here restoring
      exact ⟨restoring', calls.trans calls', published.trans published'⟩
  exact general.2

/-- The restore phase takes the summary in: older snapshots are cleared and the
guard is up. -/
theorem arrival_step (restoring : received.phase = .restoring) (on : clock.On summary) :
    received.step (.receives (.dailySummary summary), clock) =
      { received with
        updates := queueUpdate received.updates (.dailySummary summary)
        publications := .empty
        phase := .unsubscribing true } := by
  obtain ⟨now, shows, today⟩ := on.today
  obtain ⟨timestamp, utc⟩ := on.synced
  simp [step, receive, restoring, queueIncomingUpdate, clearSummaryPublications, shows, today, utc]

theorem Guarded.arrival (restoring : received.phase = .restoring) (on : clock.On summary)
    (calls : received.calls = started.calls) (published : received.published = started.published) :
    Guarded started received summary (received.step (.receives (.dailySummary summary), clock)) := by
  rw [arrival_step restoring on]
  refine ⟨⟨[], by simp, rfl⟩, ?_, by simp, by simp [Phase.guard], by simp, by simp, by simp,
    ⟨[], by simp [calls], by simp⟩, ⟨[], by simp [published], by simp⟩⟩
  obtain ⟨_, items⟩ | ⟨oldest, others, _, _, items⟩ :=
    queueUpdate_cases received.updates (.dailySummary summary) <;>
  · rw [items]
    exact SummaryLast.push_summary _

/-- **The retained summary is never overwritten by un-restored state.** A
session connects, and in its restore phase receives a summary of today, with
the clock synchronized and on that date. Whatever was queued before, however
the tasks interleave and whatever fails: each snapshot the session gives to the
client, and each it publishes, shows a dashboard that was given the summary
after it arrived. -/
theorem published_after_restore (started : Tasks F) (connected clock : Clock)
    (restoring events : List (Event F × Clock)) (summary : DailySummary F)
    (sameSession : ∀ event ∈ restoring ++ events, event.1 ≠ .connects)
    (on : clock.On summary ∧ ∀ event ∈ events, event.2.On summary) :
    let received := run step started ((.connects, connected) :: restoring)
    let final := run step received ((.receives (.dailySummary summary), clock) :: events)
    received.phase = .restoring →
      (∃ made, final.calls = started.calls ++ made ∧
          ∀ call ∈ made, TakenAfter received summary call.snapshot) ∧
        ∃ done, final.published = started.published ++ done ∧
          ∀ snapshot ∈ done, TakenAfter received summary snapshot := by
  intro received final phase
  obtain ⟨sameBefore, sameAfter⟩ := List.forall_mem_append.mp sameSession
  obtain ⟨calls, published⟩ := restoring_run sameBefore phase
  have connecting : (started.step (.connects, connected)).calls = started.calls ∧
      (started.step (.connects, connected)).published = started.published := by
    unfold step
    dsimp only
    split <;> exact ⟨rfl, rfl⟩
  have arrived : Guarded started received summary
      (received.step (.receives (.dailySummary summary), clock)) :=
    Guarded.arrival phase on.1 (calls.trans connecting.1) (published.trans connecting.2)
  have preserved : ∀ tasks event, Guarded started received summary tasks →
      event.1 ≠ .connects ∧ event.2.On summary →
      Guarded started received summary (tasks.step event) := fun tasks event guarded admitted =>
    guarded.stepped admitted.2 (step_in_session tasks event.1 event.2 guarded.restored admitted.1)
  have guarded : Guarded started received summary
      (run step (received.step (.receives (.dailySummary summary), clock)) events) :=
    run_invariant preserved arrived fun event member => ⟨sameAfter event member, on.2 event member⟩
  exact ⟨guarded.calls, guarded.published⟩

/-- A synchronized clock on the morning of 2026-09-09. -/
def morningClock : Clock where
  now := some .morning
  utcNow := some ⟨1788941700000000000⟩

/-- The summary of that day, with 1200 Wh of solar production at 9:00. -/
def morningSummary : DailySummary ℚ where
  date := ⟨2026, 9, 9⟩
  solarProduction := { HourlyData.default with values := fun hour => if hour.val = 9 then 1200 else 0 }
  gridImport := .default
  gridExport := .default

theorem morningClock_on : morningClock.On morningSummary :=
  ⟨⟨.morning, rfl, by decide⟩, ⟨_, rfl⟩⟩

/-- After the restore: the display wakes up, and in the next UTC hour again. -/
def morningSession : List (Event ℚ × Clock) :=
  [(.unsubscribes, morningClock), (.displays, morningClock), (.takesSummary true 1, morningClock),
    (.receives (.heatpumpPower 900), morningClock),
    (.displays, { morningClock with utcNow := some ⟨1788945300000000000⟩ }),
    (.takesSummary true 2, morningClock), (.callReturns, morningClock)]

/-- The session publishes one snapshot, of a dashboard with the summary. -/
theorem morning_published_after_restore :
    let received := run step boot [(.connects, morningClock)]
    let final := run step received
      ((.receives (.dailySummary morningSummary), morningClock) :: morningSession)
    final.published.length = 1 ∧
      (∃ made, final.calls = (boot : Tasks ℚ).calls ++ made ∧
        ∀ call ∈ made, TakenAfter received morningSummary call.snapshot) ∧
      ∃ done, final.published = (boot : Tasks ℚ).published ++ done ∧
        ∀ snapshot ∈ done, TakenAfter received morningSummary snapshot := by
  refine ⟨by decide +kernel, published_after_restore boot morningClock morningClock [] morningSession
    morningSummary ?_ ⟨morningClock_on, ?_⟩ rfl⟩
  · simp [morningSession]
  · simp only [morningSession, List.forall_mem_cons]
    refine ⟨morningClock_on, morningClock_on, morningClock_on, morningClock_on, ?_, morningClock_on,
      morningClock_on, by simp⟩
    exact ⟨⟨.morning, rfl, by decide⟩, ⟨_, rfl⟩⟩

end Tasks

end EnergyDisplay

import EnergyDisplay.PublicationProofs

/-! Releasing the guard. The marker that lets the hourly publication start
again is the restored summary itself as long as it is queued, and the
watermark of the publication queue from the wake-up that drains it. The
watermark survives coalescing; the summary does not survive a burst: when
eight live updates follow it before the display task wakes up, it is replaced
as the oldest, and the guard is never released. -/
namespace EnergyDisplay

open Mqtt Runs

variable {F : Type} {summary : DailySummary F}

namespace Tasks

/-- The guard is down, or something is queued that will release it. -/
def Releasable (summary : DailySummary F) (tasks : Tasks F) : Prop :=
  tasks.phase.guard = some true → .dailySummary summary ∈ tasks.updates.items ∨
    ∃ update ∈ tasks.publications.items, update.summaryReceivedAt.isSome

/-- The invariant: the marker is in exactly one of the two queues. -/
structure MarkerKept (summary : DailySummary F) (tasks : Tasks F) : Prop where
  restored : tasks.phase ≠ .restoring
  marker : tasks.phase.guard = some true →
    (.dailySummary summary ∈ tasks.updates.items ∧
        ∀ update ∈ tasks.publications.items, update.summaryReceivedAt = none) ∨
      (.dailySummary summary ∉ tasks.updates.items ∧
        ∃ update ∈ tasks.publications.items, update.summaryReceivedAt.isSome)

/-- A live update does not find the queue full with the only copy of the
summary as its oldest entry. -/
def SparesSummary (summary : DailySummary F) (tasks : Tasks F) (event : Event F × Clock) : Prop :=
  ∀ update, event.1 = .receives update → update.isDailySummary = false →
    tasks.phase = .serving true → tasks.updates.items.length = updateQueueDepth →
    tasks.updates.items.head? = some (.dailySummary summary) →
    .dailySummary summary ∈ tasks.updates.items.tail

variable {start tasks after : Tasks F} {event : Event F} {clock : Clock}

theorem live_ne_summary {update : Update F} (summary : DailySummary F)
    (live : update.isDailySummary = false) : Update.dailySummary summary ≠ update := by
  rintro rfl
  cases live

theorem MarkerKept.releasable (kept : MarkerKept summary tasks) : Releasable summary tasks := by
  intro awaiting
  rcases kept.marker awaiting with ⟨queued, _⟩ | ⟨_, marked⟩
  · exact Or.inl queued
  · exact Or.inr marked

variable [Zero F] [Add F] [Sub F] [Mul F] [NatCast F] [LT F] [DecidableLT F] [BEq F]

/-- The wake-up that drains the summary leaves its mark, and a mark stays. -/
theorem MarkerKept.displayBatch (kept : MarkerKept summary tasks) (on : clock.On summary) :
    MarkerKept summary (tasks.displayBatch clock) := by
  obtain ⟨updates, _, _⟩ := displayBatch_fields tasks clock
  obtain ⟨timestamp, utc⟩ := on.synced
  obtain ⟨now, shows, today⟩ := on.today
  have publications := displayBatch_publications tasks utc
  have phase := (displayBatch_frame tasks clock).1
  refine ⟨phase ▸ kept.restored, fun awaiting => Or.inr ⟨by simp [updates], ?_⟩⟩
  rw [phase] at awaiting
  rcases kept.marker awaiting with ⟨queued, _⟩ | ⟨_, marked⟩
  · have current : (tasks.updates.items.any fun update => update.isCurrentSummary clock.now) = true :=
      List.any_eq_true.mpr ⟨_, queued, by simp [Update.isCurrentSummary, shows, today]⟩
    rw [publications]
    simp [current]
  · obtain ⟨update, member, mark⟩ := marked
    have queued := only_queued member
    rw [publications]
    split
    · refine ⟨_, List.mem_singleton_self _, ?_⟩
      cases tasks.updates.items.any fun update => update.isCurrentSummary clock.now <;>
        simp [queued, mark]
    · exact ⟨update, member, mark⟩

/-- Step lemma: a step that spares the summary keeps the marker. -/
theorem MarkerKept.stepped (kept : MarkerKept summary tasks) (on : clock.On summary)
    (spares : SparesSummary summary tasks (event, clock))
    (happened : SessionStep tasks clock event after) : MarkerKept summary after := by
  have restored := happened.restored kept.restored
  cases happened with
  | idle event after idle =>
    refine ⟨restored, ?_⟩
    intro awaiting
    rw [idle.updates, idle.publications]
    rcases idle.guard with same | gone
    · exact kept.marker (same ▸ awaiting)
    · simp [gone] at awaiting
  | pushes update awaiting live serving =>
    refine ⟨restored, ?_⟩
    intro waits
    have waiting : tasks.phase = .serving true := by
      rw [serving] at waits ⊢
      simpa [Phase.guard] using waits
    have new := live_ne_summary summary live
    refine (kept.marker waits).imp (And.imp_left fun queued => ?_) (And.imp_left fun gone => ?_)
    · obtain ⟨_, items⟩ | ⟨oldest, others, items, full, left⟩ := queueUpdate_cases tasks.updates update
      · rw [items]
        exact List.mem_append_left _ queued
      · have spared := spares update rfl live waiting full
        rw [items] at queued spared
        rw [left]
        refine List.mem_append_left _ ?_
        rcases List.mem_cons.mp queued with rfl | inside
        · exact spared rfl
        · exact inside
    · obtain ⟨_, items⟩ | ⟨oldest, others, items, full, left⟩ := queueUpdate_cases tasks.updates update
      · simp [items, gone, new]
      · rw [items] at gone
        simp [left, new, List.not_mem_of_not_mem_cons gone]
  | displays => exact kept.displayBatch on
  | holdsBack encodes packetIdentifier held rest serving taken unmarked =>
    refine ⟨restored, ?_⟩
    intro _
    have vacant := nothing_behind taken
    rcases kept.marker (by rw [serving]; rfl) with ⟨queued, _⟩ | ⟨_, update, member, mark⟩
    · exact Or.inl ⟨queued, by simp [vacant]⟩
    · rw [taken, vacant, List.mem_singleton] at member
      simp [member, unmarked] at mark
  | _ => exact ⟨restored, by simp [Phase.guard]⟩

/-- A step that does not spare the summary silences the session at once. -/
theorem MarkerKept.lost (kept : MarkerKept summary tasks)
    (lost : ¬ SparesSummary summary tasks (event, clock)) :
    ¬ Releasable summary (tasks.step (event, clock)) := by
  simp only [SparesSummary, not_forall] at lost
  obtain ⟨update, rfl, live, serving, full, oldest, gone⟩ := lost
  have pushed : tasks.step (.receives update, clock) =
      { tasks with updates := queueUpdate tasks.updates update } := by
    simp [step, receive, serving, live]
  obtain ⟨rest, items⟩ := List.head?_eq_some_iff.mp oldest
  have unmarked : ∀ update ∈ tasks.publications.items, update.summaryReceivedAt = none := by
    rcases kept.marker (by rw [serving]; rfl) with ⟨_, unmarked⟩ | ⟨gone, _⟩
    · exact unmarked
    · exact absurd (by simp [items]) gone
  have left : (queueUpdate tasks.updates update).items = rest ++ [update] :=
    Channel.sendReplacingOldest_full update items full
  rw [pushed]
  intro releasable
  rw [items] at gone
  rcases releasable (by rw [serving]; rfl) with queued | ⟨other, member, mark⟩
  · rw [left] at queued
    rcases List.mem_append.mp queued with inside | last
    · exact gone inside
    · exact live_ne_summary summary live (List.mem_singleton.mp last)
  · rw [unmarked other member] at mark
    cases mark

/-- The summary that arrives is the marker. -/
theorem MarkerKept.arrival {received : Tasks F} (restoring : received.phase = .restoring)
    (on : clock.On summary) :
    MarkerKept summary (received.step (.receives (.dailySummary summary), clock)) := by
  rw [arrival_step restoring on]
  refine ⟨by simp, fun _ => Or.inl ⟨?_, by simp⟩⟩
  obtain ⟨_, items⟩ | ⟨oldest, others, _, _, items⟩ :=
    queueUpdate_cases received.updates (.dailySummary summary) <;>
  · rw [items]
    exact List.mem_append_right _ (List.mem_singleton_self _)

/-- **The guard can be released exactly as long as no burst drops the summary.**
From the moment a summary of today arrives, with the clock synchronized and on
its date, until the next connection: in every state in which the guard is up
something queued will release it, if and only if no live update finds the
queue full with the only copy of the summary as its oldest entry. -/
theorem guard_releasable_iff (received : Tasks F) (clock : Clock) (events : List (Event F × Clock))
    (summary : DailySummary F) (restoring : received.phase = .restoring) (on : clock.On summary)
    (session : ∀ event ∈ events, event.1 ≠ .connects ∧ event.2.On summary) :
    (∀ tasks ∈ visited step (received.step (.receives (.dailySummary summary), clock)) events,
        Releasable summary tasks) ↔
      StepsMeet step (SparesSummary summary)
        (received.step (.receives (.dailySummary summary), clock)) events := by
  refine visited_iff_steps_meet (fun event => event.1 ≠ .connects ∧ event.2.On summary)
    (MarkerKept summary) ?_ ?_ ?_ (MarkerKept.arrival restoring on) session
  · exact fun tasks kept => kept.releasable
  · exact fun tasks event kept admitted spares =>
      kept.stepped admitted.2 spares (step_in_session tasks event.1 event.2 kept.restored admitted.1)
  · exact fun tasks event kept _ lost => kept.lost lost

/-- A session whose display task wakes up in time. -/
theorem morning_guard_releasable :
    let received := run step boot [(.connects, morningClock)]
    (∀ tasks ∈ visited step
        (received.step (.receives (.dailySummary morningSummary), morningClock))
        [(.unsubscribes, morningClock), (.displays, morningClock)],
      Releasable morningSummary tasks) ↔
      StepsMeet step (SparesSummary morningSummary)
        (received.step (.receives (.dailySummary morningSummary), morningClock))
        [(.unsubscribes, morningClock), (.displays, morningClock)] :=
  guard_releasable_iff _ morningClock _ morningSummary rfl morningClock_on
    (by simp [morningClock_on])

/-- Eight live updates before the display task wakes up. -/
def burst : List (Event ℚ × Clock) :=
  (.unsubscribes, morningClock) ::
    List.replicate 8 (.receives (.grid GridData.default), morningClock)

/-- After the burst the guard is still up, the summary is gone from the queue,
and no watermark will ever come of it. -/
theorem burst_silences_publication :
    let received := run step boot [(.connects, morningClock)]
    received.phase = .restoring ∧ morningClock.On morningSummary ∧
      (∀ event ∈ burst, event.1 ≠ .connects ∧ event.2.On morningSummary) ∧
      ∃ tasks ∈ visited step
          (received.step (.receives (.dailySummary morningSummary), morningClock)) burst,
        ¬ Releasable morningSummary tasks := by
  refine ⟨rfl, morningClock_on, ?_, _, last_visited, fun releasable => ?_⟩
  · simp [burst, morningClock_on]
  · rcases releasable rfl with queued | marked
    · exact absurd queued (by decide +kernel)
    · exact absurd marked (by decide +kernel)

end Tasks

end EnergyDisplay

import EnergyDisplay.TaskProofs
import Mathlib.Algebra.Order.Ring.Rat
import Mathlib.Order.Lattice

/-! At most one publication in a UTC hour. The watermark `last_summary_update`
is the latest time the task has heard of: every time it was set from is at or
before it. What is queued in a session is stamped at or after it, and a call
in flight is for a later hour. A failed call may put an old snapshot over a
newer watermark, but only in a queue that the next connection clears. -/
namespace EnergyDisplay

open Mqtt Runs

variable {F : Type}

/-! ## Hours -/

namespace Timestamp

variable {first second : Timestamp}

theorem nanoseconds_injective : Function.Injective nanoseconds := by
  rintro ⟨first⟩ ⟨second⟩ same
  exact congrArg Timestamp.mk same

/-- `jiff::Timestamp` is ordered in time. -/
instance : LinearOrder Timestamp := LinearOrder.lift' nanoseconds nanoseconds_injective

/-- The UTC hour, counted since the epoch: `floor(seconds / 3600)`. -/
def hourCount (timestamp : Timestamp) : Int := timestamp.nanoseconds / 1000000000 / 3600

theorem hourCount_mono (order : first ≤ second) : first.hourCount ≤ second.hourCount := by
  have : first.nanoseconds ≤ second.nanoseconds := order
  unfold hourCount
  omega

theorem le_of_hourCount_lt (earlier : first.hourCount < second.hourCount) : first ≤ second :=
  (le_total first second).resolve_right fun order => absurd (hourCount_mono order) (not_le.mpr earlier)

theorem sameUtcHour_iff : sameUtcHour first second = true ↔ first.hourCount = second.hourCount := by
  simp only [sameUtcHour, Bool.and_eq_true, beq_iff_eq, utcDay, utcHour, hourCount]
  constructor
  · rintro ⟨day, hour⟩
    omega
  · intro same
    constructor <;> omega

/-- A later time in another hour is in a later hour. -/
theorem hourCount_lt (order : first ≤ second) (other : sameUtcHour first second = false) :
    first.hourCount < second.hourCount :=
  lt_of_le_of_ne (hourCount_mono order) fun same => by simp [sameUtcHour_iff.mpr same] at other

end Timestamp

/-- The watermark a summary leaves, and the test a call has passed. -/
theorem publishSummaryIfNeeded_hours (update : SummaryUpdate F) (last : Option Timestamp)
    (encodes : Bool) (outbound : Option OutboundPublish) :
    (publishSummaryIfNeeded update last encodes outbound).1 = update.summaryReceivedAt.or last ∧
      ∀ call, (publishSummaryIfNeeded update last encodes outbound).2 = some call →
        ∀ marked ∈ update.summaryReceivedAt.or last,
          sameUtcHour marked update.snapshot.timestamp = false := by
  simp only [publishSummaryIfNeeded]
  split
  case isTrue => exact ⟨rfl, by simp⟩
  case isFalse other =>
    have otherHour : ∀ marked ∈ update.summaryReceivedAt.or last,
        sameUtcHour marked update.snapshot.timestamp = false := fun marked member => by
      rw [Option.mem_def.mp member] at other
      simpa using other
    refine ⟨?_, fun _ _ => otherHour⟩
    split
    · rfl
    · cases outbound <;> rfl

/-! ## What sets the watermark -/

/-- A time the watermark is set from: a received summary, or a publication. -/
inductive Mark (F : Type) where
  | watermark (receivedAt : Timestamp)
  | published (snapshot : SummarySnapshot F)

namespace Mark

def timestamp : Mark F → Timestamp
  | .watermark receivedAt => receivedAt
  | .published snapshot => snapshot.timestamp

def snapshot : Mark F → Option (SummarySnapshot F)
  | .watermark _ => none
  | .published snapshot => some snapshot

def receivedAt : Mark F → Option Timestamp
  | .watermark receivedAt => some receivedAt
  | .published _ => none

/-- A publication is in a later hour than what was marked before. -/
def Separated (earlier later : Mark F) : Prop :=
  ∀ snapshot, later = .published snapshot →
    earlier.timestamp.hourCount < snapshot.timestamp.hourCount

end Mark

/-- The summary whose call is in flight. -/
def Phase.summary : Phase F → Option (SummaryUpdate F)
  | .publishing summary => some summary
  | _ => none

namespace Tasks

/-- The marks of one step: the watermark of a summary that passes the guard,
and the snapshot whose call returns. -/
def marks (tasks : Tasks F) (event : Event F × Clock) : List (Mark F) :=
  match event.1, tasks.phase with
  | .takesSummary _ _, .serving awaiting =>
    match tasks.publications.tryReceive with
    | some (summary, _) =>
      if (summaryReadyToPublish awaiting summary).1 then
        summary.summaryReceivedAt.toList.map .watermark
      else []
    | none => []
  | .callReturns, .publishing summary => [.published summary.snapshot]
  | _, _ => []

/-- The earliest time anything queued may be stamped with. -/
def floor (tasks : Tasks F) : Option Timestamp :=
  (tasks.phase.summary.map fun summary => summary.snapshot.timestamp).or tasks.lastSummaryUpdate

/-- A queued summary is stamped from the floor on, and not in the future. -/
structure Stamped (floor : Option Timestamp) (future : List Timestamp) (update : SummaryUpdate F) :
    Prop where
  taken : ∀ limit ∈ floor, limit ≤ update.snapshot.timestamp
  marked : ∀ receivedAt ∈ update.summaryReceivedAt,
    receivedAt ≤ update.snapshot.timestamp ∧ ∀ limit ∈ floor, limit ≤ receivedAt
  passed : ∀ later ∈ future, update.snapshot.timestamp ≤ later

/-- The invariant: `past` are the marks so far, `future` what the clock will show. -/
structure OncePerHour (past : List (Mark F)) (future : List Timestamp) (tasks : Tasks F) : Prop where
  separated : past.Pairwise Mark.Separated
  reached : ∀ mark ∈ past, ∃ last ∈ tasks.lastSummaryUpdate, mark.timestamp ≤ last
  passed : ∀ last ∈ tasks.lastSummaryUpdate, ∀ later ∈ future, last ≤ later
  inFlight : ∀ summary ∈ tasks.phase.summary,
    (∀ last ∈ tasks.lastSummaryUpdate,
      last.hourCount < summary.snapshot.timestamp.hourCount) ∧
      ∀ later ∈ future, summary.snapshot.timestamp ≤ later
  queued : tasks.phase ≠ .offline → ∀ update ∈ tasks.publications.items,
    Stamped tasks.floor future update

variable {tasks after : Tasks F} {past : List (Mark F)} {future : List Timestamp} {clock : Clock}

/-- A step that leaves the watermark alone, and lets a queue it keeps be. -/
theorem OncePerHour.frame (kept : OncePerHour past future tasks)
    (last : after.lastSummaryUpdate = tasks.lastSummaryUpdate)
    (summary : after.phase.summary = none ∨ after.phase.summary = tasks.phase.summary)
    (queue : after.phase = .offline ∨ after.publications.items = [] ∨
      (tasks.phase ≠ .offline ∧ after.phase.summary = tasks.phase.summary ∧
        after.publications.items = tasks.publications.items)) :
    OncePerHour past future after where
  separated := kept.separated
  reached := by
    rw [last]
    exact kept.reached
  passed := by
    rw [last]
    exact kept.passed
  inFlight := by
    rw [last]
    intro calling member
    rcases summary with nothing | same
    · simp [nothing] at member
    · exact kept.inFlight calling (same ▸ member)
  queued := by
    intro online update member
    rcases queue with offline | empty | ⟨online, same, items⟩
    · exact absurd offline online
    · simp [empty] at member
    · rw [items] at member
      have level : after.floor = tasks.floor := by rw [floor, floor, same, last]
      rw [level]
      exact kept.queued online update member

/-! ## The steps -/

theorem Stamped.later {floor : Option Timestamp} {sooner : List Timestamp} {update : SummaryUpdate F}
    (stamped : Stamped floor (sooner ++ future) update) : Stamped floor future update where
  taken := stamped.taken
  marked := stamped.marked
  passed := fun later member => stamped.passed later (List.mem_append_right _ member)

/-- Time passes without a step. -/
theorem OncePerHour.later {sooner : List Timestamp} (kept : OncePerHour past (sooner ++ future) tasks) :
    OncePerHour past future tasks where
  separated := kept.separated
  reached := kept.reached
  passed := fun last member later inside => kept.passed last member later (List.mem_append_right _ inside)
  inFlight := fun summary member => ⟨(kept.inFlight summary member).1,
    fun later inside => (kept.inFlight summary member).2 later (List.mem_append_right _ inside)⟩
  queued := fun online update member => (kept.queued online update member).later

/-- The call in flight returns: its snapshot is the new watermark. -/
theorem OncePerHour.returns {summary : SummaryUpdate F} (kept : OncePerHour past future tasks)
    (publishing : tasks.phase = .publishing summary) :
    OncePerHour (past ++ [.published summary.snapshot]) future
      { tasks with
        phase := .serving false
        lastSummaryUpdate := some summary.snapshot.timestamp
        published := tasks.published ++ [summary.snapshot] } := by
  obtain ⟨laterHour, notFuture⟩ := kept.inFlight summary (by rw [publishing]; rfl)
  have level : tasks.floor = some summary.snapshot.timestamp := by simp [floor, publishing, Phase.summary]
  refine ⟨?_, ?_, ?_, ?_, ?_⟩
  · refine List.pairwise_append.mpr ⟨kept.separated, List.pairwise_singleton _ _, ?_⟩
    rintro earlier before later member snapshot rfl
    obtain ⟨⟩ := List.mem_singleton.mp member
    obtain ⟨last, marked, order⟩ := kept.reached earlier before
    exact (Timestamp.hourCount_mono order).trans_lt (laterHour last marked)
  · refine List.forall_mem_append.mpr ⟨fun mark member => ?_, fun mark member => ?_⟩
    · obtain ⟨last, marked, order⟩ := kept.reached mark member
      exact ⟨_, rfl, order.trans (Timestamp.le_of_hourCount_lt (laterHour last marked))⟩
    · obtain rfl := List.mem_singleton.mp member
      exact ⟨_, rfl, le_rfl⟩
  · rintro last ⟨⟩ later member
    exact notFuture later member
  · simp [Phase.summary]
  · intro _ update member
    have stamped := kept.queued (by simp [publishing]) update member
    rwa [level] at stamped

/-- A summary the guard lets through: its watermark is noted, and a call, if
one starts, is for a later hour. -/
theorem OncePerHour.takes {summary : SummaryUpdate F} {rest : SummaryPublications F} {phase : Phase F}
    (kept : OncePerHour past future tasks) (online : tasks.phase ≠ .offline)
    (idle : tasks.phase.summary = none) (taken : tasks.publications.items = summary :: rest.items)
    (calls : List (PublishCall F)) (outbound : Option OutboundPublish)
    (due : phase.summary = none ∨ (phase.summary = some summary ∧
      ∀ last ∈ summary.summaryReceivedAt.or tasks.lastSummaryUpdate,
        sameUtcHour last summary.snapshot.timestamp = false)) :
    OncePerHour (past ++ summary.summaryReceivedAt.toList.map .watermark) future
      { tasks with
        publications := rest
        phase := phase
        lastSummaryUpdate := summary.summaryReceivedAt.or tasks.lastSummaryUpdate
        calls := calls
        outboundPublishes := outbound } := by
  have stamped := kept.queued online summary (by simp [taken])
  have level : tasks.floor = tasks.lastSummaryUpdate := by simp [floor, idle]
  rw [level] at stamped
  have vacant : rest.items = [] := nothing_behind taken
  -- The watermark is set from the summary, or stays.
  have latest : ∀ last ∈ summary.summaryReceivedAt.or tasks.lastSummaryUpdate,
      last ≤ summary.snapshot.timestamp := by
    intro last member
    rcases Option.or_eq_some_iff.mp member with marked | ⟨_, before⟩
    · exact (stamped.marked last marked).1
    · exact stamped.taken last before
  refine ⟨?_, ?_, ?_, ?_, ?_⟩
  · refine List.pairwise_append.mpr ⟨kept.separated, ?_, ?_⟩
    · cases summary.summaryReceivedAt <;> simp
    · rintro earlier _ later member snapshot rfl
      simp at member
  · refine List.forall_mem_append.mpr ⟨fun mark member => ?_, fun mark member => ?_⟩
    · obtain ⟨last, before, order⟩ := kept.reached mark member
      cases received : summary.summaryReceivedAt with
      | none => exact ⟨last, by simpa using before, order⟩
      | some receivedAt =>
        exact ⟨receivedAt, by simp, order.trans ((stamped.marked receivedAt received).2 last before)⟩
    · obtain ⟨receivedAt, inside, rfl⟩ := List.mem_map.mp member
      have received : summary.summaryReceivedAt = some receivedAt := Option.mem_toList.mp inside
      exact ⟨receivedAt, by simp [received], le_rfl⟩
  · exact fun last member later inside => (latest last member).trans (stamped.passed later inside)
  · intro calling member
    rcases due with nothing | ⟨called, other⟩
    · simp [nothing] at member
    · rw [called] at member
      cases member
      exact ⟨fun last marked => Timestamp.hourCount_lt (latest last marked) (other last marked),
        stamped.passed⟩
  · simp [vacant]

theorem OncePerHour.takeSummary (kept : OncePerHour past future tasks) (encodes : Bool)
    (packetIdentifier : ℕ) :
    OncePerHour (past ++ tasks.marks (.takesSummary encodes packetIdentifier, clock)) future
      (tasks.takeSummary encodes packetIdentifier) := by
  cases phase : tasks.phase with
  | serving awaiting =>
    have online : tasks.phase ≠ .offline := by simp [phase]
    have idle : tasks.phase.summary = none := by simp [phase, Phase.summary]
    cases received : tasks.publications.tryReceive with
    | none => simpa [marks, Tasks.takeSummary, phase, received] using kept
    | some both =>
      obtain ⟨summary, rest⟩ := both
      have taken := Channel.tryReceive_eq_some.mp received
      obtain ⟨_, unmarked, held⟩ | ⟨_, ready⟩ := summaryReadyToPublish_cases awaiting summary
      · -- The guard holds the summary back.
        simp only [marks, Tasks.takeSummary, phase, received, held, Bool.not_false, if_true,
          Bool.false_eq_true, if_false, List.append_nil]
        exact kept.frame rfl (Or.inl rfl) (Or.inr (Or.inl (nothing_behind taken)))
      · obtain ⟨watermark, otherHour⟩ := publishSummaryIfNeeded_hours summary
          tasks.lastSummaryUpdate encodes tasks.outboundPublishes
        cases called : (publishSummaryIfNeeded summary tasks.lastSummaryUpdate encodes
            tasks.outboundPublishes).2 with
        | none =>
          have after : tasks.takeSummary encodes packetIdentifier =
              { tasks with
                publications := rest
                phase := .serving false
                lastSummaryUpdate := summary.summaryReceivedAt.or tasks.lastSummaryUpdate } := by
            simp [Tasks.takeSummary, phase, received, ready, called, watermark]
          rw [after]
          simpa [marks, phase, received, ready] using
            kept.takes online idle taken tasks.calls tasks.outboundPublishes (Or.inl rfl)
        | some call =>
          have after : tasks.takeSummary encodes packetIdentifier =
              { tasks with
                publications := rest
                phase := .publishing summary
                lastSummaryUpdate := summary.summaryReceivedAt.or tasks.lastSummaryUpdate
                calls := tasks.calls ++ [call]
                outboundPublishes := tasks.outboundPublishes.or
                  (some { packetIdentifier := packetIdentifier, topic := .summary }) } := by
            simp [Tasks.takeSummary, phase, received, ready, called, watermark]
          rw [after]
          simpa [marks, phase, received, ready] using
            kept.takes online idle taken _ _ (Or.inr ⟨rfl, otherHour call called⟩)
  | _ => simpa [marks, Tasks.takeSummary, phase] using kept

/-- What the MQTT task does between two calls moves neither queue nor watermark. -/
theorem OncePerHour.moves (kept : OncePerHour past future tasks) (updates : Updates F)
    (commands : OvenplaatDimmerCommands) (outbound : Option OutboundPublish) {phase : Phase F}
    (goes : phase = .offline ∨ tasks.phase ≠ .offline ∧ phase.summary = tasks.phase.summary) :
    OncePerHour past future
      { tasks with
        phase := phase, updates := updates, commands := commands, outboundPublishes := outbound } := by
  rcases goes with rfl | ⟨online, same⟩
  · exact kept.frame rfl (Or.inl rfl) (Or.inl rfl)
  · exact kept.frame rfl (Or.inr same) (Or.inr (Or.inr ⟨online, same, rfl⟩))

/-- An empty queue and no call in flight keep the invariant. -/
theorem OncePerHour.clears (kept : OncePerHour past future tasks) (updates : Updates F)
    {phase : Phase F} (idle : phase.summary = none) :
    OncePerHour past future
      { tasks with phase := phase, updates := updates, publications := .empty } :=
  kept.frame rfl (Or.inl idle) (Or.inr (Or.inl rfl))

/-- Step lemma: a message from the broker. -/
theorem OncePerHour.receive (kept : OncePerHour past future tasks) (update : Update F) :
    OncePerHour past future (tasks.receive update clock) := by
  cases phase : tasks.phase with
  | restoring =>
    cases update with
    | dailySummary summary =>
      simp only [Tasks.receive, phase, queueIncomingUpdate, clearSummaryPublications, if_true]
      exact kept.clears _ rfl
    | _ =>
      simp only [Tasks.receive, phase, queueIncomingUpdate, RestoreObservation.default,
        Bool.false_eq_true, if_false]
      exact kept.moves _ _ _ (Or.inr (by simp [phase, Phase.summary]))
  | serving awaiting =>
    cases live : update.isDailySummary with
    | true => simpa [Tasks.receive, phase, live] using kept
    | false =>
      simp only [Tasks.receive, phase, live, Bool.false_eq_true, if_false]
      exact kept.moves _ _ _ (Or.inr (by simp [phase]))
  | _ => simpa [Tasks.receive, phase] using kept

/-- Step lemma: the button's command, which a busy client answers by failing. -/
theorem OncePerHour.takeToggle (kept : OncePerHour past future tasks) (packetIdentifier : ℕ) :
    OncePerHour past future (tasks.takeToggle packetIdentifier) := by
  cases phase : tasks.phase with
  | serving awaiting =>
    cases received : tasks.commands.tryReceive with
    | none => simpa [Tasks.takeToggle, phase, received] using kept
    | some both =>
      obtain ⟨⟨⟩, commands⟩ := both
      cases outbound : tasks.outboundPublishes with
      | none =>
        simp only [Tasks.takeToggle, phase, received, outbound]
        exact kept.moves _ _ _ (Or.inr (by simp [phase, Phase.summary]))
      | some pending =>
        simp only [Tasks.takeToggle, phase, received, outbound, fail]
        exact kept.moves _ _ _ (Or.inl rfl)
  | _ => simpa [Tasks.takeToggle, phase] using kept

variable [Zero F] [Add F] [Sub F] [Mul F] [NatCast F] [LT F] [DecidableLT F] [BEq F]

/-- The display task stamps its snapshot with the time it is, and hands on no
watermark but that time and the one it replaces. -/
theorem OncePerHour.displays (kept : OncePerHour past (clock.utcNow.toList ++ future) tasks)
    (forward : ∀ now ∈ clock.utcNow, ∀ later ∈ future, now ≤ later) :
    OncePerHour past future (tasks.displayBatch clock) := by
  obtain ⟨phase, _, _⟩ := displayBatch_frame tasks clock
  have last : (tasks.displayBatch clock).lastSummaryUpdate = tasks.lastSummaryUpdate := by
    unfold displayBatch
    split
    · rfl
    · cases clock.utcNow with
      | none => rfl
      | some now =>
        dsimp only
        split <;> rfl
  cases utc : clock.utcNow with
  | none =>
    have queue : (tasks.displayBatch clock).publications = tasks.publications := by
      unfold displayBatch
      split
      · rfl
      · rw [utc]
    refine kept.later.frame last (Or.inr (by rw [phase])) ?_
    by_cases online : tasks.phase = .offline
    · exact Or.inl (phase.trans online)
    · exact Or.inr (Or.inr ⟨online, by rw [phase], by rw [queue]⟩)
  | some now =>
    rw [utc] at kept forward
    have reached : ∀ limit ∈ tasks.floor, limit ≤ now := by
      intro limit member
      rcases Option.or_eq_some_iff.mp member with calling | ⟨_, marked⟩
      · obtain ⟨summary, inside, rfl⟩ := Option.map_eq_some_iff.mp calling
        exact (kept.inFlight summary inside).2 now (by simp)
      · exact kept.passed limit marked now (by simp)
    have level : (tasks.displayBatch clock).floor = tasks.floor := by rw [floor, floor, phase, last]
    refine { kept.later with reached := ?_, passed := ?_, inFlight := ?_, queued := ?_ }
    · rw [last]
      exact kept.reached
    · rw [last]
      exact kept.later.passed
    · rw [last, phase]
      exact kept.later.inFlight
    · rw [phase, level, displayBatch_publications tasks utc]
      intro online update member
      split at member
      · obtain rfl := List.mem_singleton.mp member
        refine ⟨reached, fun receivedAt marked => ?_, forward now rfl⟩
        rcases Option.or_eq_some_iff.mp marked with fresh | ⟨_, inherited⟩
        · split at fresh
          · cases fresh
            exact ⟨le_rfl, reached⟩
          · cases fresh
        · obtain ⟨previous, head, mark⟩ := Option.bind_eq_some_iff.mp inherited
          have stamped := kept.queued online previous (List.mem_of_mem_head? head)
          exact ⟨(stamped.marked receivedAt mark).1.trans (stamped.passed now (by simp)),
            (stamped.marked receivedAt mark).2⟩
      · exact (kept.queued online update member).later

/-- Step lemma: any step of the two tasks keeps the invariant. -/
theorem OncePerHour.stepped (kept : OncePerHour past (clock.utcNow.toList ++ future) tasks)
    (forward : ∀ now ∈ clock.utcNow, ∀ later ∈ future, now ≤ later) (event : Event F) :
    OncePerHour (past ++ tasks.marks (event, clock)) future (tasks.step (event, clock)) := by
  have displayed := kept.displays forward
  replace kept := kept.later
  cases event with
  | takesSummary encodes packetIdentifier => exact kept.takeSummary encodes packetIdentifier
  | displays => simpa [marks, step] using displayed
  | callReturns =>
    cases phase : tasks.phase with
    | publishing summary =>
      simp only [step, callReturn, marks, phase]
      exact kept.returns phase
    | toggling awaiting =>
      simp only [step, callReturn, marks, phase, List.append_nil]
      exact kept.moves _ _ _ (Or.inr (by simp [phase, Phase.summary]))
    | _ => simpa [step, callReturn, marks, phase] using kept
  | connects =>
    cases phase : tasks.phase with
    | offline =>
      simp only [step, marks, phase, clearSummaryPublications, List.append_nil]
      exact kept.clears _ rfl
    | _ => simpa [step, marks, phase] using kept
  | receives update => simpa [step, marks] using kept.receive update
  | restoreTimesOut =>
    cases phase : tasks.phase with
    | restoring =>
      simp only [step, marks, phase, List.append_nil]
      exact kept.moves _ _ _ (Or.inr (by simp [phase, Phase.summary]))
    | _ => simpa [step, marks, phase] using kept
  | unsubscribes =>
    cases phase : tasks.phase with
    | unsubscribing awaiting =>
      simp only [step, marks, phase, List.append_nil]
      cases awaiting with
      | true => exact kept.moves _ _ _ (Or.inr (by simp [phase, Phase.summary]))
      | false => exact kept.clears _ rfl
    | _ => simpa [step, marks, phase] using kept
  | takesToggle packetIdentifier => simpa [step, marks] using kept.takeToggle packetIdentifier
  | fails =>
    simp only [step, marks, List.append_nil]
    cases phase : tasks.phase with
    | publishing summary =>
      simp only [fail, phase]
      exact kept.frame rfl (Or.inl rfl) (Or.inl rfl)
    | _ =>
      simp only [fail, phase]
      exact kept.moves _ _ _ (Or.inl rfl)
  | acknowledges =>
    cases phase : tasks.phase with
    | restoring | serving =>
      simp only [step, marks, phase, List.append_nil]
      exact kept.moves _ _ _ (Or.inr (by simp [phase]))
    | _ => simpa [step, marks, phase] using kept
  | pressesButton =>
    simp only [step, marks, List.append_nil]
    by_cases online : tasks.phase = .offline
    · exact kept.moves _ _ _ (Or.inl online)
    · exact kept.moves _ _ _ (Or.inr ⟨online, rfl⟩)

/-! ## Whole runs -/

/-- The marks of a run, oldest first. -/
def history (tasks : Tasks F) : List (Event F × Clock) → List (Mark F)
  | [] => []
  | event :: rest => tasks.marks event ++ history (tasks.step event) rest

/-- The UTC times the clock shows along a run never step back. -/
def NeverBack (events : List (Event F × Clock)) : Prop :=
  (events.filterMap fun event => event.2.utcNow).Pairwise (· ≤ ·)

/-- Only a returning call publishes, and it leaves its mark. -/
theorem step_published (tasks : Tasks F) (event : Event F) (clock : Clock) :
    (tasks.step (event, clock)).published =
      tasks.published ++ (tasks.marks (event, clock)).filterMap Mark.snapshot := by
  cases event with
  | callReturns => cases phase : tasks.phase <;> simp [step, callReturn, marks, phase, Mark.snapshot]
  | displays => simp [step, marks, (displayBatch_frame tasks clock).2.2]
  | takesSummary encodes packetIdentifier =>
    have unpublished : (tasks.marks (.takesSummary encodes packetIdentifier, clock)).filterMap
        Mark.snapshot = [] := by
      cases phase : tasks.phase with
      | serving awaiting =>
        cases received : tasks.publications.tryReceive with
        | none => simp [marks, phase, received]
        | some both =>
          simp only [marks, phase, received]
          split
          · cases both.1.summaryReceivedAt <;> simp [Mark.snapshot]
          · rfl
      | _ => simp [marks, phase]
    rw [unpublished, List.append_nil]
    change (tasks.takeSummary encodes packetIdentifier).published = _
    obtain same | ⟨_, _, _, _, _, ⟨_, _, same⟩ | ⟨_, _, same | ⟨_, _, _, same⟩⟩⟩ :=
      takeSummary_cases tasks encodes packetIdentifier <;> rw [same]
  | takesToggle packetIdentifier =>
    simp only [step, takeToggle, fail, marks, List.filterMap_nil, List.append_nil]
    repeat' split
    all_goals rfl
  | receives update =>
    simp only [step, receive, marks, List.filterMap_nil, List.append_nil]
    repeat' split
    all_goals rfl
  | _ =>
    simp only [step, fail, marks, List.filterMap_nil, List.append_nil]
    repeat' split
    all_goals rfl

theorem run_published (tasks : Tasks F) (events : List (Event F × Clock)) :
    (run step tasks events).published =
      tasks.published ++ (tasks.history events).filterMap Mark.snapshot := by
  induction events generalizing tasks with
  | nil => simp [history]
  | cons event rest ih =>
    rw [run_cons, ih, step_published, history, List.filterMap_append, List.append_assoc]

/-- Run lemma: the marks of a run are separated. -/
theorem history_separated {events : List (Event F × Clock)}
    (kept : OncePerHour past (events.filterMap fun event => event.2.utcNow) tasks)
    (forward : NeverBack events) : (past ++ tasks.history events).Pairwise Mark.Separated := by
  induction events generalizing tasks past with
  | nil => simpa [history] using kept.separated
  | cons event rest ih =>
    obtain ⟨event, clock⟩ := event
    have stamps : ((event, clock) :: rest).filterMap (fun event => event.2.utcNow) =
        clock.utcNow.toList ++ rest.filterMap fun event => event.2.utcNow := by
      cases utc : clock.utcNow <;> simp [utc]
    unfold NeverBack at forward
    rw [stamps] at kept forward
    obtain ⟨_, later, before⟩ := List.pairwise_append.mp forward
    have next := ih (kept.stepped (fun now utc => before now (Option.mem_toList.mpr utc)) event) later
    rwa [List.append_assoc] at next

/-- **At most one summary publication per UTC hour.** In every run from
power-on in which the UTC clock never steps back, whatever is queued, fails or
reconnects: the published snapshots are from strictly increasing UTC hours, and
none is from the hour of the latest watermark processed before it. -/
theorem one_publication_per_hour (events : List (Event F × Clock)) (forward : NeverBack events) :
    ((run step boot events).published.map fun snapshot => snapshot.timestamp.hourCount).Pairwise
        (· < ·) ∧
      ∀ before snapshot after, (boot : Tasks F).history events = before ++ .published snapshot :: after →
        ∀ watermark, (before.filterMap Mark.receivedAt).getLast? = some watermark →
          watermark.hourCount ≠ snapshot.timestamp.hourCount := by
  have fresh : OncePerHour [] (events.filterMap fun event => event.2.utcNow) (boot : Tasks F) :=
    ⟨by simp, by simp, by simp [boot], by simp [boot, Phase.summary], by simp [boot]⟩
  have separated := history_separated fresh forward
  rw [List.nil_append] at separated
  constructor
  · rw [run_published, List.pairwise_map]
    simp only [boot, List.nil_append, List.pairwise_filterMap]
    refine separated.imp fun {earlier later} apart first published second marked => ?_
    cases earlier <;> cases published
    cases later <;> cases marked
    exact apart second rfl
  · intro before snapshot after split watermark latest
    rw [split] at separated
    obtain ⟨_, _, apart⟩ := List.pairwise_append.mp separated
    obtain ⟨mark, member, received⟩ := List.mem_filterMap.mp (List.mem_of_getLast? latest)
    have earlier := apart mark member _ List.mem_cons_self snapshot rfl
    cases mark <;> cases received
    exact earlier.ne

/-- A synchronized clock at a second of the UTC day 2026-09-09. -/
def clockAt (second : Int) : Clock where
  now := some .morning
  utcNow := some ⟨(1788912000 + second) * 1000000000⟩

/-- One update of the heat pump, shown and offered for publication. -/
def offered (second : Int) (packetIdentifier : ℕ) : List (Event ℚ × Clock) :=
  [(.receives (.heatpumpPower 900), clockAt second), (.displays, clockAt second),
    (.takesSummary true packetIdentifier, clockAt second), (.callReturns, clockAt second),
    (.acknowledges, clockAt second)]

/-- Offers at 8:15, 8:45 and 9:05 UTC, with a reconnect in between. -/
def threeOffers : List (Event ℚ × Clock) :=
  [(.connects, clockAt 29700), (.restoreTimesOut, clockAt 29700), (.unsubscribes, clockAt 29700)] ++
    offered 29700 1 ++ offered 31500 2 ++
    [(.fails, clockAt 31600), (.connects, clockAt 31700), (.restoreTimesOut, clockAt 31702),
      (.unsubscribes, clockAt 31702)] ++ offered 32700 3

/-- Two of the three are published. -/
theorem three_offers_one_per_hour :
    (run step boot threeOffers).published.length = 2 ∧
      ((run step boot threeOffers).published.map fun snapshot =>
        snapshot.timestamp.hourCount).Pairwise (· < ·) ∧
      ∀ before snapshot after,
        (boot : Tasks ℚ).history threeOffers = before ++ .published snapshot :: after →
        ∀ watermark, (before.filterMap Mark.receivedAt).getLast? = some watermark →
          watermark.hourCount ≠ snapshot.timestamp.hourCount :=
  ⟨by decide +kernel, one_publication_per_hour threeOffers (by unfold NeverBack; decide +kernel)⟩

end Tasks

end EnergyDisplay

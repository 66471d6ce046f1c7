import EnergyDisplay.Lib.Runs
import EnergyDisplay.TaskProofs

/-! The one-entry publication queue as a mailbox. However calls of
`queue_summary_update` and receives follow each other, the entry is the merge of
the calls since the last receive. -/
namespace EnergyDisplay.Mqtt

open Runs

variable {F : Type}

inductive PublicationEvent (F : Type) where
  | queues (update : SummaryUpdate F)
  | receives

/-- Both tasks at the queue: neither waits between the steps of a call. -/
def exchange (publications : SummaryPublications F) : PublicationEvent F → SummaryPublications F
  | .queues update => queueSummaryUpdate publications update
  | .receives => (publications.tryReceive.map Prod.snd).getD publications

/-- The calls since the last receive, oldest first. -/
def collect (calls : List (SummaryUpdate F)) : PublicationEvent F → List (SummaryUpdate F)
  | .queues update => calls ++ [update]
  | .receives => []

/-- The snapshot of the last call with the last watermark of any. -/
def merged (calls : List (SummaryUpdate F)) : Option (SummaryUpdate F) :=
  calls.getLast?.map fun last => {
    snapshot := last.snapshot
    summaryReceivedAt := (calls.filterMap SummaryUpdate.summaryReceivedAt).getLast? }

/-- A call merges with what was merged before. -/
theorem merged_concat (calls : List (SummaryUpdate F)) (update : SummaryUpdate F) :
    merged (calls ++ [update]) = some { update with
      summaryReceivedAt := update.summaryReceivedAt.or
        ((merged calls).bind SummaryUpdate.summaryReceivedAt) } := by
  have marks : (merged calls).bind SummaryUpdate.summaryReceivedAt =
      (calls.filterMap SummaryUpdate.summaryReceivedAt).getLast? := by
    rcases List.eq_nil_or_concat calls with rfl | ⟨earlier, last, rfl⟩
    · rfl
    · simp [merged]
  rw [marks]
  cases mark : update.summaryReceivedAt <;> simp [merged, mark]

/-- Step lemma: the queue holds the merge of the calls, before and after. -/
theorem exchange_merged {publications : SummaryPublications F} {calls : List (SummaryUpdate F)}
    (holds : publications.items = (merged calls).toList) (event : PublicationEvent F) :
    (exchange publications event).items = (merged (collect calls event)).toList := by
  cases event with
  | queues update =>
    have head : publications.items.head? = merged calls := by
      rw [holds]
      cases merged calls <;> rfl
    rw [exchange, collect, queueSummaryUpdate_items, merged_concat, head]
    rfl
  | receives =>
    have vacant : (exchange publications .receives).items = [] := by
      cases received : publications.tryReceive with
      | none => simpa [exchange, received] using Channel.tryReceive_eq_none.mp received
      | some both =>
        have taken := Channel.tryReceive_eq_some.mp received
        simpa [exchange, received] using nothing_behind taken
    rw [vacant]
    rfl

/-- Run lemma. -/
theorem run_exchange {publications : SummaryPublications F} {calls : List (SummaryUpdate F)}
    (holds : publications.items = (merged calls).toList) (events : List (PublicationEvent F)) :
    (run exchange publications events).items = (merged (run collect calls events)).toList := by
  induction events generalizing publications calls with
  | nil => exact holds
  | cons event events ih => exact ih (exchange_merged holds event)

/-- **Coalescing keeps the newest snapshot and no watermark is dropped.** After
any interleaving of calls and receives, the next receive gets the snapshot of the
last call, with the most recent watermark of all calls since the receive before;
it gets nothing only if there was no call. -/
theorem coalescing_keeps_newest (events : List (PublicationEvent F)) :
    (run exchange (.empty : SummaryPublications F) events).tryReceive.map Prod.fst =
      merged (run collect [] events) := by
  have nothing : (Channel.empty : SummaryPublications F).items = (merged []).toList := rfl
  rw [Channel.tryReceive_head, run_exchange nothing events]
  cases merged (run collect [] events) <;> rfl

end EnergyDisplay.Mqtt

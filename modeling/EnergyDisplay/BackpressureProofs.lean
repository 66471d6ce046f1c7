import EnergyDisplay.LiveProofs
import EnergyDisplay.TaskProofs
import Mathlib.Algebra.Order.Ring.Rat

/-! Backpressure on the update queue. A full queue drops its oldest update
whatever it is about, so the drained dashboard shows the latest live state only
where what is dropped is written again later. -/
namespace EnergyDisplay

open Mqtt Runs

variable {F : Type}

/-- The display task's dashboard and the updates it has not taken yet. -/
structure Backlog (F : Type) where
  dashboard : Dashboard F
  updates : Updates F

/-- An update is queued, or the display task drains the queue. -/
inductive QueueEvent (F : Type) where
  | queues (update : Update F)
  | drains (now : Option LocalDateTime)
  deriving DecidableEq

namespace QueueEvent

/-- The updates queued in a run. -/
def queued : List (QueueEvent F) → List (Update F)
  | [] => []
  | .queues update :: rest => update :: queued rest
  | .drains _ :: rest => queued rest

/-- How many updates are queued before the next drain. -/
def pending : List (QueueEvent F) → ℕ
  | .queues _ :: rest => pending rest + 1
  | _ => 0

/-- Each live update of the run is followed by another of its kind, or by fewer
updates than the queue holds until it is drained. -/
def Superseded : List (QueueEvent F) → Prop
  | [] => True
  | .queues update :: rest =>
    (update.isDailySummary = true ∨ (∃ later ∈ queued rest, later.kind = update.kind) ∨
      pending rest < updateQueueDepth) ∧ Superseded rest
  | .drains _ :: rest => Superseded rest

variable {events : List (QueueEvent F)} {updates : List (Update F)}

theorem queued_queues : queued (updates.map .queues ++ events) = updates ++ queued events := by
  induction updates with
  | nil => rfl
  | cons update rest ih => simp [queued, ih]

theorem pending_queues : pending (updates.map .queues ++ events) = updates.length + pending events := by
  induction updates with
  | nil => simp
  | cons update rest ih =>
    simp only [List.map_cons, List.cons_append, pending, List.length_cons, ih]
    omega

theorem superseded_drain {now : Option LocalDateTime}
    (superseded : Superseded (updates.map .queues ++ .drains now :: events)) : Superseded events := by
  induction updates with
  | nil => exact superseded
  | cons update rest ih => exact ih superseded.2

end QueueEvent

namespace Backlog

variable [Zero F] [Add F] [Sub F] [Mul F] [NatCast F] [LT F] [DecidableLT F] [BEq F]

def step (backlog : Backlog F) : QueueEvent F → Backlog F
  | .queues update => { backlog with updates := queueUpdate backlog.updates update }
  | .drains now =>
    { dashboard := (Tasks.Batch.drain backlog.dashboard backlog.updates.items now).dashboard
      updates := .empty }

/-- The live state once everything still to come has been taken. -/
def outlook (backlog : Backlog F) (events : List (QueueEvent F)) : Dashboard F :=
  (backlog.updates.items ++ QueueEvent.queued events).foldl Dashboard.writeLive backlog.dashboard.live

variable {backlog : Backlog F} {events : List (QueueEvent F)} {update : Update F}
  {now : Option LocalDateTime}

theorem drain_live (dashboard : Dashboard F) (updates : List (Update F)) :
    (Tasks.Batch.drain dashboard updates now).dashboard.live =
      updates.foldl Dashboard.writeLive dashboard.live := by
  rw [Tasks.drain_spec, Dashboard.live_applyAll]
  simp [Function.comp_def]

/-- Draining loses nothing. -/
theorem outlook_drains : (backlog.step (.drains now)).outlook events =
    backlog.outlook (.drains now :: events) := by
  simp [outlook, step, QueueEvent.queued, drain_live]

/-- Queueing loses nothing either, if what has to go is superseded. -/
theorem outlook_queues
    (superseded : QueueEvent.Superseded (backlog.updates.items.map .queues ++ .queues update :: events)) :
    QueueEvent.Superseded
        ((backlog.step (.queues update)).updates.items.map .queues ++ events) ∧
      (backlog.step (.queues update)).outlook events = backlog.outlook (.queues update :: events) := by
  obtain ⟨_, items⟩ | ⟨oldest, others, items, full, left⟩ := queueUpdate_cases backlog.updates update
  · simp only [step, outlook, items, QueueEvent.queued]
    simpa using superseded
  · rw [items] at superseded full
    simp only [List.map_cons, List.cons_append, QueueEvent.Superseded] at superseded
    obtain ⟨covered, rest⟩ := superseded
    simp only [step, outlook, items, left, QueueEvent.queued]
    refine ⟨by simpa using rest, ?_⟩
    rw [List.append_assoc, List.cons_append, List.nil_append, List.cons_append, List.foldl_cons]
    rcases covered with summary | later | soon
    · rw [Dashboard.writeLive_summary _ summary]
    · rw [QueueEvent.queued_queues] at later
      exact (Dashboard.writeLive_overwrites.drop_superseded later _).symm
    · -- The update that replaces the oldest is at least the eighth after it.
      rw [QueueEvent.pending_queues] at soon
      simp only [QueueEvent.pending, List.length_cons] at soon full
      omega

/-- Run lemma: the outlook is what the last drain shows. -/
theorem run_outlook (backlog : Backlog F) (events : List (QueueEvent F)) (now : Option LocalDateTime)
    (superseded : QueueEvent.Superseded (backlog.updates.items.map .queues ++ events)) :
    (run step backlog (events ++ [.drains now])).dashboard.live = backlog.outlook events := by
  induction events generalizing backlog with
  | nil => simp [step, outlook, QueueEvent.queued, drain_live]
  | cons event rest ih =>
    cases event with
    | queues update =>
      obtain ⟨superseded', same⟩ := outlook_queues superseded
      exact (ih (backlog.step (.queues update)) superseded').trans same
    | drains now' =>
      have superseded' : QueueEvent.Superseded
          ((backlog.step (.drains now')).updates.items.map .queues ++ rest) :=
        QueueEvent.superseded_drain superseded
      exact (ih (backlog.step (.drains now')) superseded').trans outlook_drains

/-! ## The backlog of the two tasks -/

def ofTasks (tasks : Tasks F) : Backlog F where
  dashboard := tasks.dashboard
  updates := tasks.updates

theorem ofTasks_displayBatch (tasks : Tasks F) (clock : Clock) :
    ofTasks (tasks.displayBatch clock) = (ofTasks tasks).step (.drains clock.now) := by
  obtain ⟨updates, _, dashboard⟩ := Tasks.displayBatch_fields tasks clock
  have emptied : (tasks.displayBatch clock).updates = .empty := Channel.ext_items updates
  simp [ofTasks, step, Tasks.drain_spec, dashboard, emptied]

/-- All the tasks do to the dashboard and its queue is to queue and to drain. -/
theorem ofTasks_step (tasks : Tasks F) (event : Event F) (clock : Clock) :
    ofTasks (tasks.step (event, clock)) = ofTasks tasks ∨
      ∃ queueEvent, ofTasks (tasks.step (event, clock)) = (ofTasks tasks).step queueEvent := by
  by_cases sameSession : event = .connects
  · subst sameSession
    refine Or.inl ?_
    unfold Tasks.step
    dsimp only
    split <;> rfl
  · by_cases restoring : tasks.phase = .restoring
    · cases event with
      | connects => exact absurd rfl sameSession
      | displays => exact Or.inr ⟨_, ofTasks_displayBatch tasks clock⟩
      | receives update =>
        refine Or.inr ⟨.queues update, ?_⟩
        cases update <;>
          simp [Tasks.step, Tasks.receive, restoring, queueIncomingUpdate, ofTasks, step]
      | _ => exact Or.inl (by simp [Tasks.step, Tasks.takeSummary, Tasks.takeToggle, Tasks.callReturn,
          Tasks.fail, restoring, ofTasks])
    · have happened := Tasks.step_in_session tasks event clock restoring sameSession
      generalize tasks.step (event, clock) = after at happened ⊢
      cases happened with
      | idle event after idle => exact Or.inl (by simp [ofTasks, idle.dashboard, idle.updates])
      | pushes update => exact Or.inr ⟨.queues update, rfl⟩
      | displays => exact Or.inr ⟨_, ofTasks_displayBatch tasks clock⟩
      | _ => exact Or.inl rfl

/-- Every run of the tasks is a run of their backlog. -/
theorem ofTasks_run (tasks : Tasks F) (events : List (Event F × Clock)) :
    ∃ queueEvents, ofTasks (run Tasks.step tasks events) = run step (ofTasks tasks) queueEvents := by
  induction events generalizing tasks with
  | nil => exact ⟨[], rfl⟩
  | cons event rest ih =>
    obtain ⟨queueEvents, later⟩ := ih (tasks.step event)
    rcases ofTasks_step tasks event.1 event.2 with same | ⟨queueEvent, here⟩
    · exact ⟨queueEvents, later.trans (by rw [← same])⟩
    · exact ⟨queueEvent :: queueEvents, later.trans (by rw [run_cons, ← here])⟩

/-! ## Live state -/

/-- **Backpressure loses no live state that is written again.** Whatever is
queued and whenever the display task drains: if each live update is followed
by another of its kind or by fewer than eight updates until it is drained,
then after a last drain the status is, but for the hourly series, that of a
dashboard given every update in order. -/
theorem drained_live (dashboard : Dashboard F) (events : List (QueueEvent F))
    (now : Option LocalDateTime) (given : List (Update F × Option LocalDateTime))
    (inOrder : given.map Prod.fst = QueueEvent.queued events)
    (superseded : QueueEvent.Superseded events) :
    (run step { dashboard := dashboard, updates := .empty } (events ++ [.drains now])).dashboard.liveStatus =
      (dashboard.applyAll given).liveStatus := by
  have drained := run_outlook { dashboard := dashboard, updates := .empty } events now
    (by simpa using superseded)
  have same : (run step { dashboard := dashboard, updates := .empty } (events ++ [.drains now])).dashboard.live =
      (dashboard.applyAll given).live := by
    rw [drained, Dashboard.live_applyAll, inOrder]
    rfl
  exact congrArg Dashboard.status same

/-- Two readings of one kind, drained at once. -/
theorem drained_live_twice :
    (run step { dashboard := .default, updates := .empty }
        ([.queues (.heatpumpPower 900), .queues (.heatpumpPower 950)] ++
          [.drains none])).dashboard.liveStatus =
      ((Dashboard.default : Dashboard ℚ).applyAll
        [(.heatpumpPower 900, none), (.heatpumpPower 950, none)]).liveStatus :=
  drained_live .default _ none _ rfl
    ⟨Or.inr (Or.inr (by decide)), Or.inr (Or.inr (by decide)), trivial⟩

/-- The power of the heat pump, then eight readings of the meter. -/
def powerThenMeter : List (QueueEvent ℚ) :=
  .queues (.heatpumpPower 900) :: List.replicate 8 (.queues (.grid GridData.default))

/-- The power is dropped: the drained status shows the old one. -/
theorem power_lost_behind_meter :
    (run step { dashboard := .default, updates := .empty }
        (powerThenMeter ++ [.drains none])).dashboard.liveStatus.heatpumpPower = 0 ∧
      ((Dashboard.default : Dashboard ℚ).applyAll
        ((QueueEvent.queued powerThenMeter).map fun update => (update, none))).liveStatus.heatpumpPower =
          900 := by
  constructor <;> decide +kernel

end Backlog

end EnergyDisplay

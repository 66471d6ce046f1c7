import EnergyDisplay.PanicDeliveryProofs

/-! The records on their way to the server leave in the order they came, whatever
the tasks, the server and the resets do; one that finds the queue full is
counted. -/
namespace EnergyDisplay.Firmware

open Logging
open PanicStore
open Runs
open StructuredLog

variable {platform : Ota.Platform} {layout : FlashLayout} {firmware : Firmware platform} {event : Event}

/-! ## Records -/

inductive Outcome where
  | acknowledged
  /-- The one attempt failed. -/
  | givenUp
  /-- The memory was reset. -/
  | lost
  deriving DecidableEq

structure Finished where
  record : StructuredLogMessage
  outcome : Outcome

/-- What a task logs in a step. -/
def logs (firmware : Firmware platform) : Event → List Record
  | .log record => if firmware.running && structured record then [record] else []
  | .spawn faults failure =>
    if firmware.running && !firmware.spawned && !(confirmRunningImage faults firmware.hardware).1 then
      [{ failure with level := .warn }]
    else []
  | _ => []

/-- The records that find room. -/
def accepted (layout : FlashLayout) (firmware : Firmware platform) (event : Event) : List StructuredLogMessage :=
  match event with
  | .boot readable faults failure => (firmware.boot layout readable faults failure).content
  | _ =>
    if firmware.queue.pending.items = [] then
      (firmware.logs event).map fun record => ⟨formatStructuredLogMessage record, false⟩
    else []

/-- The records that find none. -/
def refused (firmware : Firmware platform) (event : Event) : List Record :=
  if firmware.queue.pending.items = [] then [] else firmware.logs event

/-- The records that a step ends with. -/
def finished (firmware : Firmware platform) : Event → List Finished
  | .boot .. => firmware.content.map fun record => ⟨record, .lost⟩
  | .attempt attempt faults =>
    if attempt.accepted then
      (firmware.posts (.attempt attempt faults)).toList.map fun record => ⟨record, .acknowledged⟩
    else []
  | .resume =>
    if firmware.running && firmware.spawned then
      match firmware.forwarder.state with
      | .pausing record => if record.persistedPanic then [] else [⟨record, .givenUp⟩]
      | _ => []
    else []
  | _ => []

def finishedRecords (firmware : Firmware platform) (event : Event) : List StructuredLogMessage :=
  (firmware.finished event).map Finished.record

theorem log_structured (queue : Queue) {record : Record} (kept : structured record = true) :
    queue.log record = queue.enqueueStructured record := by
  rw [Queue.log, if_pos kept]

theorem victoriaUrl_whole : (!victoriaUrl.2) = false := by
  rw [victoriaUrl_fits]
  rfl

/-- `spawn` logs when the running image cannot be confirmed. -/
theorem spawn_queue (faults : ConfirmFaults) (failure : Record) (running : firmware.running = true) :
    (firmware.spawn faults failure).queue =
      (firmware.logs (.spawn faults failure)).foldl Queue.log firmware.queue ∧
      (firmware.spawn faults failure).forwarder = firmware.forwarder := by
  unfold spawn logs
  rcases confirms : confirmRunningImage faults firmware.hardware with ⟨confirmed, hardware⟩
  cases spawned : firmware.spawned <;> cases confirmed <;>
    simp [running, confirms, victoriaUrl_whole]

theorem logs_structured (record : Record) (logs : record ∈ firmware.logs event) : structured record = true := by
  cases event with
  | log other =>
    simp only [Firmware.logs] at logs
    split at logs
    · next kept =>
      rw [List.mem_singleton.mp logs]
      exact ((Bool.and_eq_true _ _).mp kept).2
    · cases logs
  | spawn faults failure =>
    simp only [Firmware.logs] at logs
    split at logs
    · rw [List.mem_singleton.mp logs]
      rfl
    · cases logs
  | _ => cases logs

theorem logs_length : (firmware.logs event).length ≤ 1 := by
  cases event <;> simp only [logs]
  case log record => split <;> simp
  case spawn faults failure => split <;> simp
  all_goals simp

/-- What is logged is accepted or counted, a record at a time. -/
theorem foldl_log (records : List Record) (single : records.length ≤ 1)
    (kept : ∀ record ∈ records, structured record = true) (queue : Queue) :
    let after := records.foldl Queue.log queue
    after.pending.items = queue.pending.items ++
        (if queue.pending.items = [] then
          records.map fun record => ⟨formatStructuredLogMessage record, false⟩
        else []) ∧
      after.dropped = queue.dropped + if queue.pending.items = [] then 0 else UInt32.ofNat records.length := by
  match records, single with
  | [], _ => simp
  | [record], _ =>
    have keeps := kept record List.mem_cons_self
    simp only [List.foldl_cons, List.foldl_nil, log_structured queue keeps, Queue.enqueueStructured]
    rcases enqueue_cases queue record false with ⟨room, dropped, items⟩ | ⟨full, same, dropped⟩
    · simp [room, dropped, items]
    · simp [full, same, dropped]

/-- Neither a reset nor the forwarder takes from the queue. -/
def Event.Logs : Event → Prop
  | .boot .. => False
  | .receive => False
  | _ => True

theorem serve_records (turn : Ota.Receiver platform → Ota.Receiver platform) :
    (firmware.serve turn).queue = firmware.queue ∧ (firmware.serve turn).forwarder = firmware.forwarder := by
  unfold serve
  split
  · exact ⟨rfl, rfl⟩
  · exact ⟨rfl, rfl⟩

theorem attempt_queue (attempt : Attempt) (faults : StorageFaults) :
    (firmware.attempt attempt faults).queue = firmware.queue := by
  unfold Firmware.attempt
  split
  · split
    · rfl
    split
    · split
      · split <;> rfl
      · rfl
    · rfl
  · rfl

/-- What is logged is all that reaches the queue. -/
theorem step_queue (logs : event.Logs) :
    (step layout firmware event).queue = (firmware.logs event).foldl Queue.log firmware.queue := by
  cases event with
  | boot readable faults failure => cases logs
  | receive => cases logs
  | spawn faults failure =>
    by_cases running : firmware.running = true
    · rw [step, if_pos running]
      exact (spawn_queue faults failure running).1
    · simp [step, Firmware.logs, running]
  | log record =>
    by_cases running : firmware.running = true
    · by_cases kept : structured record = true
      · simp [step, Firmware.logs, running, kept]
      · simp [step, Firmware.logs, running, kept, Queue.log]
    · simp [step, Firmware.logs, running]
  | attempt attempt faults =>
    rw [step]
    split
    · exact attempt_queue attempt faults
    · rfl
  | resume =>
    rw [step]
    split
    · unfold resume
      split <;> rfl
    · rfl
  | accept =>
    rw [step]
    split
    · unfold accept
      split <;> rfl
    · rfl
  | socketSent faults count =>
    rw [step]
    split
    · exact (serve_records _).1
    · rfl
  | socketReceived faults fragment =>
    rw [step]
    split
    · exact (serve_records _).1
    · rfl
  | allocate request =>
    rw [step]
    split <;> rfl
  | panic held info faults =>
    rw [step]
    split <;> rfl

/-- The record in hand stays there, or the step ends with it. -/
theorem attempt_inHand (attempt : Attempt) (faults : StorageFaults) :
    firmware.forwarder.inHand.toList = firmware.finishedRecords (.attempt attempt faults) ++
      (step layout firmware (.attempt attempt faults)).forwarder.inHand.toList := by
  by_cases ready : (firmware.running && firmware.spawned) = true
  · rw [step, if_pos ready, finishedRecords]
    simp only [finished, posts, if_pos ready]
    cases state : firmware.forwarder.state with
    | sending message =>
      have fits := (body_fits message).1
      have inHand : firmware.forwarder.inHand = some message := by simp [Forwarder.inHand, state]
      rw [inHand]
      by_cases taken : attempt.accepted = true
      · by_cases marked : message.persistedPanic = true
        · rcases cleared : clear faults firmware.hardware with ⟨outcome, hardware⟩
          cases outcome <;>
            simp [Firmware.attempt, state, fits, taken, marked, cleared, Forwarder.succeed, Forwarder.inHand]
        · simp [Firmware.attempt, state, fits, taken, marked, Forwarder.succeed, Forwarder.inHand]
      · simp [Firmware.attempt, state, fits, taken, Forwarder.fail, Forwarder.inHand]
    | receiving => simp [Firmware.attempt, state, Forwarder.inHand]
    | pausing message => simp [Firmware.attempt, state, Forwarder.inHand]
    | stopped => simp [Firmware.attempt, state, Forwarder.inHand]
  · simp [step, finishedRecords, finished, posts, ready]

theorem resume_inHand : firmware.forwarder.inHand.toList = firmware.finishedRecords .resume ++
    (step layout firmware .resume).forwarder.inHand.toList := by
  by_cases ready : (firmware.running && firmware.spawned) = true
  · rw [step, if_pos ready, finishedRecords]
    simp only [finished, if_pos ready]
    cases state : firmware.forwarder.state with
    | pausing message =>
      cases marked : message.persistedPanic <;>
        simp [resume, state, marked, Forwarder.resume, Forwarder.inHand]
    | sending message => simp [resume, state, Forwarder.inHand]
    | receiving => simp [resume, state, Forwarder.inHand]
    | stopped => simp [resume, state, Forwarder.inHand]
  · simp [step, finishedRecords, finished, ready]

theorem step_inHand (logs : event.Logs) : firmware.forwarder.inHand.toList =
    firmware.finishedRecords event ++ (step layout firmware event).forwarder.inHand.toList := by
  -- An event that leaves the forwarder alone and ends with no record.
  have same : firmware.finished event = [] → (step layout firmware event).forwarder = firmware.forwarder →
      firmware.forwarder.inHand.toList =
        firmware.finishedRecords event ++ (step layout firmware event).forwarder.inHand.toList := by
    intro none_ same
    rw [finishedRecords, none_, same, List.map_nil, List.nil_append]
  cases event with
  | boot readable faults failure => cases logs
  | receive => cases logs
  | attempt attempt faults => exact attempt_inHand attempt faults
  | resume => exact resume_inHand
  | spawn faults failure =>
    apply same rfl
    by_cases running : firmware.running = true
    · rw [step, if_pos running]
      exact (spawn_queue faults failure running).2
    · rw [step, if_neg running]
  | accept =>
    apply same rfl
    rw [step]
    split
    · unfold accept
      split <;> rfl
    · rfl
  | socketSent faults count =>
    apply same rfl
    rw [step]
    split
    · exact (serve_records _).2
    · rfl
  | socketReceived faults fragment =>
    apply same rfl
    rw [step]
    split
    · exact (serve_records _).2
    · rfl
  | _ =>
    apply same rfl
    rw [step]
    split <;> rfl

theorem accepted_of_logs (logs : event.Logs) : accepted layout firmware event =
    if firmware.queue.pending.items = [] then
      (firmware.logs event).map fun record => ⟨formatStructuredLogMessage record, false⟩
    else [] := by
  cases event with
  | boot readable faults failure => cases logs
  | receive => cases logs
  | _ => rfl

/-- The records a step takes in come behind those on their way, and those it ends
with are the first. -/
theorem step_records (event : Event) :
    firmware.content ++ accepted layout firmware event =
      firmware.finishedRecords event ++ (step layout firmware event).content := by
  by_cases logs : event.Logs
  · have items := (foldl_log (firmware.logs event) logs_length logs_structured firmware.queue).1
    have hand : firmware.forwarder.inHand.toList = firmware.finishedRecords event ++
        (step layout firmware event).forwarder.inHand.toList := step_inHand logs
    have queue : (step layout firmware event).queue = (firmware.logs event).foldl Queue.log firmware.queue :=
      step_queue logs
    rw [content, content, queue, items, accepted_of_logs logs, hand]
    simp only [List.append_assoc]
  · cases event with
    | boot readable faults failure =>
      have whole : finishedRecords firmware (.boot readable faults failure) = firmware.content := by
        simp [finishedRecords, finished, Function.comp_def]
      rw [whole]
      rfl
    | receive =>
      have taken : (step layout firmware .receive).content = firmware.content := by
        rw [step]
        split
        · exact receive_content
        · rfl
      rw [taken]
      simp [accepted, Firmware.logs, finishedRecords, finished]
    | _ => exact absurd trivial logs

theorem finished_givenUp (event : Event) : ∀ done ∈ firmware.finished event, done.outcome = .givenUp →
    done.record.persistedPanic = false := by
  intro done member
  cases event with
  | boot readable faults failure =>
    obtain ⟨record, _, rfl⟩ := List.mem_map.mp member
    exact fun lost => nomatch lost
  | attempt attempt faults =>
    simp only [finished] at member
    split at member
    · obtain ⟨record, _, rfl⟩ := List.mem_map.mp member
      exact fun taken => nomatch taken
    · cases member
  | resume =>
    simp only [finished] at member
    split at member
    · split at member
      · split at member
        · cases member
        · next unmarked =>
          rw [List.mem_singleton.mp member]
          exact fun _ => by simpa using unmarked
      · cases member
    · cases member
  | _ => cases member

theorem step_dropped (kept : ∀ readable faults failure, event ≠ .boot readable faults failure) :
    (step layout firmware event).queue.dropped =
      firmware.queue.dropped + UInt32.ofNat (firmware.refused event).length := by
  by_cases logs : event.Logs
  · have queue : (step layout firmware event).queue = (firmware.logs event).foldl Queue.log firmware.queue :=
      step_queue logs
    rw [queue, (foldl_log (firmware.logs event) logs_length logs_structured firmware.queue).2, refused]
    split <;> simp
  · cases event with
    | boot readable faults failure => exact absurd rfl (kept readable faults failure)
    | receive =>
      have none_ : firmware.refused .receive = [] := by simp [refused, Firmware.logs]
      rw [none_, step]
      split
      · unfold receive
        split <;> simp
      · simp
    | _ => exact absurd trivial logs

theorem run_dropped {events : List Event}
    (kept : ∀ readable faults failure, .boot readable faults failure ∉ events) :
    (run (step layout) firmware events).queue.dropped = firmware.queue.dropped +
      UInt32.ofNat (observed (step layout) refused firmware events).length := by
  induction events generalizing firmware with
  | nil => simp
  | cons event rest ih =>
    have here : ∀ readable faults failure, event ≠ .boot readable faults failure := by
      rintro readable faults failure rfl
      exact kept readable faults failure List.mem_cons_self
    have later : ∀ readable faults failure, .boot readable faults failure ∉ rest :=
      fun readable faults failure member => kept readable faults failure (List.mem_cons_of_mem _ member)
    rw [run_cons, ih later, step_dropped here, observed_cons, List.length_append, UInt32.ofNat_add, UInt32.add_assoc]

theorem run_records (events : List Event) :
    firmware.content ++ observed (step layout) (accepted layout) firmware events =
      observed (step layout) finishedRecords firmware events ++ (run (step layout) firmware events).content := by
  apply run_conserves (fun _ => True) (fun _ _ _ _ => trivial) ?_ trivial (fun _ _ => trivial)
  exact fun _ event _ _ => step_records event

/-- **Records are forwarded in order, and what is lost is counted.** In every run
the records that found room are those that were acknowledged, given up or lost
to a reset, in the order they came, and those still on their way. The report of
a panic is never given up; and as long as no reset sets it back, the counter of
dropped records tells how many found none. -/
theorem records_forwarded_in_order (layout : FlashLayout) (firmware : Firmware platform) (events : List Event) :
    firmware.content ++ observed (step layout) (accepted layout) firmware events =
        (observed (step layout) finished firmware events).map Finished.record ++
          (run (step layout) firmware events).content ∧
      (∀ done ∈ observed (step layout) finished firmware events, done.outcome = .givenUp →
        done.record.persistedPanic = false) ∧
      ((∀ readable faults failure, .boot readable faults failure ∉ events) →
        (run (step layout) firmware events).queue.dropped = firmware.queue.dropped +
          UInt32.ofNat (observed (step layout) refused firmware events).length) := by
  refine ⟨?_, observed_forall fun _ => finished_givenUp, run_dropped⟩
  have records : observed (step layout) finishedRecords firmware events =
      (observed (step layout) finished firmware events).map Finished.record := by
    apply observed_form (List.map Finished.record) rfl
    intro first second
    exact List.map_append
  rw [← records]
  exact run_records events

end EnergyDisplay.Firmware

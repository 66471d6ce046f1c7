import EnergyDisplay.Firmware
import EnergyDisplay.Lib.Runs
import EnergyDisplay.PanicHardwareProofs

/-! What every step of the firmware keeps. The flash is shared, but uploads stay
in their slots and the panic store in its sector; of the records on their way at
most one is the report of a panic, it is the first, and its message is the one in
flash. -/
namespace EnergyDisplay.Firmware

open Logging
open PanicStore
open StructuredLog

variable {platform : Ota.Platform} {layout : FlashLayout} {firmware : Firmware platform} {event : Event}

/-- The records on their way, the one in hand first. -/
def content (firmware : Firmware platform) : List StructuredLogMessage :=
  firmware.forwarder.inHand.toList ++ firmware.queue.pending.items

/-- What the server is told of a panic. -/
def report (message : PanicMessage) : HeaplessString structuredLogMessageCapacity :=
  formatStructuredLogMessage (previousPanic message.items)

/-- The reports of panics among the records on their way. -/
structure Reports (layout : FlashLayout) (firmware : Firmware platform) : Prop where
  stored : ∀ message ∈ firmware.content, message.persistedPanic = true →
    ∃ text, pending layout firmware.hardware.device = some text ∧ message.json = report text
  mounted : ∀ message ∈ firmware.content, message.persistedPanic = true →
    ∃ flash, firmware.hardware.panicFlash = some flash
  first : ∀ message ∈ firmware.content.tail, message.persistedPanic = false

/-- The invariant. After a panic only the flash counts. -/
structure Sound (layout : FlashLayout) (firmware : Firmware platform) : Prop where
  table : firmware.hardware.device.table = layout.table
  mounted : ∀ flash, firmware.hardware.panicFlash = some flash → layout.recordOffset = some flash.offset
  idle : firmware.running = true → firmware.hardware.flashBusy = false ∧ firmware.hardware.panicking = false
  upload : ∀ receiver, firmware.upload = some receiver → receiver.phase.Within layout.table
  goesOn : firmware.forwarder.state ≠ .stopped
  reports : firmware.running = true → Reports layout firmware

/-! ## Records -/

theorem body_fits (message : StructuredLogMessage) :
    (body message).2 = true ∧ (body message).1.items = message.json.items ++ ['\n'] := by
  have bounded : utf8Len message.json.items ≤ 1024 := message.json.bounded
  have newline : utf8Len ['\n'] = 1 := rfl
  let blank : HeaplessString victoriaBodyCapacity := .empty
  have fits : utf8Len blank.items + utf8Len [message.json.items, ['\n']].flatten ≤ victoriaBodyCapacity := by
    simp only [blank, Heapless.empty_items, utf8Len_nil, List.flatten_cons, List.flatten_nil, List.append_nil,
      utf8Len_append, newline, victoriaBodyCapacity]
    omega
  have written := HeaplessString.writePieces_fits fits
  simpa [body, blank] using written

/-- A record is taken behind the others, or dropped and counted. -/
theorem enqueue_cases (queue : Queue) (record : Record) (persistedPanic : Bool) :
    let after := queue.enqueueStructuredRecord record persistedPanic
    (queue.pending.items = [] ∧ after.dropped = queue.dropped ∧
        after.pending.items = [⟨formatStructuredLogMessage record, persistedPanic⟩]) ∨
      queue.pending.items ≠ [] ∧ after.pending = queue.pending ∧ after.dropped = queue.dropped + 1 := by
  have bounded := queue.pending.bounded
  simp only [Queue.enqueueStructuredRecord]
  cases items : queue.pending.items with
  | nil =>
    have room : queue.pending.items.length < structuredLogQueueCapacity := by
      rw [items]
      decide
    obtain ⟨sent, succeeds, content⟩ :=
      Channel.trySend_room queue.pending ⟨formatStructuredLogMessage record, persistedPanic⟩ room
    refine Or.inl ⟨rfl, ?_⟩
    rw [succeeds]
    exact ⟨rfl, by rw [content, items, List.nil_append]⟩
  | cons oldest others =>
    have full : queue.pending.items.length = structuredLogQueueCapacity := by
      rw [items, List.length_cons, structuredLogQueueCapacity] at bounded ⊢
      omega
    refine Or.inr ⟨by simp, ?_⟩
    rw [Channel.trySend_full _ full]
    exact ⟨rfl, rfl⟩

/-- What `FanoutLogger::log` adds at the end. -/
def logged (queue : Queue) (record : Record) : List StructuredLogMessage :=
  if structured record ∧ queue.pending.items = [] then [⟨formatStructuredLogMessage record, false⟩] else []

theorem log_items (queue : Queue) (record : Record) :
    (queue.log record).pending.items = queue.pending.items ++ logged queue record := by
  unfold Queue.log logged
  by_cases kept : structured record = true
  · rw [if_pos kept, Queue.enqueueStructured]
    rcases enqueue_cases queue record false with ⟨room, _, items⟩ | ⟨full, same, _⟩
    · rw [items, room, if_pos ⟨kept, rfl⟩, List.nil_append]
    · rw [same, if_neg fun both => full both.2, List.append_nil]
  · rw [if_neg kept, if_neg fun both => kept both.1, List.append_nil]

theorem logged_unmarked (queue : Queue) (record : Record) :
    ∀ message ∈ logged queue record, message.persistedPanic = false := by
  intro message member
  unfold logged at member
  split at member
  · rw [List.mem_singleton.mp member]
  · cases member

/-! ## Keeping the invariant -/

/-- Records that no panic reports come in behind, and the message in flash stays. -/
theorem Reports.later {after : Firmware platform} {more : List StructuredLogMessage}
    (reports : Reports layout firmware) (content : after.content = firmware.content ++ more)
    (unmarked : ∀ message ∈ more, message.persistedPanic = false)
    (same : pending layout after.hardware.device = pending layout firmware.hardware.device)
    (mounted : after.hardware.panicFlash = firmware.hardware.panicFlash) : Reports layout after where
  stored := by
    intro message member marked
    rw [content, List.mem_append] at member
    rcases member with old | new
    · rw [same]
      exact reports.stored message old marked
    · rw [unmarked message new] at marked
      cases marked
  mounted := by
    intro message member marked
    rw [content, List.mem_append] at member
    rcases member with old | new
    · rw [mounted]
      exact reports.mounted message old marked
    · rw [unmarked message new] at marked
      cases marked
  first := by
    intro message member
    rw [content] at member
    cases before : firmware.content with
    | nil =>
      rw [before, List.nil_append] at member
      exact unmarked message (List.mem_of_mem_tail member)
    | cons head tail =>
      rw [before, List.cons_append, List.tail_cons, List.mem_append] at member
      rcases member with old | new
      · exact reports.first message (by rw [before]; exact old)
      · exact unmarked message new

/-- Without the first record none of a panic is left. -/
theorem Reports.without_first {after : Firmware platform} (reports : Reports layout firmware)
    (content : after.content = firmware.content.tail) : Reports layout after := by
  have unmarked : ∀ message ∈ after.content, message.persistedPanic = false := fun message member =>
    reports.first message (content ▸ member)
  constructor
  · intro message member marked
    rw [unmarked message member] at marked
    cases marked
  · intro message member marked
    rw [unmarked message member] at marked
    cases marked
  · exact fun message member => unmarked message (List.mem_of_mem_tail member)

/-- The invariant only looks at what this names; the memory of a device that is
not running does not matter. -/
theorem Sound.of_device {after : Firmware platform} (sound : Sound layout firmware)
    (table : after.hardware.device.table = firmware.hardware.device.table)
    (panicFlash : after.hardware.panicFlash = firmware.hardware.panicFlash)
    (idle : after.running = true → firmware.running = true ∧ after.hardware.flashBusy = firmware.hardware.flashBusy ∧
      after.hardware.panicking = firmware.hardware.panicking)
    (upload : ∀ receiver, after.upload = some receiver → receiver.phase.Within layout.table)
    (goesOn : after.forwarder.state ≠ .stopped) (reports : after.running = true → Reports layout after) :
    Sound layout after where
  table := table.trans sound.table
  mounted := by
    rw [panicFlash]
    exact sound.mounted
  idle := by
    intro running
    obtain ⟨before, busy, panicking⟩ := idle running
    rw [busy, panicking]
    exact sound.idle before
  upload := upload
  goesOn := goesOn
  reports := reports

/-! ## Booting -/

theorem reports_unmarked (unmarked : ∀ message ∈ firmware.content, message.persistedPanic = false) :
    Reports layout firmware := by
  constructor
  · intro message member marked
    rw [unmarked message member] at marked
    cases marked
  · intro message member marked
    rw [unmarked message member] at marked
    cases marked
  · exact fun message member => unmarked message (List.mem_of_mem_tail member)

theorem started_content (hardware : Hardware) (queue : Queue) :
    (started hardware queue : Firmware platform).content = queue.pending.items := rfl

/-- After a reset the flash is as it was, and if it holds a message that can be
read, its report is the first record. -/
theorem boot_spec (readable : Bool) (faults : StorageFaults) (failure : Record)
    (table : firmware.hardware.device.table = layout.table) :
    Sound layout (firmware.boot layout readable faults failure) ∧
      (firmware.boot layout readable faults failure).hardware.device = firmware.hardware.device := by
  let reset : Hardware := { firmware.hardware with panicFlash := none, flashBusy := false, panicking := false }
  have idle : reset.flashBusy = false := rfl
  obtain ⟨found, state, mounted, reported⟩ := initializeStore_spec layout readable faults idle rfl
  rcases starts : initializeStore layout readable faults reset with ⟨previous, hardware⟩
  rw [starts] at state reported
  cases state
  have boots : firmware.boot layout readable faults failure =
      started { reset with panicFlash := found } (reportPrevious failure previous) := by
    simp only [boot]
    rw [starts]
  rw [boots]
  refine ⟨⟨table, mounted, fun _ => ⟨rfl, rfl⟩, (by nofun), (by nofun), fun _ => ?_⟩, rfl⟩
  cases previous with
  | error error =>
    apply reports_unmarked
    rw [started_content]
    intro message member
    rw [reportPrevious, log_items] at member
    exact logged_unmarked _ _ message (by simpa [Queue.empty] using member)
  | ok stored =>
    obtain ⟨flash, rfl, read⟩ := reported stored rfl
    cases stored with
    | none =>
      apply reports_unmarked
      intro message member
      cases member
    | some text =>
      have content : (started { reset with panicFlash := some flash }
          (reportPrevious failure (.ok (some text))) : Firmware platform).content = [⟨report text, true⟩] := by
        rw [started_content]
        rcases enqueue_cases .empty (previousPanic text.items) true with ⟨_, _, items⟩ | ⟨full, _⟩
        · exact items
        · exact absurd rfl full
      have holds : pending layout reset.device = some text := by
        have there : pending layout reset.device = pendingAt reset.device.flash flash.offset :=
          pending_located (mounted flash rfl)
        exact there.trans read.symm
      constructor
      · intro message member _
        rw [content, List.mem_singleton] at member
        exact ⟨text, holds, by rw [member]⟩
      · intro message _ _
        exact ⟨flash, rfl⟩
      · intro message member
        rw [content] at member
        cases member

/-! ## Steps that leave the record alone -/

/-- The step keeps the invariant and changes the flash in the slots at most. -/
structure Quiet (layout : FlashLayout) (before after : Firmware platform) : Prop where
  sound : Sound layout after
  confined : Ota.Confined before.hardware.device after.hardware.device

theorem Quiet.refl (sound : Sound layout firmware) : Quiet layout firmware firmware :=
  ⟨sound, Ota.Confined.refl _⟩

theorem Quiet.pending {before after : Firmware platform} (quiet : Quiet layout before after)
    (sound : Sound layout before) : pending layout after.hardware.device = pending layout before.hardware.device :=
  pending_confined sound.table quiet.confined

/-- A step of a running device, as far as it does not concern the records. -/
theorem quiet_of_reports {after : Firmware platform} (sound : Sound layout firmware)
    (running : firmware.running = true)
    (confined : Ota.Confined firmware.hardware.device after.hardware.device)
    (panicFlash : after.hardware.panicFlash = firmware.hardware.panicFlash)
    (statics : after.hardware.flashBusy = firmware.hardware.flashBusy ∧
      after.hardware.panicking = firmware.hardware.panicking)
    (upload : ∀ receiver, after.upload = some receiver → receiver.phase.Within layout.table)
    (goesOn : after.forwarder.state ≠ .stopped) (reports : Reports layout after) :
    Quiet layout firmware after :=
  ⟨sound.of_device confined.table panicFlash (fun _ => ⟨running, statics⟩) upload goesOn fun _ => reports, confined⟩

/-- A step that takes in records of no panic at most. -/
theorem quiet_of_content {after : Firmware platform} {more : List StructuredLogMessage}
    (sound : Sound layout firmware) (running : firmware.running = true)
    (confined : Ota.Confined firmware.hardware.device after.hardware.device)
    (panicFlash : after.hardware.panicFlash = firmware.hardware.panicFlash)
    (statics : after.hardware.flashBusy = firmware.hardware.flashBusy ∧
      after.hardware.panicking = firmware.hardware.panicking)
    (upload : ∀ receiver, after.upload = some receiver → receiver.phase.Within layout.table)
    (goesOn : after.forwarder.state ≠ .stopped) (content : after.content = firmware.content ++ more)
    (unmarked : ∀ message ∈ more, message.persistedPanic = false) : Quiet layout firmware after := by
  apply quiet_of_reports sound running confined panicFlash statics upload goesOn
  exact (sound.reports running).later content unmarked (pending_confined sound.table confined) panicFlash

theorem confirm_hardware (faults : ConfirmFaults) (hardware : Hardware) : ∃ state,
    (confirmRunningImage faults hardware).2 = { hardware with device := { hardware.device with state := state } } := by
  unfold confirmRunningImage
  split
  · exact ⟨_, rfl⟩
  split
  · exact ⟨_, rfl⟩
  split
  · exact ⟨_, rfl⟩
  split
  · split
    · exact ⟨_, rfl⟩
    · exact ⟨.valid, rfl⟩
  · exact ⟨_, rfl⟩

theorem spawn_quiet (faults : ConfirmFaults) (failure : Record) (sound : Sound layout firmware)
    (running : firmware.running = true) : Quiet layout firmware (firmware.spawn faults failure) := by
  unfold spawn
  split
  · exact Quiet.refl sound
  obtain ⟨state, hardware⟩ := confirm_hardware faults firmware.hardware
  rcases confirms : confirmRunningImage faults firmware.hardware with ⟨confirmed, after⟩
  rw [confirms] at hardware
  cases hardware
  have confined : Ota.Confined firmware.hardware.device { firmware.hardware.device with state := state } :=
    ⟨rfl, fun _ _ => rfl⟩
  cases confirmed with
  | true =>
    exact quiet_of_content sound running confined rfl ⟨rfl, rfl⟩ sound.upload sound.goesOn
      (List.append_nil _).symm (by simp)
  | false =>
    refine quiet_of_content sound running confined rfl ⟨rfl, rfl⟩ sound.upload sound.goesOn ?_
      (logged_unmarked firmware.queue { failure with level := .warn })
    simp [content, log_items]

theorem log_quiet (record : Record) (sound : Sound layout firmware) (running : firmware.running = true) :
    Quiet layout firmware { firmware with queue := firmware.queue.log record } := by
  refine quiet_of_content sound running (Ota.Confined.refl _) rfl ⟨rfl, rfl⟩ sound.upload sound.goesOn ?_
    (logged_unmarked firmware.queue record)
  simp [content, log_items]

theorem receive_content : firmware.receive.content = firmware.content := by
  unfold receive
  split
  · next message rest state received =>
    have items := Channel.tryReceive_eq_some.mp received
    simp [content, Forwarder.inHand, Forwarder.receive, state, items]
  · rfl

theorem receive_quiet (sound : Sound layout firmware) (running : firmware.running = true) :
    Quiet layout firmware firmware.receive := by
  have content : firmware.receive.content = firmware.content ++ [] := by
    rw [receive_content, List.append_nil]
  revert content
  unfold receive
  split
  · intro content
    exact quiet_of_content sound running (Ota.Confined.refl _) rfl ⟨rfl, rfl⟩ sound.upload
      (by simp [Forwarder.receive]) content (by simp)
  · intro _
    exact Quiet.refl sound

theorem pausing_content {message : StructuredLogMessage} (pausing : firmware.forwarder.state = .pausing message) :
    firmware.content = message :: firmware.queue.pending.items := by
  simp [content, Forwarder.inHand, pausing]

theorem sending_content {message : StructuredLogMessage} (sending : firmware.forwarder.state = .sending message) :
    firmware.content = message :: firmware.queue.pending.items := by
  simp [content, Forwarder.inHand, sending]

/-- The report of a panic is sent again; another record is given up. -/
theorem resume_quiet (sound : Sound layout firmware) (running : firmware.running = true) :
    Quiet layout firmware firmware.resume := by
  unfold resume
  split
  swap
  · exact Quiet.refl sound
  next message pausing =>
  have before := pausing_content pausing
  by_cases marked : message.persistedPanic = true
  · have content : ({ firmware with forwarder := firmware.forwarder.resume message } : Firmware platform).content =
        firmware.content ++ [] := by
      rw [before, List.append_nil]
      simp [Firmware.content, Forwarder.inHand, Forwarder.resume, marked]
    exact quiet_of_content sound running (Ota.Confined.refl _) rfl ⟨rfl, rfl⟩ sound.upload
      (by simp [Forwarder.resume, marked]) content (by simp)
  · have content : ({ firmware with forwarder := firmware.forwarder.resume message } : Firmware platform).content =
        firmware.content.tail := by
      rw [before, List.tail_cons]
      simp [Firmware.content, Forwarder.inHand, Forwarder.resume, marked]
    exact quiet_of_reports sound running (Ota.Confined.refl _) rfl ⟨rfl, rfl⟩ sound.upload
      (by simp [Forwarder.resume, marked]) ((sound.reports running).without_first content)

/-! ## Uploads -/

theorem accept_quiet (sound : Sound layout firmware) (running : firmware.running = true) :
    Quiet layout firmware firmware.accept := by
  unfold accept
  split
  · refine quiet_of_content sound running (Ota.Confined.refl _) rfl ⟨rfl, rfl⟩ ?_ sound.goesOn
      (List.append_nil _).symm (by simp)
    rintro receiver ⟨⟩
    exact trivial
  · exact Quiet.refl sound

/-- Whatever keeps an upload in the slots, the firmware does to the upload alone. -/
theorem serve_quiet {turn : Ota.Receiver platform → Ota.Receiver platform} (sound : Sound layout firmware)
    (running : firmware.running = true)
    (within : ∀ base receiver, receiver.Within base → (turn receiver).Within base) :
    Quiet layout firmware (firmware.serve turn) := by
  unfold serve
  split
  · exact Quiet.refl sound
  next receiver serving =>
  let current : Ota.Receiver platform :=
    { receiver with upload := { receiver.upload with device := firmware.hardware.device } }
  have before : current.Within firmware.hardware.device := by
    refine ⟨Ota.Confined.refl _, ?_⟩
    rw [sound.table]
    exact sound.upload receiver serving
  have after := within _ current before
  have inTable := after.phase
  rw [sound.table] at inTable
  refine quiet_of_content sound running after.device rfl ⟨rfl, rfl⟩ ?_ sound.goesOn (List.append_nil _).symm
    (by simp)
  intro served serves
  dsimp only at serves
  split at serves
  · cases serves
  · cases serves
    exact inTable

theorem socketSent_quiet (faults : Ota.Faults) (count : ℕ) (sound : Sound layout firmware)
    (running : firmware.running = true) : Quiet layout firmware (firmware.socketSent faults count) :=
  serve_quiet sound running fun _ _ within => within.sent count

theorem socketReceived_quiet (faults : Ota.Faults) (fragment : List UInt8) (sound : Sound layout firmware)
    (running : firmware.running = true) : Quiet layout firmware (firmware.socketReceived faults fragment) := by
  refine serve_quiet sound running fun base receiver within => ?_
  split
  · exact within.received _
  · exact within

/-! ## Steps that touch the record -/

/-- The record that an event posts to the server. -/
def posts (firmware : Firmware platform) : Event → Option StructuredLogMessage
  | .attempt _ _ =>
    if firmware.running && firmware.spawned then
      match firmware.forwarder.state with
      | .sending message => some message
      | _ => none
    else none
  | _ => none

/-- The report of a panic that the server acknowledges with an event. -/
def acknowledged (firmware : Firmware platform) : Event → Option StructuredLogMessage
  | .attempt attempt faults =>
    if attempt.accepted then (firmware.posts (.attempt attempt faults)).filter StructuredLogMessage.persistedPanic
    else none
  | _ => none

/-- An attempt is quiet unless it is the acknowledgement of a report, which is
the one of the message in flash and takes that away. -/
structure Attempted (layout : FlashLayout) (faults : StorageFaults) (acknowledged : Option StructuredLogMessage)
    (before after : Firmware platform) : Prop where
  sound : Sound layout after
  same : acknowledged = none → after.hardware = before.hardware
  inSector : InSector layout before.hardware.device after.hardware.device
  taken : ∀ message, acknowledged = some message →
    ∃ text, pending layout before.hardware.device = some text ∧ message.json = report text ∧
      (pending layout after.hardware.device = none ∨
        pending layout after.hardware.device = pending layout before.hardware.device) ∧
      (faults.erase = none → pending layout after.hardware.device = none)

theorem attempted_of_quiet {faults : StorageFaults} {after : Firmware platform}
    (quiet : Quiet layout firmware after) (same : after.hardware = firmware.hardware) :
    Attempted layout faults none firmware after where
  sound := quiet.sound
  same := fun _ => same
  inSector := by
    rw [same]
    exact InSector.refl _
  taken := by nofun

/-- Behind a success the forwarder waits for the next record. -/
theorem succeed_content {message : StructuredLogMessage} (sending : firmware.forwarder.state = .sending message)
    (hardware : Hardware) (cleared : Bool) :
    ({ firmware with hardware := hardware, forwarder := firmware.forwarder.succeed cleared } :
      Firmware platform).content = firmware.content.tail := by
  rw [sending_content sending, List.tail_cons]
  simp [content, Forwarder.inHand, Forwarder.succeed]

/-- An acknowledged report: the record is cleared, and none is on its way. -/
theorem acknowledged_spec {message : StructuredLogMessage} (faults : StorageFaults) (sound : Sound layout firmware)
    (running : firmware.running = true) (sending : firmware.forwarder.state = .sending message)
    (marked : message.persistedPanic = true) (cleared : Bool) :
    Attempted layout faults (some message) firmware { firmware with
      hardware := (clear faults firmware.hardware).2
      forwarder := firmware.forwarder.succeed cleared } := by
  have reports := sound.reports running
  have first : message ∈ firmware.content := by simp [sending_content sending]
  obtain ⟨idle, _⟩ := sound.idle running
  obtain ⟨flash, mounted⟩ := reports.mounted message first marked
  obtain ⟨same, inSector, left, gone⟩ := clear_spec faults idle mounted (sound.mounted flash mounted)
  obtain ⟨text, holds, json⟩ := reports.stored message first marked
  have content := succeed_content sending (clear faults firmware.hardware).2 cleared
  refine ⟨?_, by nofun, inSector, ?_⟩
  · refine sound.of_device inSector.table ?_ (fun _ => ⟨running, ?_, ?_⟩) sound.upload (by nofun) fun _ => ?_
    · dsimp only
      rw [same]
    · dsimp only
      rw [same]
    · dsimp only
      rw [same]
    · exact reports.without_first content
  · rintro _ ⟨⟩
    exact ⟨text, holds, json, left, fun whole => (gone whole).2⟩

theorem attempt_spec (attempt : Attempt) (faults : StorageFaults) (sound : Sound layout firmware)
    (running : firmware.running = true) (spawned : firmware.spawned = true) :
    Attempted layout faults (firmware.acknowledged (.attempt attempt faults)) firmware
      (firmware.attempt attempt faults) := by
  have reports := sound.reports running
  cases state : firmware.forwarder.state with
  | sending message =>
    have posted : firmware.posts (.attempt attempt faults) = some message := by
      simp [posts, running, spawned, state]
    simp only [Firmware.attempt, state, acknowledged, posted, (body_fits message).1, Bool.not_true,
      Bool.false_eq_true, ↓reduceIte]
    by_cases accepted : attempt.accepted = true
    · rw [if_pos accepted, if_pos accepted]
      by_cases marked : message.persistedPanic = true
      · rw [if_pos marked, Option.filter_some_pos marked]
        rcases cleared : clear faults firmware.hardware with ⟨outcome, hardware⟩
        have spec := acknowledged_spec faults sound running state marked
        rw [cleared] at spec
        cases outcome with
        | ok _ => exact spec true
        | error _ => exact spec false
      · rw [if_neg marked, Option.filter_some_neg (by simpa using marked)]
        refine attempted_of_quiet (quiet_of_reports sound running (Ota.Confined.refl _) rfl ⟨rfl, rfl⟩ sound.upload
          (by nofun) ?_) rfl
        exact reports.without_first (succeed_content state firmware.hardware true)
    · rw [if_neg accepted, if_neg accepted]
      have content : ({ firmware with forwarder := firmware.forwarder.fail message } : Firmware platform).content =
          firmware.content ++ [] := by simp [content, Forwarder.inHand, Forwarder.fail, state]
      exact attempted_of_quiet (quiet_of_content sound running (Ota.Confined.refl _) rfl ⟨rfl, rfl⟩ sound.upload
        (by nofun) content (by simp)) rfl
  | _ =>
    have nothing : firmware.acknowledged (.attempt attempt faults) = none := by
      simp [acknowledged, posts, running, spawned, state]
    rw [nothing]
    simp only [Firmware.attempt, state]
    exact attempted_of_quiet (Quiet.refl sound) rfl

/-- A panic: the message in flash is the new one, none, or the one before, and
the new one if it can be written. -/
theorem panic_spec (held : Bool) (info : List (List Char)) (faults : StorageFaults) (sound : Sound layout firmware)
    (running : firmware.running = true) :
    let message := panicMessage firmware.memory.rejectedAllocationSize info
    let after := firmware.panic held info faults
    Sound layout after ∧ InSector layout firmware.hardware.device after.hardware.device ∧
      (pending layout after.hardware.device = pending layout firmware.hardware.device ∨
        pending layout after.hardware.device = none ∨ pending layout after.hardware.device = some message) ∧
      (held = false → faults.erase = none → faults.write = none →
        ∀ flash, firmware.hardware.panicFlash = some flash →
          pending layout after.hardware.device = some message) ∧
      (firmware.hardware.panicFlash = none ∨ held = true →
        pending layout after.hardware.device = pending layout firmware.hardware.device) := by
  intro message after
  obtain ⟨idle, notPanicking⟩ := sound.idle running
  let entered : Hardware := { firmware.hardware with flashBusy := held, panicking := true }
  have handled : after.hardware = (persist firmware.memory.rejectedAllocationSize info faults entered).2 := by
    simp only [after, Firmware.panic, panicHandler, notPanicking, Bool.false_eq_true, ↓reduceIte, entered]
  have stopped : after.running = false := rfl
  have keeps : InSector layout firmware.hardware.device after.hardware.device →
      after.hardware.panicFlash = firmware.hardware.panicFlash → Sound layout after := by
    intro inSector panicFlash
    refine sound.of_device inSector.table panicFlash ?_ sound.upload sound.goesOn ?_
    · intro runs
      rw [stopped] at runs
      cases runs
    · intro runs
      rw [stopped] at runs
      cases runs
  have untouched : after.hardware = entered → InSector layout firmware.hardware.device after.hardware.device ∧
      after.hardware.panicFlash = firmware.hardware.panicFlash ∧
      pending layout after.hardware.device = pending layout firmware.hardware.device := by
    intro same
    rw [same]
    exact ⟨InSector.refl _, rfl, rfl⟩
  cases held with
  | true =>
    have busy : entered.flashBusy = true := rfl
    obtain ⟨inSector, panicFlash, same⟩ := untouched (handled.trans (by rw [persist, withFlash_busy busy]))
    exact ⟨keeps inSector panicFlash, inSector, Or.inl same, by simp, fun _ => same⟩
  | false =>
    have free : entered.flashBusy = false := rfl
    cases mounted : firmware.hardware.panicFlash with
    | none =>
      have absent : entered.panicFlash = none := mounted
      obtain ⟨inSector, panicFlash, same⟩ :=
        untouched (handled.trans (by rw [persist, withFlash_unavailable free absent]))
      exact ⟨keeps inSector panicFlash, inSector, Or.inl same, by simp, fun _ => same⟩
    | some flash =>
      have present : entered.panicFlash = some flash := mounted
      obtain ⟨inSector, left, stored⟩ := persist_spec firmware.memory.rejectedAllocationSize info faults free present
        (sound.mounted flash mounted)
      have panicFlash := persist_panicFlash firmware.memory.rejectedAllocationSize info faults free present
      rw [← handled] at inSector left stored panicFlash
      exact ⟨keeps inSector (panicFlash.trans mounted.symm), inSector, left, fun _ erased written _ _ =>
        stored erased written, by simp⟩

end EnergyDisplay.Firmware

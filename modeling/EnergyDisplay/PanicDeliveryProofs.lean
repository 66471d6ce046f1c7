import EnergyDisplay.FirmwareProofs
import EnergyDisplay.OtaProofs

/-! What becomes of a panic, over any number of boots: a message stays in flash
until the server acknowledges its report or another panic takes its place, and
each is settled once. Of the other records none is lost without being counted,
but to a reset. -/
namespace EnergyDisplay.Firmware

open Logging
open PanicStore
open Runs
open StructuredLog

variable {platform : Ota.Platform} {layout : FlashLayout} {firmware : Firmware platform} {event : Event}

/-- The message of the panic that an event is. -/
def panicked (firmware : Firmware platform) : Event → Option PanicMessage
  | .panic _ info _ =>
    if firmware.running then some (panicMessage firmware.memory.rejectedAllocationSize info) else none
  | _ => none

/-- No call of the flash driver fails on the record. -/
def Event.Undisturbed : Event → Prop
  | .attempt _ faults => faults.erase = none
  | .panic _ _ faults => faults.erase = none ∧ faults.write = none
  | _ => True

/-- What the event interrupts holds the flash. -/
def Event.held : Event → Bool
  | .panic held _ _ => held
  | _ => false

/-- What a step does to the message in flash. -/
structure Lifecycle (layout : FlashLayout) (before : Firmware platform) (event : Event)
    (after : Firmware platform) : Prop where
  kept : before.panicked event = none → before.acknowledged event = none →
    pending layout after.hardware.device = pending layout before.hardware.device
  panic : ∀ message, before.panicked event = some message →
    pending layout after.hardware.device = pending layout before.hardware.device ∨
      pending layout after.hardware.device = none ∨ pending layout after.hardware.device = some message
  unavailable : ∀ message, before.panicked event = some message →
    before.hardware.panicFlash = none ∨ event.held = true →
      pending layout after.hardware.device = pending layout before.hardware.device
  stored : ∀ message flash, before.panicked event = some message → event.held = false → event.Undisturbed →
    before.hardware.panicFlash = some flash → pending layout after.hardware.device = some message
  acknowledged : ∀ message, before.acknowledged event = some message →
    ∃ text, pending layout before.hardware.device = some text ∧ message.json = report text ∧
      (pending layout after.hardware.device = none ∨
        pending layout after.hardware.device = pending layout before.hardware.device) ∧
      (event.Undisturbed → pending layout after.hardware.device = none)
  /-- Before a report is acknowledged nothing else is posted. -/
  first : ∀ message, before.posts event = some message →
    (∃ other ∈ before.content, other.persistedPanic = true) → message.persistedPanic = true

theorem posts_content {message : StructuredLogMessage} (posts : firmware.posts event = some message) :
    ∃ others, firmware.running = true ∧ firmware.content = message :: others := by
  cases event with
  | attempt attempt faults =>
    simp only [Firmware.posts] at posts
    split at posts
    · next ready =>
      split at posts
      · next sent state =>
        cases posts
        rw [Bool.and_eq_true] at ready
        exact ⟨_, ready.1, sending_content state⟩
      · cases posts
    · cases posts
  | _ => cases posts

theorem Sound.posts_first (sound : Sound layout firmware) {message : StructuredLogMessage}
    (posts : firmware.posts event = some message)
    (owed : ∃ other ∈ firmware.content, other.persistedPanic = true) : message.persistedPanic = true := by
  obtain ⟨others, running, content⟩ := posts_content posts
  obtain ⟨other, member, marked⟩ := owed
  have first := (sound.reports running).first other
  rw [content, List.mem_cons] at member
  rw [content, List.tail_cons] at first
  rcases member with rfl | behind
  · exact marked
  · rw [first behind] at marked
    cases marked

/-- A step that leaves the message alone. -/
theorem lifecycle_of_same {after : Firmware platform} (sound : Sound layout firmware)
    (same : pending layout after.hardware.device = pending layout firmware.hardware.device)
    (calm : firmware.panicked event = none) (quiet : firmware.acknowledged event = none) :
    Lifecycle layout firmware event after where
  kept := fun _ _ => same
  panic := by simp [calm]
  unavailable := by simp [calm]
  stored := by simp [calm]
  acknowledged := by simp [quiet]
  first := fun _ => sound.posts_first

/-- A step of the running device that is quiet, or no step. -/
theorem quiet_step {ready : Bool} {after : Firmware platform} (sound : Sound layout firmware)
    (runs : ready = true → firmware.running = true)
    (quiet : firmware.running = true → Quiet layout firmware after) (calm : firmware.panicked event = none)
    (silent : firmware.acknowledged event = none) :
    Sound layout (if ready then after else firmware) ∧
      Lifecycle layout firmware event (if ready then after else firmware) := by
  cases ready with
  | true =>
    have quiet := quiet (runs rfl)
    exact ⟨quiet.sound, lifecycle_of_same sound (quiet.pending sound) calm silent⟩
  | false => exact ⟨sound, lifecycle_of_same sound rfl calm silent⟩

theorem attempt_step (attempt : Attempt) (faults : StorageFaults) (sound : Sound layout firmware) :
    Sound layout (step layout firmware (.attempt attempt faults)) ∧
      Lifecycle layout firmware (.attempt attempt faults) (step layout firmware (.attempt attempt faults)) := by
  by_cases ready : (firmware.running && firmware.spawned) = true
  · rw [step, if_pos ready]
    rw [Bool.and_eq_true] at ready
    have spec := attempt_spec attempt faults sound ready.1 ready.2
    refine ⟨spec.sound, ?_, by simp [panicked], by simp [panicked], by simp [panicked], ?_, fun _ => sound.posts_first⟩
    · intro _ silent
      rw [spec.same silent]
    · exact spec.taken
  · have silent : firmware.acknowledged (.attempt attempt faults) = none := by
      simp [acknowledged, posts, ready]
    rw [step, if_neg ready]
    exact ⟨sound, lifecycle_of_same sound rfl rfl silent⟩

theorem panic_step (held : Bool) (info : List (List Char)) (faults : StorageFaults) (sound : Sound layout firmware) :
    Sound layout (step layout firmware (.panic held info faults)) ∧
      Lifecycle layout firmware (.panic held info faults) (step layout firmware (.panic held info faults)) := by
  by_cases running : firmware.running = true
  · obtain ⟨keeps, _, left, stored, unavailable⟩ := panic_spec held info faults sound running
    have message : firmware.panicked (.panic held info faults) =
        some (panicMessage firmware.memory.rejectedAllocationSize info) := by simp [panicked, running]
    rw [step, if_pos running]
    refine ⟨keeps, by simp [message], ?_, ?_, ?_, by simp [acknowledged], by simp [posts]⟩
    · rintro _ here
      rw [message] at here
      cases here
      exact left
    · exact fun _ _ => unavailable
    · rintro _ flash here free ⟨erased, written⟩ mounted
      rw [message] at here
      cases here
      exact stored free erased written flash mounted
  · have calm : firmware.panicked (.panic held info faults) = none := by simp [panicked, running]
    rw [step, if_neg running]
    exact ⟨sound, lifecycle_of_same sound rfl calm rfl⟩

theorem ready_running (ready : (firmware.running && firmware.spawned) = true) : firmware.running = true :=
  ((Bool.and_eq_true _ _).mp ready).1

/-- What every step keeps, and what it does to the message in flash. -/
theorem step_spec (event : Event) (sound : Sound layout firmware) :
    Sound layout (step layout firmware event) ∧
      Lifecycle layout firmware event (step layout firmware event) := by
  cases event with
  | boot readable faults failure =>
    obtain ⟨starts, same⟩ := boot_spec readable faults failure sound.table
    exact ⟨starts, lifecycle_of_same sound (congrArg (pending layout) same) rfl rfl⟩
  | spawn faults failure => exact quiet_step sound id (spawn_quiet faults failure sound) rfl rfl
  | allocate request =>
    refine quiet_step sound id (fun running => ?_) rfl rfl
    exact quiet_of_content sound running (Ota.Confined.refl _) rfl ⟨rfl, rfl⟩ sound.upload sound.goesOn
      (List.append_nil _).symm (by simp)
  | log record => exact quiet_step sound id (log_quiet record sound) rfl rfl
  | receive => exact quiet_step sound ready_running (receive_quiet sound) rfl rfl
  | attempt attempt faults => exact attempt_step attempt faults sound
  | resume => exact quiet_step sound ready_running (resume_quiet sound) rfl rfl
  | accept => exact quiet_step sound ready_running (accept_quiet sound) rfl rfl
  | socketSent faults count => exact quiet_step sound ready_running (socketSent_quiet faults count sound) rfl rfl
  | socketReceived faults fragment =>
    exact quiet_step sound ready_running (socketReceived_quiet faults fragment sound) rfl rfl
  | panic held info faults => exact panic_step held info faults sound

theorem off_sound {device : Ota.Device} (table : device.table = layout.table) :
    Sound layout (off device : Firmware platform) :=
  ⟨table, by nofun, by nofun, by nofun, by nofun, by nofun⟩

/-- **The life of a panic message.** In every run of boots, uploads, log records,
answers of the server and panics, whatever fails and wherever a reset strikes:
the message in flash changes by a panic or the acknowledgement of its report
only; a panic leaves its own message whole, the old one, or none; the report
that is acknowledged is that of the message in flash; and until then nothing
else is posted. -/
theorem panic_record_lifecycle (layout : FlashLayout) (device : Ota.Device)
    (table : device.table = layout.table) (events : List Event) :
    StepsMeet (step layout) (fun firmware event => Lifecycle layout firmware event (step layout firmware event))
      (off device : Firmware platform) events :=
  stepsMeet_of_invariant (Sound layout) (fun _ event sound _ => (step_spec event sound).2)
    (fun _ event sound _ => (step_spec event sound).1) (off_sound table) fun _ _ => trivial

/-- A record of `log::error!`. -/
def exampleFailure : Record where
  level := .error
  target := "energydisplay_firmware".toList
  args := ["panic storage initialization failed: ".toList, "MissingPartition".toList]
  modulePath := some "energydisplay_firmware".toList
  file := some "firmware/src/main.rs".toList
  line := none

/-- A boot, a panic, and two boots with an upload that is broken off between them;
the server first refuses the report, then takes it. -/
def exampleRun : List Event :=
  [.boot true .none exampleFailure, .spawn .none exampleFailure, .log exampleFailure, .receive,
    .panic false ["panicked at ".toList, "firmware/src/main.rs:270:60".toList] .none,
    .boot true .none exampleFailure, .spawn .none exampleFailure, .receive, .attempt (.answered 503) .none,
    .accept, .socketReceived .none (Ota.shortUpdate.take 50), .resume, .attempt .notConnected .none,
    .boot true .none exampleFailure, .spawn .none exampleFailure, .receive, .attempt (.answered 204) .none]

theorem panic_record_lifecycle_example : StepsMeet (step partitionsCsv)
    (fun firmware event => Lifecycle partitionsCsv firmware event (step partitionsCsv firmware event))
    (off Ota.runningFirstSlot : Firmware Ota.shortPlatform) exampleRun :=
  panic_record_lifecycle partitionsCsv Ota.runningFirstSlot rfl exampleRun

/-! ## Owners of the flash -/

/-- An upload goes on. -/
def Event.Uploads : Event → Prop
  | .socketSent .. => True
  | .socketReceived .. => True
  | _ => False

/-- The boot is brought to its end, and with it the running image confirmed. -/
def Event.Confirms : Event → Prop
  | .spawn .. => True
  | _ => False

/-- The bytes of the OTA data. A device has what they say as its selection and the
state of its image, not as bytes. -/
def Otadata (layout : FlashLayout) (address : ℕ) : Prop :=
  ∃ entry ∈ layout.entries, entry.label = otadataLabel ∧ entry.partition.offset ≤ address ∧
    address < entry.partition.offset + entry.partition.len

/-- What a step may change of the flash. -/
structure Owned (layout : FlashLayout) (before : Firmware platform) (event : Event) (after : Firmware platform) :
    Prop where
  flash : ∀ address, ¬ Otadata layout address →
    after.hardware.device.flash address ≠ before.hardware.device.flash address →
      event.Uploads ∧ Ota.AppFlash layout.table address ∨
        (before.panicked event ≠ none ∨ before.acknowledged event ≠ none) ∧ RecordSector layout address
  selected : after.hardware.device.selected ≠ before.hardware.device.selected → event.Uploads
  state : after.hardware.device.state ≠ before.hardware.device.state → event.Uploads ∨ event.Confirms

theorem owned_of_same {after : Firmware platform} (same : after.hardware.device = firmware.hardware.device) :
    Owned layout firmware event after := by
  refine ⟨fun address _ changed => absurd ?_ changed, fun changed => absurd ?_ changed,
    fun changed => absurd ?_ changed⟩ <;> rw [same]

theorem owned_of_sector {after : Firmware platform}
    (inSector : InSector layout firmware.hardware.device after.hardware.device)
    (touches : firmware.panicked event ≠ none ∨ firmware.acknowledged event ≠ none) :
    Owned layout firmware event after := by
  refine ⟨fun address _ changed => Or.inr ⟨touches, ?_⟩, fun changed => absurd inSector.selected changed,
    fun changed => absurd inSector.state changed⟩
  by_contra outside
  exact changed (inSector.flash address outside)

theorem owned_of_slots {after : Firmware platform} (sound : Sound layout firmware)
    (confined : Ota.Confined firmware.hardware.device after.hardware.device) (uploads : event.Uploads) :
    Owned layout firmware event after := by
  refine ⟨fun address _ changed => Or.inl ⟨uploads, ?_⟩, fun _ => uploads, fun _ => Or.inl uploads⟩
  by_contra outside
  rw [← sound.table] at outside
  exact changed (confined.flash address outside)

theorem step_owned (event : Event) (sound : Sound layout firmware) :
    Owned layout firmware event (step layout firmware event) := by
  cases event with
  | boot readable faults failure => exact owned_of_same (boot_spec readable faults failure sound.table).2
  | spawn faults failure =>
    obtain ⟨state, confirms⟩ := confirm_hardware faults firmware.hardware
    rcases image : confirmRunningImage faults firmware.hardware with ⟨confirmed, hardware⟩
    rw [image] at confirms
    cases confirms
    rw [step]
    split
    · unfold spawn
      split
      · exact owned_of_same rfl
      · rw [image]
        exact ⟨fun _ _ changed => absurd rfl changed, fun changed => absurd rfl changed, fun _ => Or.inr trivial⟩
    · exact owned_of_same rfl
  | attempt attempt faults =>
    rw [step]
    split
    · next ready =>
      rw [Bool.and_eq_true] at ready
      have spec := attempt_spec attempt faults sound ready.1 ready.2
      cases silent : firmware.acknowledged (.attempt attempt faults) with
      | none => exact owned_of_same (congrArg Hardware.device (spec.same silent))
      | some report => exact owned_of_sector spec.inSector (Or.inr (by simp [silent]))
    · exact owned_of_same rfl
  | panic held info faults =>
    by_cases running : firmware.running = true
    · rw [step, if_pos running]
      exact owned_of_sector (panic_spec held info faults sound running).2.1 (Or.inl (by simp [panicked, running]))
    · rw [step, if_neg running]
      exact owned_of_same rfl
  | socketSent faults count =>
    by_cases ready : (firmware.running && firmware.spawned) = true
    · rw [step, if_pos ready]
      exact owned_of_slots sound (socketSent_quiet faults count sound (ready_running ready)).confined trivial
    · rw [step, if_neg ready]
      exact owned_of_same rfl
  | socketReceived faults fragment =>
    by_cases ready : (firmware.running && firmware.spawned) = true
    · rw [step, if_pos ready]
      exact owned_of_slots sound (socketReceived_quiet faults fragment sound (ready_running ready)).confined trivial
    · rw [step, if_neg ready]
      exact owned_of_same rfl
  | receive =>
    rw [step]
    split
    · unfold receive
      split <;> exact owned_of_same rfl
    · exact owned_of_same rfl
  | resume =>
    rw [step]
    split
    · unfold resume
      split <;> exact owned_of_same rfl
    · exact owned_of_same rfl
  | accept =>
    rw [step]
    split
    · unfold accept
      split <;> exact owned_of_same rfl
    · exact owned_of_same rfl
  | allocate request =>
    rw [step]
    split <;> exact owned_of_same rfl
  | log record =>
    rw [step]
    split <;> exact owned_of_same rfl

/-- **Every byte of flash has one owner.** In every run, whatever fails and
however tasks, panics and resets interleave: the slots of the images change in
the hands of an upload, the sector of the panic record by a panic or an
acknowledged report, and no other byte does but the OTA data. Of what these say,
only an upload moves the selection, and only an upload and the end of a boot the
state of the image. -/
theorem flash_has_owners (layout : FlashLayout) (device : Ota.Device) (table : device.table = layout.table)
    (events : List Event) :
    StepsMeet (step layout) (fun firmware event => Owned layout firmware event (step layout firmware event))
      (off device : Firmware platform) events :=
  stepsMeet_of_invariant (Sound layout) (fun _ event sound _ => step_owned event sound)
    (fun _ event sound _ => (step_spec event sound).1) (off_sound table) fun _ _ => trivial

theorem flash_has_owners_example : StepsMeet (step partitionsCsv)
    (fun firmware event => Owned partitionsCsv firmware event (step partitionsCsv firmware event))
    (off Ota.runningFirstSlot : Firmware Ota.shortPlatform) exampleRun :=
  flash_has_owners partitionsCsv Ota.runningFirstSlot rfl exampleRun

/-! ## Settled once -/

/-- The end of a message: acknowledged by the server, or another took its place. -/
structure Settlement where
  message : PanicMessage
  acknowledged : Bool

/-- The message that a panic persists, if there is a flash to write to and what the
panic interrupts does not hold it. -/
def persisted (firmware : Firmware platform) (event : Event) : List PanicMessage :=
  if firmware.hardware.panicFlash.isSome && !event.held then (firmware.panicked event).toList else []

/-- The message in flash, if any. -/
def stored (layout : FlashLayout) (firmware : Firmware platform) : List PanicMessage :=
  (pending layout firmware.hardware.device).toList

/-- The messages that a step settles. -/
def settled (layout : FlashLayout) (firmware : Firmware platform) (event : Event) : List Settlement :=
  match pending layout firmware.hardware.device with
  | none => []
  | some message =>
    if (firmware.acknowledged event).isSome then [⟨message, true⟩]
    else if firmware.persisted event ≠ [] then [⟨message, false⟩]
    else []

def settledMessages (layout : FlashLayout) (firmware : Firmware platform) (event : Event) : List PanicMessage :=
  (settled layout firmware event).map Settlement.message

/-- What the server has acknowledged of panics. -/
def acknowledgedBodies (firmware : Firmware platform) (event : Event) : List (List Char) :=
  (firmware.acknowledged event).toList.map fun message => (body message).1.items

/-- The body of a panic's report. -/
def reportBody (message : PanicMessage) : List Char := (report message).items ++ ['\n']

/-- What the server is told of the messages it acknowledged. -/
def acknowledgedReports (settlements : List Settlement) : List (List Char) :=
  (settlements.filter Settlement.acknowledged).map fun settlement => reportBody settlement.message

/-- An event is a panic or brings an acknowledgement, not both. -/
theorem panicked_or_acknowledged : firmware.panicked event = none ∨ firmware.acknowledged event = none := by
  cases event with
  | panic held info faults => exact Or.inr rfl
  | _ => exact Or.inl rfl

theorem persisted_nil (calm : firmware.panicked event = none) : firmware.persisted event = [] := by
  simp [persisted, calm]

theorem settled_nil (calm : firmware.persisted event = []) (silent : firmware.acknowledged event = none) :
    settled layout firmware event = [] := by
  unfold settled
  split
  · rfl
  · simp [silent, calm]

theorem step_settles (event : Event) (sound : Sound layout firmware) (undisturbed : event.Undisturbed) :
    stored layout firmware ++ firmware.persisted event =
      settledMessages layout firmware event ++ stored layout (step layout firmware event) := by
  have life := (step_spec event sound).2
  unfold stored settledMessages
  cases silent : firmware.acknowledged event with
  | some report =>
    have calm : firmware.panicked event = none := by
      rcases panicked_or_acknowledged with calm | none_
      · exact calm
      · rw [silent] at none_
        cases none_
    obtain ⟨text, holds, _, _, gone⟩ := life.acknowledged report silent
    rw [persisted_nil calm, gone undisturbed, settled, holds]
    simp [silent]
  | none =>
    cases panics : firmware.panicked event with
    | none =>
      rw [life.kept panics silent, persisted_nil panics, settled_nil (persisted_nil panics) silent]
      simp
    | some message =>
      by_cases refused : firmware.hardware.panicFlash = none ∨ event.held = true
      · have nothing : firmware.persisted event = [] := by
          rcases refused with unmounted | held
          · simp [persisted, unmounted]
          · simp [persisted, held]
        rw [life.unavailable message panics refused, nothing, settled_nil nothing silent]
        simp
      · rw [not_or, Bool.not_eq_true] at refused
        obtain ⟨mounted, free⟩ := refused
        obtain ⟨flash, mounted⟩ := Option.ne_none_iff_exists'.mp mounted
        have persists : firmware.persisted event = [message] := by simp [persisted, mounted, free, panics]
        rw [life.stored message flash panics free undisturbed mounted, persists, settled]
        cases pending layout firmware.hardware.device with
        | none => rfl
        | some old => simp [silent, persists]

theorem step_acknowledges (event : Event) (sound : Sound layout firmware) :
    firmware.acknowledgedBodies event = acknowledgedReports (settled layout firmware event) := by
  have life := (step_spec event sound).2
  unfold acknowledgedBodies acknowledgedReports settled
  cases silent : firmware.acknowledged event with
  | none =>
    split
    · rfl
    · by_cases nothing : firmware.persisted event = [] <;> simp [nothing]
  | some message =>
    obtain ⟨text, holds, json, _⟩ := life.acknowledged message silent
    rw [holds]
    simp [reportBody, (body_fits message).2, json]

theorem run_settles {events : List Event} (sound : Sound layout firmware)
    (undisturbed : ∀ event ∈ events, event.Undisturbed) :
    stored layout firmware ++ observed (step layout) persisted firmware events =
      observed (step layout) (settledMessages layout) firmware events ++
        stored layout (run (step layout) firmware events) := by
  apply run_conserves (Sound layout) ?_ ?_ sound undisturbed
  · exact fun _ event sound _ => (step_spec event sound).1
  · exact fun _ event sound undisturbed => step_settles event sound undisturbed

/-- **Each panic message is settled once.** As long as the flash driver does its
work, and whatever flash operations panics interrupt, the messages persisted in a
run of any number of boots are, in order, those whose report the server
acknowledged or whose place another panic took, and the one still in flash; and
what the server acknowledged is, in order, the reports of the former, word for
word. -/
theorem panic_messages_settled_once (layout : FlashLayout) (device : Ota.Device)
    (table : device.table = layout.table) (events : List Event)
    (undisturbed : ∀ event ∈ events, event.Undisturbed) :
    let start : Firmware platform := off device
    let settlements := observed (step layout) (settled layout) start events
    stored layout start ++ observed (step layout) persisted start events =
        settlements.map Settlement.message ++ stored layout (run (step layout) start events) ∧
      observed (step layout) acknowledgedBodies start events = acknowledgedReports settlements := by
  intro start settlements
  have sound : Sound layout start := off_sound table
  constructor
  · have messages : observed (step layout) (settledMessages layout) start events =
        settlements.map Settlement.message := by
      apply observed_form (List.map Settlement.message) rfl
      intro first second
      exact List.map_append
    rw [← messages]
    exact run_settles sound undisturbed
  · rw [observed_congr (Sound layout) (fun _ event sound => step_acknowledges event sound)
      (fun _ event sound => (step_spec event sound).1) sound]
    apply observed_form acknowledgedReports rfl
    intro first second
    simp [acknowledgedReports]

theorem panic_messages_settled_once_example :
    let start : Firmware Ota.shortPlatform := off Ota.runningFirstSlot
    let settlements := observed (step partitionsCsv) (settled partitionsCsv) start exampleRun
    stored partitionsCsv start ++ observed (step partitionsCsv) persisted start exampleRun =
        settlements.map Settlement.message ++ stored partitionsCsv (run (step partitionsCsv) start exampleRun) ∧
      observed (step partitionsCsv) acknowledgedBodies start exampleRun = acknowledgedReports settlements :=
  panic_messages_settled_once partitionsCsv Ota.runningFirstSlot rfl exampleRun
    (by simp [exampleRun, Event.Undisturbed, StorageFaults.none])

end EnergyDisplay.Firmware

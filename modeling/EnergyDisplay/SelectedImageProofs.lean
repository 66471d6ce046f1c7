import EnergyDisplay.OtaTrustProofs
import EnergyDisplay.PanicDeliveryProofs

/-! The firmware boots what it can trust, over any number of boots: between the
reads of an upload come log records, acknowledged reports, panics and resets.
`OtaUpdater` passes over the slot booted from, so the slot an upload goes to
depends on the boot. -/
namespace EnergyDisplay.Firmware

open PanicStore
open Runs

variable {platform : Ota.Platform}

/-! ## Lives -/

/-- `OtaUpdater` on a device booted from a slot: which slot comes after the
selected one. It is not the booted one, nor the one that erased OTA data select. -/
structure Updater (platform : Ota.Platform) where
  next : Ota.AppPartitionSubType → Ota.AppPartitionSubType → Ota.AppPartitionSubType
  skips : ∀ booted selected, next booted selected ≠ booted
  spares : ∀ booted selected, next booted selected ≠ platform.resetPartition

/-- The platform on a device booted from the slot. -/
def Updater.booted (updater : Updater platform) (slot : Ota.AppPartitionSubType) : Ota.Platform :=
  { platform with nextPartition := updater.next slot }

def Event.Boots : Event → Prop
  | .boot .. => True
  | _ => False

/-- The marking of an activated image does not fail. -/
def Event.Marks : Event → Prop
  | .socketSent faults _ => faults.fails .setCurrentOtaState = none
  | .socketReceived faults _ => faults.fails .setCurrentOtaState = none
  | _ => True

/-- From a reset to the next one: what the boot meets, and what happens then. -/
structure Life where
  readable : Bool
  faults : StorageFaults
  failure : Logging.Record
  events : List Event
  noReset : ∀ event ∈ events, ¬ event.Boots

/-- The device boots from the slot that is selected. -/
def Life.start (updater : Updater platform) (layout : FlashLayout) (device : Ota.Device) (life : Life) :
    Firmware (updater.booted device.selected) :=
  (off device).boot layout life.readable life.faults life.failure

/-- The device, as each event finds it and as the last one leaves it. -/
def Life.devices (updater : Updater platform) (layout : FlashLayout) (device : Ota.Device) (life : Life) :
    List Ota.Device :=
  (visited (step layout) (life.start updater layout device) life.events).map fun firmware =>
    firmware.hardware.device

/-- What a life leaves to the next. -/
def live (updater : Updater platform) (layout : FlashLayout) (device : Ota.Device) (life : Life) : Ota.Device :=
  (run (step layout) (life.start updater layout device) life.events).hardware.device

/-- No upload begins where one before it has moved the selection. -/
def BeginsUnmoved (booted : Ota.AppPartitionSubType) (firmware : Firmware platform) (event : Event) : Prop :=
  event = .accept → firmware.upload = none → Ota.Unmoved platform booted firmware.hardware.device

/-- Behind an activation no upload begins before the reset. -/
def Life.Resets (updater : Updater platform) (layout : FlashLayout) (device : Ota.Device) (life : Life) : Prop :=
  StepsMeet (step layout) (BeginsUnmoved device.selected) (life.start updater layout device) life.events

variable {layout : FlashLayout} {firmware : Firmware platform} {event : Event}
  {start origin : Ota.Device} {booted : Ota.AppPartitionSubType} {watched marked : Prop}

/-! ## A life between two resets -/

/-- An upload under way, on the device as it is. -/
def serving (firmware : Firmware platform) (receiver : Ota.Receiver platform) : Ota.Receiver platform :=
  { receiver with upload := { receiver.upload with device := firmware.hardware.device } }

/-- The device is settled, and an upload under way is faithful. -/
structure Guarded (booted : Ota.AppPartitionSubType) (watched marked : Prop) (origin : Ota.Device)
    (firmware : Firmware platform) : Prop where
  device : Ota.Settled platform booted watched origin firmware.hardware.device
  idle : firmware.upload = none → watched → marked → Ota.Unmoved platform booted firmware.hardware.device
  upload : ∀ receiver, firmware.upload = some receiver →
    (firmware.serving receiver).Faithful booted watched marked origin

/-- A slot is apart from the sector of the record and from the OTA data. -/
theorem slot_apart {slot : Ota.AppPartitionSubType} {entry : Ota.PartitionEntry}
    (found : Ota.findApp layout.table slot = some entry) {address : ℕ} (from_ : entry.offset ≤ address)
    (below : address < entry.offset + entry.len) : ¬ RecordSector layout address ∧ ¬ Otadata layout address := by
  obtain ⟨member, app⟩ := Ota.findApp_slot found
  have inSlot : Ota.AppFlash layout.table address := ⟨entry, member, app, from_, below⟩
  constructor
  · rintro ⟨offset, located, start, stop⟩
    exact recordOffset_apart located start stop inSlot
  · rintro ⟨entry, member, label, start, stop⟩
    exact data_apart member (layout.data entry member (Or.inr label)) start stop inSlot

/-- What no upload does keeps every slot. -/
theorem Owned.slotKept {after : Firmware platform} (owned : Owned layout firmware event after)
    (others : ¬ event.Uploads) (slot : Ota.AppPartitionSubType) :
    Ota.SlotKept layout.table firmware.hardware.device.flash after.hardware.device.flash slot := by
  intro entry found address from_ below
  by_contra changed
  have apart := slot_apart found from_ below
  rcases owned.flash address apart.2 changed with ⟨uploads, _⟩ | ⟨_, record⟩
  · exact others uploads
  · exact apart.1 record

theorem Owned.selected_eq {after : Firmware platform} (owned : Owned layout firmware event after)
    (others : ¬ event.Uploads) : after.hardware.device.selected = firmware.hardware.device.selected := by
  by_contra changed
  exact others (owned.selected changed)

/-- Between the turns of an upload and short of a reset it is left alone, or
begun. -/
theorem step_upload (event : Event) (others : ¬ event.Uploads) :
    event.Boots ∧ (step layout firmware event).upload = none ∨
      (step layout firmware event).upload = firmware.upload ∨
      event = .accept ∧ firmware.upload = none ∧ ∃ flashBuffer, (step layout firmware event).upload =
        some (.start platform (step layout firmware event).hardware.device flashBuffer) := by
  cases event with
  | boot readable faults failure => exact Or.inl ⟨trivial, rfl⟩
  | socketSent faults count => exact absurd trivial others
  | socketReceived faults fragment => exact absurd trivial others
  | accept =>
    rw [step]
    split
    · unfold accept
      split
      · next idle => exact Or.inr (Or.inr ⟨rfl, idle, _, rfl⟩)
      · exact Or.inr (Or.inl rfl)
    · exact Or.inr (Or.inl rfl)
  | spawn faults failure =>
    rw [step]
    split
    · unfold spawn
      split <;> exact Or.inr (Or.inl rfl)
    · exact Or.inr (Or.inl rfl)
  | receive =>
    rw [step]
    split
    · unfold receive
      split <;> exact Or.inr (Or.inl rfl)
    · exact Or.inr (Or.inl rfl)
  | resume =>
    rw [step]
    split
    · unfold resume
      split <;> exact Or.inr (Or.inl rfl)
    · exact Or.inr (Or.inl rfl)
  | attempt attempt faults =>
    rw [step]
    split
    · refine Or.inr (Or.inl ?_)
      unfold Firmware.attempt
      repeat' split
      all_goals rfl
    · exact Or.inr (Or.inl rfl)
  | allocate request =>
    rw [step]
    split <;> exact Or.inr (Or.inl rfl)
  | log record =>
    rw [step]
    split <;> exact Or.inr (Or.inl rfl)
  | panic held info faults =>
    rw [step]
    split <;> exact Or.inr (Or.inl rfl)

theorem guarded_step_other (event : Event) (others : ¬ event.Uploads) (sound : Sound layout firmware)
    (begins : watched → BeginsUnmoved booted firmware event) (goesOn : marked → ¬ event.Boots)
    (guarded : Guarded booted watched marked origin firmware) :
    Guarded booted watched marked origin (step layout firmware event) := by
  have owned := step_owned event sound
  have table := (step_spec event sound).1.table.trans sound.table.symm
  have selected := owned.selected_eq others
  have kept : ∀ slot, Ota.SlotKept firmware.hardware.device.table firmware.hardware.device.flash
      (step layout firmware event).hardware.device.flash slot := sound.table ▸ owned.slotKept others
  have device := guarded.device.keep table selected kept
  have turns : event.Boots ∧ (step layout firmware event).upload = none ∨
      (step layout firmware event).upload = firmware.upload ∨
      event = .accept ∧ firmware.upload = none ∧ ∃ flashBuffer, (step layout firmware event).upload =
        some (.start platform (step layout firmware event).hardware.device flashBuffer) :=
    step_upload event others
  rcases turns with ⟨boots, gone⟩ | same | ⟨accepts, idle, flashBuffer, begun⟩
  · refine ⟨device, fun _ _ marks => absurd boots (goesOn marks), fun receiver serves => ?_⟩
    rw [gone] at serves
    cases serves
  · refine ⟨device, fun idle watches marks => ?_, fun receiver serves => ?_⟩
    · rw [Ota.Unmoved, selected]
      exact guarded.idle (same ▸ idle) watches marks
    · rw [same] at serves
      exact (guarded.upload receiver serves).keep table selected kept
  · refine ⟨device, fun idle => ?_, fun receiver serves => ?_⟩
    · rw [begun] at idle
      cases idle
    · rw [begun] at serves
      cases serves
      refine Ota.Receiver.start_faithful ⟨device.toKept, fun watches => ?_⟩ flashBuffer
      rw [Ota.Unmoved, selected]
      exact begins watches accepts idle

/-- What keeps an upload faithful, the firmware does to it. -/
theorem serve_guarded {turn : Ota.Receiver platform → Ota.Receiver platform}
    (guarded : Guarded booted watched marked origin firmware)
    (faithful : ∀ receiver, receiver.Faithful booted watched marked origin →
      (turn receiver).Faithful booted watched marked origin) :
    Guarded booted watched marked origin (firmware.serve turn) := by
  unfold serve
  split
  · exact guarded
  next receiver serves =>
  have after := faithful _ (guarded.upload receiver serves)
  refine ⟨after.settled, fun ended watches marks => ?_, fun served goesOn => ?_⟩
  · dsimp only at ended
    split at ended
    · next abort phase => exact (after.ended phase).unmoved watches marks
    · cases ended
  · dsimp only at goesOn
    split at goesOn
    · cases goesOn
    · cases goesOn
      exact after

theorem guarded_step (spares : Ota.Spares platform booted) (event : Event) (sound : Sound layout firmware)
    (begins : watched → BeginsUnmoved booted firmware event) (marks : marked → event.Marks ∧ ¬ event.Boots)
    (guarded : Guarded booted watched marked origin firmware) :
    Guarded booted watched marked origin (step layout firmware event) := by
  have goesOn := fun marked => (marks marked).2
  cases event with
  | socketSent faults count =>
    have marks : marked → (firmware.storageFaults faults).fails .setCurrentOtaState = none :=
      fun marked => (marks marked).1
    rw [step]
    split
    · exact serve_guarded guarded fun receiver faithful => faithful.sent marks count
    · exact guarded
  | socketReceived faults fragment =>
    have marks : marked → (firmware.storageFaults faults).fails .setCurrentOtaState = none :=
      fun marked => (marks marked).1
    rw [step]
    split
    · refine serve_guarded guarded fun receiver faithful => ?_
      split
      · next limit want =>
        refine faithful.received spares marks fun asked wants => ?_
        rw [want] at wants
        cases wants
        exact List.length_take_le _ _
      · exact faithful
    · exact guarded
  | _ => exact guarded_step_other _ id sound begins goesOn guarded

/-- In a run whose uploads begin unmoved, if it is watched. -/
theorem visited_guarded (spares : Ota.Spares platform booted) {events : List Event} (sound : Sound layout firmware)
    (begins : watched → StepsMeet (step layout) (BeginsUnmoved booted) firmware events)
    (guarded : Guarded booted watched False origin firmware) :
    ∀ after ∈ visited (step layout) firmware events, Guarded booted watched False origin after := by
  intro after member
  have both := (stepsMeet_imp.mpr begins).visited
    (fun firmware => Sound layout firmware ∧ Guarded booted watched False origin firmware)
    (fun firmware event both begins =>
      And.intro (step_spec event both.1).1 (guarded_step spares event both.1 begins False.elim both.2))
    ⟨sound, guarded⟩ after member
  exact both.2

/-- Where images are marked, uploads begin unmoved. -/
theorem Guarded.begins (guarded : Guarded booted True True origin firmware) (event : Event) :
    BeginsUnmoved booted firmware event := fun _ idle => guarded.idle idle trivial trivial

theorem begins_of_marked (spares : Ota.Spares platform booted) {events : List Event} (sound : Sound layout firmware)
    (guarded : Guarded booted True True origin firmware)
    (marked : ∀ event ∈ events, event.Marks ∧ ¬ event.Boots) :
    StepsMeet (step layout) (BeginsUnmoved booted) firmware events := by
  refine stepsMeet_of_invariant (fun firmware => Sound layout firmware ∧ Guarded booted True True origin firmware)
    (fun firmware event both _ => both.2.begins event) (fun firmware event both marks => ?_) ⟨sound, guarded⟩ marked
  exact ⟨(step_spec event both.1).1,
    guarded_step spares event both.1 (fun _ => both.2.begins event) (fun _ => marks) both.2⟩

/-! ## Over lives -/

variable {updater : Updater platform}

theorem Updater.spares_booted (updater : Updater platform) (slot : Ota.AppPartitionSubType) :
    Ota.Spares (updater.booted slot) slot := ⟨updater.skips slot, updater.spares slot⟩

theorem live_mem {device : Ota.Device} {life : Life} :
    live updater layout device life ∈ life.devices updater layout device :=
  List.mem_map_of_mem last_visited

/-- Which images can be trusted does not depend on the next slots. -/
theorem trusted_next (next : Ota.AppPartitionSubType → Ota.AppPartitionSubType) {flash : ℕ → UInt8}
    {slot : Ota.AppPartitionSubType} (trusted : Ota.Trusted platform start flash slot) :
    Ota.Trusted { platform with nextPartition := next } start flash slot := by
  rcases trusted with ⟨first, kept⟩ | ⟨entry, header, image, found, bears⟩
  · exact .initial first kept
  · obtain ⟨⟨length, magic, size, sized, aligned, authentic⟩, first, digest, fits, held⟩ := bears
    exact .uploaded entry header image found
      ⟨⟨length, magic, size, sized, aligned, authentic⟩, first, digest, fits, held⟩

theorem Updater.secure_booted {slot : Ota.AppPartitionSubType} {device : Ota.Device} :
    Ota.Secure (updater.booted slot) start device ↔ Ota.Secure platform start device := by
  constructor
  · rintro ⟨table, selected, spare⟩
    have back : Ota.Trusted { updater.booted slot with nextPartition := platform.nextPartition } start device.flash
        device.selected := trusted_next platform.nextPartition selected
    exact ⟨table, back, spare⟩
  · rintro ⟨table, selected, spare⟩
    exact ⟨table, trusted_next (updater.next slot) selected, spare⟩

theorem Life.start_spec (watched marked : Prop) {device : Ota.Device} (life : Life)
    (table : device.table = layout.table) :
    Sound layout (life.start updater layout device) ∧
      Guarded device.selected watched marked device (life.start updater layout device) := by
  have off_table : (off device : Firmware (updater.booted device.selected)).hardware.device.table =
      layout.table := table
  obtain ⟨sound, same⟩ := boot_spec life.readable life.faults life.failure off_table
  refine ⟨sound, ?_, fun _ _ _ => ?_, by rintro receiver ⟨⟩⟩
  · rw [Life.start, same]
    exact ⟨Ota.Kept.refl device, fun _ => Or.inl (Or.inl rfl)⟩
  · rw [Life.start, same]
    exact Or.inl rfl

theorem Life.resets_of_marked {device : Ota.Device} {life : Life} (table : device.table = layout.table)
    (marked : ∀ event ∈ life.events, event.Marks) : life.Resets updater layout device := by
  obtain ⟨sound, guarded⟩ := Life.start_spec True True life table
  refine begins_of_marked (updater.spares_booted _) sound guarded fun event member => ?_
  exact ⟨marked event member, life.noReset event member⟩

/-- What a life keeps settled. -/
theorem devices_settled {device : Ota.Device} {life : Life} (table : device.table = layout.table)
    (resets : watched → life.Resets updater layout device) :
    ∀ after ∈ life.devices updater layout device,
      Ota.Settled (updater.booted device.selected) device.selected watched device after := by
  intro after member
  obtain ⟨firmware, visits, rfl⟩ := List.mem_map.mp member
  obtain ⟨sound, guarded⟩ := Life.start_spec watched False life table
  exact (visited_guarded (updater.spares_booted _) sound resets guarded firmware visits).device

theorem devices_kept {device : Ota.Device} {life : Life} (table : device.table = layout.table) :
    ∀ after ∈ life.devices updater layout device,
      Ota.Kept (updater.booted device.selected) device.selected device after :=
  fun after member => (devices_settled table False.elim after member).toKept

theorem live_table {device : Ota.Device} (table : device.table = layout.table) (life : Life) :
    (live updater layout device life).table = layout.table := (devices_kept table _ live_mem).table.trans table

theorem devices_secure {device : Ota.Device} {life : Life} (table : start.table = layout.table)
    (secure : Ota.Secure platform start device) (resets : life.Resets updater layout device) :
    ∀ after ∈ life.devices updater layout device, Ota.Secure platform start after := by
  intro after member
  have settled := devices_settled (secure.table.trans table) (fun _ : True => resets) after member
  exact Updater.secure_booted.mp (settled.secure trivial (Updater.secure_booted.mpr secure))

/-- **What is selected can be trusted.** Over any number of lives, with uploads in
any pieces, panics and resets, whatever fails: the slot booted from keeps every
byte until the reset. If behind an activation no upload begins before the reset,
which is so if the marking of an image never fails, then the selected slot always
holds an image that was announced under the password and received whole with the
announced digest, or no upload has touched it and it was selected at first or is
the one that erased OTA data select. -/
theorem selected_image_trusted (updater : Updater platform) (layout : FlashLayout) (device : Ota.Device)
    (table : device.table = layout.table) (lives : List Life) :
    StepsMeet (live updater layout) (fun current life => ∀ after ∈ life.devices updater layout current,
        Ota.SlotKept layout.table current.flash after.flash current.selected) device lives ∧
      (StepsMeet (live updater layout) (fun current life => life.Resets updater layout current) device lives →
        StepsMeet (live updater layout) (fun current life => ∀ after ∈ life.devices updater layout current,
          Ota.Trusted platform device after.flash after.selected) device lives) ∧
      ((∀ life ∈ lives, ∀ event ∈ life.events, event.Marks) →
        StepsMeet (live updater layout) (fun current life => life.Resets updater layout current) device lives) := by
  refine ⟨?_, fun resets => ?_, fun marked => ?_⟩
  · refine stepsMeet_of_invariant (fun current => current.table = layout.table) ?_
      (fun current life table _ => live_table table life) table fun _ _ => trivial
    intro current life table _ after member
    exact table ▸ (devices_kept table after member).running
  · refine resets.strengthen (Ota.Secure platform device) ?_ ?_ (Ota.Secure.refl device)
    · exact fun current life secure resets after member => (devices_secure table secure resets after member).selected
    · exact fun current life secure resets => devices_secure table secure resets _ live_mem
  · exact stepsMeet_of_invariant (fun current => current.table = layout.table)
      (fun current life table marked => Life.resets_of_marked table marked)
      (fun current life table _ => live_table table life) table marked

/-- The slots of `partitions.csv` in order, but not the booted one. -/
def shortUpdater : Updater Ota.shortPlatform where
  next booted selected :=
    let slot := Ota.shortPlatform.nextPartition selected
    if slot = booted then Ota.shortPlatform.nextPartition slot else slot
  skips := by
    intro booted selected
    dsimp only
    split
    · next passed => exact passed ▸ Ota.shortPlatform_distinct _
    · assumption
  spares := by
    have spare : ∀ slot, Ota.shortPlatform.nextPartition slot ≠ Ota.shortPlatform.resetPartition := by
      intro slot
      simp only [Ota.shortPlatform]
      split <;> simp
    intro booted selected
    dsimp only
    split <;> exact spare _

/-- A life whose panic store starts. -/
def exampleLife (events : List Event) (noReset : ∀ event ∈ events, ¬ event.Boots) : Life :=
  ⟨true, .none, exampleFailure, events, noReset⟩

/-- A panic in an upload, an upload that is broken off by a reset, then a whole one
and the boot behind it. -/
def exampleLives : List Life :=
  [exampleLife [.spawn .none exampleFailure, .accept, .socketReceived .none (Ota.shortUpdate.take 50),
      .panic false ["panicked at ".toList, "firmware/src/main.rs:270:60".toList] .none] (by simp [Event.Boots]),
    exampleLife [.spawn .none exampleFailure, .accept, .socketReceived .none Ota.shortUpdate] (by simp [Event.Boots]),
    exampleLife [.spawn .none exampleFailure, .accept, .socketReceived .none Ota.shortUpdate,
      .socketSent .none 6, .socketReceived .none [0xe9, 1, 2, 3]] (by simp [Event.Boots]),
    exampleLife [.spawn .none exampleFailure] (by simp [Event.Boots])]

theorem selected_image_trusted_example :
    StepsMeet (live shortUpdater partitionsCsv) (fun current life =>
      ∀ after ∈ life.devices shortUpdater partitionsCsv current,
        Ota.Trusted Ota.shortPlatform Ota.runningFirstSlot after.flash after.selected)
      Ota.runningFirstSlot exampleLives ∧
      (run (live shortUpdater partitionsCsv) Ota.runningFirstSlot exampleLives).selected = .ota 1 := by
  obtain ⟨_, trusted, resets⟩ :=
    selected_image_trusted shortUpdater partitionsCsv Ota.runningFirstSlot rfl exampleLives
  exact ⟨trusted (resets (by simp [exampleLives, exampleLife, Event.Marks, Ota.Faults.none])), by decide +kernel⟩

end EnergyDisplay.Firmware

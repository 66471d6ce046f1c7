import EnergyDisplay.OtaConfinement
import EnergyDisplay.OtaSlotProofs

/-! What is selected can be trusted. An upload reaches the flash before its
digest is known, the socket cuts it anywhere and a reset may end it anywhere:
still the selected slot holds an image that was announced under the password and
received whole, or one that no upload has touched. -/
namespace EnergyDisplay.Ota

open Fallible

/-- A header of the device's password. -/
structure Signed (platform : Platform) (header : List UInt8) (imageSize : ℕ) : Prop where
  length : header.length = headerSize
  magic : header.take magic.length = Ota.magic
  size : imageSize = fromLeBytes ((header.drop 8).take 4)
  sized : imageSize ≠ 0
  aligned : 4 ∣ imageSize
  authentic : platform.hmac platform.password (header.take macOffset) = header.drop macOffset

/-- The partition starts with an image that was announced under the password. -/
structure Bears (platform : Platform) (flash : NorFlash) (entry : PartitionEntry) (header image : List UInt8) :
    Prop where
  signed : Signed platform header image.length
  first : image.head? = some 0xe9
  digest : platform.sha256 image = (header.drop digestOffset).take (macOffset - digestOffset)
  fits : image.length ≤ entry.len
  held : flash.Holds entry.offset image

/-- The two flashes agree in the slot. -/
def SlotKept (table : PartitionTable) (before after : NorFlash) (slot : AppPartitionSubType) : Prop :=
  ∀ entry, findApp table slot = some entry →
    ∀ address, entry.offset ≤ address → address < entry.offset + entry.len → after address = before address

/-- A slot to boot: as it was at the start, or with an announced image. -/
inductive Trusted (platform : Platform) (start : Device) (flash : NorFlash) (slot : AppPartitionSubType) : Prop where
  | initial (first : slot = start.selected ∨ slot = platform.resetPartition)
    (kept : SlotKept start.table start.flash flash slot) : Trusted platform start flash slot
  | uploaded (entry : PartitionEntry) (header image : List UInt8) (found : findApp start.table slot = some entry)
    (bears : Bears platform flash entry header image) : Trusted platform start flash slot

/-- The selected slot can be trusted, and the one that erased OTA data select. -/
structure Secure (platform : Platform) (start device : Device) : Prop where
  table : device.table = start.table
  selected : Trusted platform start device.flash device.selected
  spare : SlotKept start.table start.flash device.flash platform.resetPartition

/-- The two slots that no upload since the boot may touch: the one booted from, and
the one that erased OTA data select. -/
structure Spares (platform : Platform) (booted : AppPartitionSubType) : Prop where
  running : ∀ selected, platform.nextPartition selected ≠ booted
  reset : ∀ selected, platform.nextPartition selected ≠ platform.resetPartition

/-- The spared slots are as they were at the boot. -/
structure Kept (platform : Platform) (booted : AppPartitionSubType) (origin device : Device) : Prop where
  table : device.table = origin.table
  running : SlotKept origin.table origin.flash device.flash booted
  spare : SlotKept origin.table origin.flash device.flash platform.resetPartition

/-- The selection is the one of the boot, or of erased OTA data. -/
def Unmoved (platform : Platform) (booted : AppPartitionSubType) (device : Device) : Prop :=
  device.selected = booted ∨ device.selected = platform.resetPartition

/-- The selected slot holds an announced image. -/
def Replaced (platform : Platform) (origin device : Device) : Prop :=
  ∃ entry header image, findApp origin.table device.selected = some entry ∧
    Bears platform device.flash entry header image

variable {platform : Platform} {faults : Faults} {start origin device : Device} {table : PartitionTable}
  {before after : NorFlash} {slot booted : AppPartitionSubType} {entry : PartitionEntry}
  {header image : List UInt8} {imageSize written : ℕ} {target : Target} {chunks : List (List UInt8)}
  {watched marked : Prop}

/-! ## Slots -/

theorem SlotKept.refl : SlotKept table before before slot := fun _ _ _ _ _ => rfl

theorem SlotKept.trans {last : NorFlash} (first : SlotKept table before after slot)
    (second : SlotKept table after last slot) : SlotKept table before last slot := by
  intro entry found address from_ below
  rw [second entry found address from_ below, first entry found address from_ below]

/-- What changes one slot keeps the others. -/
theorem slotKept_elsewhere {other : AppPartitionSubType} (found : findApp table other = some entry)
    (different : slot ≠ other)
    (outside : ∀ address, address < entry.offset ∨ entry.offset + entry.len ≤ address →
      after address = before address) : SlotKept table before after slot := by
  intro region here address from_ below
  have apart := findApp_apart different here found
  exact outside address (by omega)

theorem Bears.keep (bears : Bears platform before entry header image)
    (same : ∀ address, entry.offset ≤ address → address < entry.offset + entry.len →
      after address = before address) : Bears platform after entry header image where
  signed := bears.signed
  first := bears.first
  digest := bears.digest
  fits := bears.fits
  held := by
    intro index byte inside
    have fits := bears.fits
    obtain ⟨bound, _⟩ := List.getElem?_eq_some_iff.mp inside
    rw [same _ (by omega) (by omega)]
    exact bears.held index byte inside

theorem Trusted.keep (trusted : Trusted platform start before slot) (kept : SlotKept start.table before after slot) :
    Trusted platform start after slot := by
  cases trusted with
  | initial first same => exact .initial first (same.trans kept)
  | uploaded entry header image found bears =>
    exact .uploaded entry header image found (bears.keep (kept entry found))

theorem Secure.refl (start : Device) : Secure platform start start :=
  ⟨rfl, .initial (Or.inl rfl) SlotKept.refl, SlotKept.refl⟩

theorem Kept.refl (device : Device) : Kept platform booted device device :=
  ⟨rfl, SlotKept.refl, SlotKept.refl⟩

/-- Flash that changes in the next slot only. -/
theorem Kept.change (spares : Spares platform booted) (kept : Kept platform booted origin device)
    (found : findApp origin.table (platform.nextPartition slot) = some entry)
    (outside : ∀ address, address < entry.offset ∨ entry.offset + entry.len ≤ address →
      after address = device.flash address) (operations : List FlashOp) :
    Kept platform booted origin { device with flash := after, operations := operations } where
  table := kept.table
  running := kept.running.trans (slotKept_elsewhere found (spares.running _).symm outside)
  spare := kept.spare.trans (slotKept_elsewhere found (spares.reset _).symm outside)

/-- What leaves every slot alone. -/
theorem Kept.keep {next : Device} (kept : Kept platform booted origin device) (table : next.table = device.table)
    (same : ∀ slot, SlotKept device.table device.flash next.flash slot) : Kept platform booted origin next where
  table := table.trans kept.table
  running := kept.running.trans (kept.table ▸ same _)
  spare := kept.spare.trans (kept.table ▸ same _)

theorem Replaced.keep {next : Device} (replaced : Replaced platform origin device)
    (selected : next.selected = device.selected)
    (same : ∀ slot, SlotKept origin.table device.flash next.flash slot) : Replaced platform origin next := by
  obtain ⟨entry, header, image, found, bears⟩ := replaced
  exact ⟨entry, header, image, selected ▸ found, bears.keep (same _ entry found)⟩

/-! ## A device between boots -/

/-- The device may take an image. If it is watched, the selection is the boot's. -/
structure Ready (platform : Platform) (booted : AppPartitionSubType) (watched : Prop) (origin device : Device) :
    Prop extends Kept platform booted origin device where
  unmoved : watched → Unmoved platform booted device

/-- Behind an activation, or without one. -/
structure Settled (platform : Platform) (booted : AppPartitionSubType) (watched : Prop) (origin device : Device) :
    Prop extends Kept platform booted origin device where
  selected : watched → Unmoved platform booted device ∨ Replaced platform origin device

/-- Behind an upload that failed. If images are marked, the selection is the boot's. -/
structure Stopped (platform : Platform) (booted : AppPartitionSubType) (watched marked : Prop)
    (origin device : Device) : Prop extends Settled platform booted watched origin device where
  unmoved : watched → marked → Unmoved platform booted device

theorem Ready.settled (ready : Ready platform booted watched origin device) :
    Settled platform booted watched origin device :=
  ⟨ready.toKept, fun watches => Or.inl (ready.unmoved watches)⟩

theorem Ready.stopped (ready : Ready platform booted watched origin device) :
    Stopped platform booted watched marked origin device :=
  ⟨ready.settled, fun watches _ => ready.unmoved watches⟩

theorem Ready.keep {next : Device} (ready : Ready platform booted watched origin device)
    (table : next.table = device.table) (selected : next.selected = device.selected)
    (same : ∀ slot, SlotKept device.table device.flash next.flash slot) :
    Ready platform booted watched origin next where
  toKept := ready.toKept.keep table same
  unmoved := fun watches => by
    rw [Unmoved, selected]
    exact ready.unmoved watches

theorem Settled.keep {next : Device} (settled : Settled platform booted watched origin device)
    (table : next.table = device.table) (selected : next.selected = device.selected)
    (same : ∀ slot, SlotKept device.table device.flash next.flash slot) :
    Settled platform booted watched origin next where
  toKept := settled.toKept.keep table same
  selected := fun watches => by
    rw [Unmoved, selected]
    exact (settled.selected watches).imp_right fun replaced =>
      replaced.keep selected (settled.table ▸ same)

theorem Stopped.keep {next : Device} (stopped : Stopped platform booted watched marked origin device)
    (table : next.table = device.table) (selected : next.selected = device.selected)
    (same : ∀ slot, SlotKept device.table device.flash next.flash slot) :
    Stopped platform booted watched marked origin next where
  toSettled := stopped.toSettled.keep table selected same
  unmoved := fun watches marks => by
    rw [Unmoved, selected]
    exact stopped.unmoved watches marks

/-- A settled device can be trusted as far as the one that was booted. -/
theorem Settled.secure (settled : Settled platform origin.selected watched origin device) (watches : watched)
    (secure : Secure platform start origin) : Secure platform start device where
  table := settled.table.trans secure.table
  selected := by
    rcases settled.selected watches with (booted | reset) | ⟨entry, header, image, found, bears⟩
    · rw [booted]
      exact secure.selected.keep (secure.table ▸ settled.running)
    · rw [reset]
      exact .initial (Or.inr rfl) (secure.spare.trans (secure.table ▸ settled.spare))
    · exact .uploaded entry header image (secure.table ▸ found) bears
  spare := secure.spare.trans (secure.table ▸ settled.spare)

/-! ## An image on its way -/

/-- The chunks taken so far are in the next slot, erased behind them. -/
structure Transfer (platform : Platform) (device : Device) (header : List UInt8) (imageSize : ℕ)
    (target : Target) (chunks : List (List UInt8)) (entry : PartitionEntry) : Prop where
  signed : Signed platform header imageSize
  found : findApp device.table target.subtype = some entry
  next : target.subtype = platform.nextPartition device.selected
  offset : entry.offset = target.offset
  size : entry.len = target.size
  fits : imageSize ≤ entry.len
  held : device.flash.Holds entry.offset chunks.flatten
  erased : device.flash.Erased (entry.offset + chunks.flatten.length) (entry.offset + eraseEnd imageSize)
  first : ∀ byte, chunks.flatten.head? = some byte → byte = 0xe9

/-- An upload goes on where the slot is as it left it. -/
theorem Transfer.keep {next : Device} (transfer : Transfer platform device header imageSize target chunks entry)
    (inside : chunks.flatten.length ≤ imageSize) (table : next.table = device.table)
    (selected : next.selected = device.selected)
    (same : SlotKept device.table device.flash next.flash target.subtype) :
    Transfer platform next header imageSize target chunks entry where
  signed := transfer.signed
  found := table ▸ transfer.found
  next := selected ▸ transfer.next
  offset := transfer.offset
  size := transfer.size
  fits := transfer.fits
  held := by
    intro index byte here
    have fits := transfer.fits
    obtain ⟨bound, _⟩ := List.getElem?_eq_some_iff.mp here
    rw [same entry transfer.found _ (by omega) (by omega)]
    exact transfer.held index byte here
  erased := by
    intro address from_ below
    have fits := eraseEnd_le transfer.fits
    rw [same entry transfer.found _ (by omega) (by omega)]
    exact transfer.erased address from_ below
  first := transfer.first

/-- A whole image with the announced digest. -/
theorem Transfer.bears (transfer : Transfer platform device header imageSize target chunks entry)
    (whole : chunks.flatten.length = imageSize)
    (digest : platform.hasherFinalize (chunks.foldl platform.hasherUpdate platform.hasherNew) =
      (header.drop digestOffset).take (macOffset - digestOffset)) :
    Bears platform device.flash entry header chunks.flatten where
  signed := whole ▸ transfer.signed
  first := by
    have some_ : chunks.flatten ≠ [] :=
      List.ne_nil_of_length_pos (whole ▸ Nat.pos_of_ne_zero transfer.signed.sized)
    rw [List.head?_eq_some_head some_, transfer.first _ (List.head?_eq_some_head some_)]
  digest := by rw [← digest, platform.hasher_contract]
  fits := whole ▸ transfer.fits
  held := transfer.held

/-- The activation selects the slot of a whole image, or changes nothing. -/
theorem Ready.activate {next : Device} (ready : Ready platform booted watched origin device)
    (found : findApp origin.table (platform.nextPartition device.selected) = some entry)
    (bears : Bears platform device.flash entry header image)
    (activating : Activating platform faults device next) : Settled platform booted watched origin next where
  toKept := ready.toKept.keep activating.table fun _ => activating.flash ▸ SlotKept.refl
  selected := by
    intro watches
    rw [Unmoved, Replaced, activating.flash, activating.selected]
    split
    · exact Or.inl (ready.unmoved watches)
    · exact Or.inr ⟨entry, header, image, found, bears⟩

/-! ## The parts of an upload -/

section Parts

variable {state : Upload} (spares : Spares platform booted)
include spares

theorem Ready.change (ready : Ready platform booted watched origin device)
    (found : findApp origin.table (platform.nextPartition slot) = some entry)
    (outside : ∀ address, address < entry.offset ∨ entry.offset + entry.len ≤ address →
      after address = device.flash address) (operations : List FlashOp) :
    Ready platform booted watched origin { device with flash := after, operations := operations } :=
  ⟨ready.toKept.change spares found outside operations, ready.unmoved⟩

theorem prepareTarget_ready (signed : Signed platform header imageSize)
    (ready : Ready platform booted watched origin state.device) :
    Ends (prepareTarget platform faults imageSize) state
      (fun target after => Ready platform booted watched origin after.device ∧
        ∃ entry, Transfer platform after.device header imageSize target [] entry)
      (fun _ after => Ready platform booted watched origin after.device) := by
  have keeps : Maintains (fun upload => Ready platform booted watched origin upload.device)
      (prepareTarget platform faults imageSize) fun _ => True := by
    apply maintains_prepareTarget (Ready platform booted watched origin)
    · rintro device _ operations (rfl | rfl) ready
      · exact ⟨⟨ready.table, ready.running, ready.spare⟩, ready.unmoved⟩
      · exact ⟨⟨ready.table, ready.running, ready.spare⟩, fun _ => Or.inr rfl⟩
    · intro device region length operations found fits ready
      refine ready.change spares (ready.table ▸ found) (fun address outside => ?_) operations
      exact NorFlash.erase_outside (by omega)
  refine ((keeps state ready).and (ends_prepareTarget imageSize)).mono ?_ fun _ _ both => both.1
  rintro _ after ⟨⟨ready, _⟩, _, partition, found, rfl, _, writing, erased⟩
  refine ⟨ready, partition, signed, ?_, ?_, rfl, rfl, writing.fits, NorFlash.holds_nil, ?_, by simp⟩
  · rw [writing.table, prepared_table]
    exact found
  · rw [writing.selected]
    rfl
  · simpa using erased

theorem checkHeader_ready (length : state.header.length = headerSize)
    (ready : Ready platform booted watched origin state.device) :
    Ends (checkHeader platform faults) state
      (fun found after => Ready platform booted watched origin after.device ∧
        ∃ entry, Transfer platform after.device found.1 found.2.1 found.2.2 [] entry)
      (fun _ after => Ready platform booted watched origin after.device) := by
  rw [checkHeader, ends_bind, ends_get, ends_ite]
  refine ⟨fun _ => ready, fun named => ?_⟩
  dsimp only
  rw [ends_ite]
  refine ⟨fun _ => ready, fun sized => ?_⟩
  rw [ends_ite]
  refine ⟨fun _ => ready, fun authentic => ?_⟩
  rw [not_or, not_not] at sized
  have signed : Signed platform state.header (fromLeBytes ((state.header.drop 8).take 4)) :=
    ⟨length, not_not.mp named, rfl, sized.1, sized.2, not_not.mp authentic⟩
  rw [ends_bind]
  exact (prepareTarget_ready spares signed ready).mono (fun _ _ both => both) fun _ _ ready => ready

theorem takeChunk_ready (ready : Ready platform booted watched origin state.device)
    (transfer : Transfer platform state.device header imageSize target chunks entry)
    (more : chunks.flatten.length < imageSize)
    (read : chunkLen imageSize chunks.flatten.length ≤ state.buffer.length) (hasher : platform.Hasher) :
    Ends (takeChunk platform faults target imageSize chunks.flatten.length hasher) state
      (fun hasher' after => Ready platform booted watched origin after.device ∧ ∃ chunk,
        chunk.length = chunkLen imageSize chunks.flatten.length ∧ hasher' = platform.hasherUpdate hasher chunk ∧
        Transfer platform after.device header imageSize target (chunks ++ [chunk]) entry)
      (fun _ after => Ready platform booted watched origin after.device) := by
  have inside := chunkLen_le imageSize _ more
  have found : findApp origin.table (platform.nextPartition state.device.selected) = some entry := by
    rw [← ready.table, ← transfer.next]
    exact transfer.found
  rw [takeChunk, ends_bind, ends_get, ends_ite]
  refine ⟨fun _ => ready, fun image => ?_⟩
  dsimp only
  set chunk := state.buffer.take (chunkLen imageSize chunks.flatten.length) with taken
  have length : chunk.length = chunkLen imageSize chunks.flatten.length := by
    rw [taken, List.length_take_of_le read]
  have fits := transfer.fits
  have offset := transfer.offset
  have in_flash := entry.in_flash
  have keeps : Maintains (fun upload => Ready platform booted watched origin upload.device ∧
        findApp origin.table (platform.nextPartition upload.device.selected) = some entry)
      (writeChunk faults chunks.flatten.length (target.offset + chunks.flatten.length) chunk) fun _ => True := by
    apply maintains_writeChunk fun device => Ready platform booted watched origin device ∧
      findApp origin.table (platform.nextPartition device.selected) = some entry
    rintro device done operations ⟨ready, found⟩
    refine ⟨ready.change spares found (fun address outside => ?_) operations, found⟩
    have part := List.length_take_le' done chunk
    exact NorFlash.program_outside (by omega)
  rw [ends_bind, ends_inU32 (by omega), ends_bind]
  refine ((keeps state ⟨ready, found⟩).and ends_writeChunk).mono ?_ fun _ _ both => both.1.1
  rintro _ after ⟨⟨⟨ready, _⟩, _⟩, _, rfl⟩
  rw [ends_bind, ends_inU32 (by omega)]
  refine ⟨ready, chunk, length, rfl, transfer.signed, transfer.found, transfer.next, offset, transfer.size, fits,
    ?_, ?_, ?_⟩
  · have room := le_eraseEnd imageSize
    rw [← offset, List.flatten_append, List.flatten_singleton]
    exact transfer.held.program transfer.erased (by omega)
  · rw [← offset, List.flatten_append, List.flatten_singleton, List.length_append, ← Nat.add_assoc]
    exact transfer.erased.program
  · intro byte here
    rw [List.flatten_append, List.flatten_singleton, List.head?_append] at here
    cases first : chunks.flatten.head? with
    | some byte' => exact transfer.first byte (by simpa [first] using here)
    | none =>
      have start_ : chunks.flatten.length = 0 := by rw [List.head?_eq_none_iff.mp first, List.length_nil]
      have some_ : chunkLen imageSize chunks.flatten.length ≠ 0 := by
        rw [chunkLen, flashChunkSize]
        omega
      have head : chunk.head? = state.buffer.head? := by rw [taken, List.head?_take, if_neg some_]
      rw [first, Option.none_or, head] at here
      by_contra other
      exact image ⟨start_, fun magic => other (by simpa [here] using magic)⟩

end Parts

/-- An error behind the activation is that of the marking. -/
theorem Ready.stopped_activating {next : Device} (ready : Ready platform booted watched origin device)
    (settled : Settled platform booted watched origin next) (activating : Activating platform faults device next)
    (marks : marked → faults.fails .setCurrentOtaState = none)
    (failing : faults.fails .activateNextPartition ≠ none ∨
      Activates faults ∧ faults.fails .setCurrentOtaState ≠ none) :
    Stopped platform booted watched marked origin next where
  toSettled := settled
  unmoved := by
    intro watches marked
    rcases failing with refused | ⟨_, unmarked⟩
    · rw [Unmoved, activating.selected, if_pos (Option.isSome_iff_ne_none.mpr refused)]
      exact ready.unmoved watches
    · exact absurd (marks marked) unmarked

theorem finishImage_settled {state : Upload} (ready : Ready platform booted watched origin state.device)
    (transfer : Transfer platform state.device header imageSize target chunks entry)
    (whole : chunks.flatten.length = imageSize) (marks : marked → faults.fails .setCurrentOtaState = none) :
    Ends (finishImage platform faults header target (chunks.foldl platform.hasherUpdate platform.hasherNew)) state
      (fun _ after => Settled platform booted watched origin after.device)
      (fun _ after => Stopped platform booted watched marked origin after.device) := by
  rw [finishImage, ends_ite]
  refine ⟨fun _ => ready.stopped, fun digest => ?_⟩
  have bears := transfer.bears whole (not_not.mp digest)
  have found : findApp origin.table (platform.nextPartition state.device.selected) = some entry := by
    rw [← ready.table, ← transfer.next]
    exact transfer.found
  refine (ends_validateAndActivate transfer.found transfer.offset transfer.size transfer.next.symm).mono ?_ ?_
  · rintro _ after ⟨_, _, _, activating⟩
    exact ready.activate found bears activating
  · rintro _ after ⟨_, _, ⟨rfl, _⟩ | ⟨activating, failing⟩⟩
    · exact ready.stopped
    · exact ready.stopped_activating (ready.activate found bears activating) activating marks failing

/-! ## From wait to wait -/

/-- Where an upload waits, its image is on its way to the next slot, or the device
is settled. -/
def Receiver.Faithful (booted : AppPartitionSubType) (watched marked : Prop) (origin : Device)
    (receiver : Receiver platform) : Prop :=
  let device := receiver.upload.device
  match receiver.phase with
  | .header got =>
    Ready platform booted watched origin device ∧ got.length < headerSize ∧
      receiver.upload.header.length = headerSize
  | .announcing _ header imageSize target =>
    Ready platform booted watched origin device ∧
      ∃ entry, Transfer platform device header imageSize target [] entry
  | .image header imageSize target written hasher _ =>
    Ready platform booted watched origin device ∧ written < imageSize ∧
      ∃ chunks entry, Transfer platform device header imageSize target chunks entry ∧
        chunks.flatten.length = written ∧ hasher = chunks.foldl platform.hasherUpdate platform.hasherNew
  | .answering _ (.ok ()) | .ended (.ok ()) => Settled platform booted watched origin device
  | .answering _ (.error _) | .ended (.error _) => Stopped platform booted watched marked origin device

/-- An upload goes on where the slots are as it left them. -/
theorem Receiver.Faithful.keep {upload : Upload} {next : Device} {phase : Phase platform}
    (faithful : Receiver.Faithful booted watched marked origin ⟨upload, phase⟩)
    (table : next.table = upload.device.table)
    (selected : next.selected = upload.device.selected)
    (same : ∀ slot, SlotKept upload.device.table upload.device.flash next.flash slot) :
    Receiver.Faithful booted watched marked origin ⟨{ upload with device := next }, phase⟩ := by
  cases phase with
  | header got =>
    obtain ⟨ready, short, length⟩ := faithful
    exact ⟨ready.keep table selected same, short, length⟩
  | announcing pending header imageSize target =>
    obtain ⟨ready, entry, transfer⟩ := faithful
    exact ⟨ready.keep table selected same, entry, transfer.keep (Nat.zero_le _) table selected (same _)⟩
  | image header imageSize target written hasher got =>
    obtain ⟨ready, more, chunks, entry, transfer, whole, folded⟩ := faithful
    refine ⟨ready.keep table selected same, more, chunks, entry, ?_, whole, folded⟩
    exact transfer.keep (by omega) table selected (same _)
  | answering pending result =>
    cases result with
    | ok installed => exact Settled.keep faithful table selected same
    | error abort => exact Stopped.keep faithful table selected same
  | ended result =>
    cases result with
    | ok installed => exact Settled.keep faithful table selected same
    | error abort => exact Stopped.keep faithful table selected same

/-- Whatever the phase, the device is settled. -/
theorem Receiver.Faithful.settled {receiver : Receiver platform}
    (faithful : receiver.Faithful booted watched marked origin) :
    Settled platform booted watched origin receiver.upload.device := by
  obtain ⟨upload, phase⟩ := receiver
  cases phase with
  | header got => exact faithful.1.settled
  | announcing pending header imageSize target => exact faithful.1.settled
  | image header imageSize target written hasher got => exact faithful.1.settled
  | answering pending result =>
    cases result with
    | ok installed => exact faithful
    | error abort => exact faithful.toSettled
  | ended result =>
    cases result with
    | ok installed => exact faithful
    | error abort => exact faithful.toSettled

/-- Behind an error the upload has stopped. -/
theorem Receiver.Faithful.ended {receiver : Receiver platform} {abort : Abort}
    (faithful : receiver.Faithful booted watched marked origin) (phase : receiver.phase = .ended (.error abort)) :
    Stopped platform booted watched marked origin receiver.upload.device := by
  obtain ⟨upload, _⟩ := receiver
  cases phase
  exact faithful

section Receivers

variable {upload : Upload} {receiver : Receiver platform}

/-- The device goes on with the image, or finishes it. -/
theorem chunks_faithful (ready : Ready platform booted watched origin upload.device)
    (transfer : Transfer platform upload.device header imageSize target chunks entry)
    (within : chunks.flatten.length ≤ imageSize) (marks : marked → faults.fails .setCurrentOtaState = none) :
    (Receiver.chunks faults header imageSize target chunks.flatten.length
      (chunks.foldl platform.hasherUpdate platform.hasherNew) upload).Faithful booted watched marked origin := by
  unfold Receiver.chunks
  split
  · next more => exact ⟨ready, more, chunks, entry, transfer, rfl, rfl⟩
  · next whole =>
    refine settle_ends (Receiver.Faithful booted watched marked origin)
      (finishImage_settled ready transfer (by omega) marks) ?_ ?_
    · exact fun _ _ settled => settled
    · exact fun _ _ stopped => stopped

theorem Receiver.Faithful.sent (faithful : receiver.Faithful booted watched marked origin)
    (marks : marked → faults.fails .setCurrentOtaState = none) (count : ℕ) :
    (receiver.sent faults count).Faithful booted watched marked origin := by
  obtain ⟨upload, phase⟩ := receiver
  cases phase with
  | announcing pending header imageSize target =>
    obtain ⟨ready, entry, transfer⟩ := faithful
    dsimp only [Receiver.sent]
    split
    · have flushes : Maintains (fun after => after = upload) (flushReady faults) fun _ => True :=
        maintains_ite (fun _ => maintains_throw _) fun _ => maintains_pure trivial
      refine settle_ends (Receiver.Faithful booted watched marked origin) (flushes upload rfl) ?_ ?_
      · rintro _ _ ⟨rfl, _⟩
        exact chunks_faithful ready transfer (Nat.zero_le _) marks
      · rintro _ _ rfl
        exact ready.stopped
    · exact ⟨ready, entry, transfer⟩
  | answering pending result =>
    dsimp only [Receiver.sent]
    split <;> cases result <;> exact faithful
  | header got => exact faithful
  | image header imageSize target written hasher got => exact faithful
  | ended result => exact faithful

/-- Spec lemma: the peer closed within a read. -/
theorem closedAfter_faithful {store : Upload → Upload} {next : Unit → Upload → Receiver platform}
    (same : (store upload).device = upload.device) (ready : Ready platform booted watched origin upload.device) :
    (Receiver.settle (closedAfter store) next upload).Faithful booted watched marked origin :=
  Ready.stopped (same ▸ ready)

theorem Receiver.Faithful.received (spares : Spares platform booted)
    (faithful : receiver.Faithful booted watched marked origin)
    (marks : marked → faults.fails .setCurrentOtaState = none) {fragment : List UInt8}
    (asked : ∀ limit, receiver.want = .receive limit → fragment.length ≤ limit) :
    (receiver.received faults fragment).Faithful booted watched marked origin := by
  obtain ⟨upload, phase⟩ := receiver
  cases phase with
  | header got =>
    obtain ⟨ready, short, length⟩ := faithful
    have asked := asked _ rfl
    dsimp only [Receiver.received]
    split
    · exact closedAfter_faithful rfl ready
    split
    · next part => exact ⟨ready, part, length⟩
    next full =>
    have whole : (got ++ fragment).length = headerSize := by
      rw [List.length_append] at full ⊢
      omega
    have stored : (storeHeader (got ++ fragment) upload).header.length = headerSize := by
      simp only [storeHeader, fill, List.length_append, List.length_drop, length] at whole ⊢
      omega
    have ends : Ends (do modify (storeHeader (got ++ fragment)); checkHeader platform faults) upload
        (fun found after => Ready platform booted watched origin after.device ∧
          ∃ entry, Transfer platform after.device found.1 found.2.1 found.2.2 [] entry)
        (fun _ after => Ready platform booted watched origin after.device) := by
      rw [ends_bind, ends_modify]
      exact checkHeader_ready spares stored ready
    refine settle_ends (Receiver.Faithful booted watched marked origin) ends ?_ fun _ _ ready => ready.stopped
    rintro ⟨header, imageSize, target⟩ after ⟨ready, transfer⟩
    exact ⟨ready, transfer⟩
  | image header imageSize target written hasher got =>
    obtain ⟨ready, more, chunks, entry, transfer, rfl, rfl⟩ := faithful
    dsimp only [Receiver.received]
    split
    · exact closedAfter_faithful rfl ready
    split
    · exact ⟨ready, more, chunks, entry, transfer, rfl, rfl⟩
    next full =>
    have stored : chunkLen imageSize chunks.flatten.length ≤ (storeChunk (got ++ fragment) upload).buffer.length := by
      simp only [storeChunk, fill, List.length_append] at full ⊢
      omega
    set hasher := chunks.foldl platform.hasherUpdate platform.hasherNew with folded
    have ends : Ends (do
          modify (storeChunk (got ++ fragment))
          takeChunk platform faults target imageSize chunks.flatten.length hasher) upload
        (fun hasher' after => Ready platform booted watched origin after.device ∧ ∃ chunk,
          chunk.length = chunkLen imageSize chunks.flatten.length ∧ hasher' = platform.hasherUpdate hasher chunk ∧
          Transfer platform after.device header imageSize target (chunks ++ [chunk]) entry)
        (fun _ after => Ready platform booted watched origin after.device) := by
      rw [ends_bind, ends_modify]
      have ready : Ready platform booted watched origin (storeChunk (got ++ fragment) upload).device := ready
      exact takeChunk_ready spares ready transfer more stored hasher
    refine settle_ends (Receiver.Faithful booted watched marked origin) ends ?_ fun _ _ ready => ready.stopped
    rintro _ after ⟨ready, chunk, length, rfl, transfer⟩
    have inside := chunkLen_le imageSize _ more
    have written : chunks.flatten.length + chunkLen imageSize chunks.flatten.length =
        (chunks ++ [chunk]).flatten.length := by simp [length]
    have hashed : platform.hasherUpdate hasher chunk =
        (chunks ++ [chunk]).foldl platform.hasherUpdate platform.hasherNew := by simp [folded]
    rw [written, hashed]
    exact chunks_faithful ready transfer (by omega) marks
  | announcing pending header imageSize goal => exact faithful
  | answering pending result => exact faithful
  | ended result => exact faithful

theorem Receiver.start_faithful (ready : Ready platform booted watched origin device) (flashBuffer : List UInt8) :
    (Receiver.start platform device flashBuffer).Faithful booted watched marked origin := by
  refine ⟨ready, ?_, ?_⟩
  · simp [headerSize]
  · simp [Receiver.start]

end Receivers

end EnergyDisplay.Ota

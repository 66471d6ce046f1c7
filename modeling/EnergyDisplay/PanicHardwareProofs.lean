import Mathlib.Data.List.Pairwise
import EnergyDisplay.OtaConfinement
import EnergyDisplay.TornRecordProofs

/-! The operations on the panic record: each is an erase of its sector, maybe
followed by one write, and leaves the flash free again. -/
namespace EnergyDisplay.PanicStore

open Ota (Device PartitionEntry sectorSize)

variable {layout : FlashLayout} {hardware : Hardware} {faults : StorageFaults} {flash : PanicFlash}
  {nor : NorFlash} {offset done : ℕ}

/-! ## The record in flash -/

/-- The message the next boot reads. -/
def pendingAt (nor : NorFlash) (offset : ℕ) : Option PanicMessage := decode (recordAt nor offset)

theorem ext_bytes {first second : AlignedRecord} (same : first.bytes = second.bytes) : first = second := by
  cases first
  cases second
  cases same
  rfl

theorem recordAt_bytes (nor : NorFlash) (offset : ℕ) : (recordAt nor offset).bytes = nor.read offset recordSize := by
  simp only [recordAt]

theorem recordSize_le_sectorSize : recordSize ≤ sectorSize := by decide

theorem pendingAt_congr {other : NorFlash}
    (same : ∀ address, offset ≤ address → address < offset + sectorSize → nor address = other address) :
    pendingAt nor offset = pendingAt other offset := by
  have bytes : nor.read offset recordSize = other.read offset recordSize :=
    NorFlash.read_congr fun address from_ below =>
      same address from_ (below.trans_le (Nat.add_le_add_left recordSize_le_sectorSize offset))
  simp only [pendingAt, recordAt, bytes]

/-- An erase, as far as it comes, leaves nothing or has not begun. -/
theorem pendingAt_erase : pendingAt (nor.erase offset done) offset =
    if done = 0 then pendingAt nor offset else none := by
  have bytes : (recordAt (nor.erase offset done) offset).bytes =
      List.replicate (min done recordSize) 0xff ++ (nor.read offset recordSize).drop done := by
    rw [recordAt_bytes, NorFlash.read_erase]
  split
  · next unbegun =>
    have same : nor.erase offset done = nor := by
      funext address
      exact NorFlash.erase_outside (by omega)
    rw [same]
  · next begun =>
    have some_ : 0 < recordSize := by decide
    exact decode_erasing (by omega) bytes

theorem recordAt_program (done : ℕ) (record : AlignedRecord) (erased : nor.Erased offset (offset + sectorSize)) :
    (recordAt (nor.program offset (record.bytes.take done)) offset).bytes = torn done record.bytes := by
  have room : nor.Erased offset (offset + recordSize) := fun address from_ below =>
    erased address from_ (below.trans_le (Nat.add_le_add_left recordSize_le_sectorSize offset))
  have fits : (record.bytes.take done).length ≤ recordSize :=
    (List.length_take_le' done _).trans record.size.le
  have left : recordSize - (record.bytes.take done).length = record.bytes.length - done := by
    rw [List.length_take, record.size]
    omega
  rw [recordAt_bytes, NorFlash.read_program room fits, left, torn]

/-- A write into the erased sector, as far as it comes, leaves nothing or the
whole message. -/
theorem pendingAt_program (done : ℕ) (message : PanicMessage) (erased : nor.Erased offset (offset + sectorSize)) :
    let after := nor.program offset ((encode message.items).bytes.take done)
    (pendingAt after offset = none ∨ pendingAt after offset = some message) ∧
      (recordSize ≤ done → pendingAt after offset = some message) := by
  have bytes := recordAt_program done (encode message.items) erased
  refine ⟨?_, fun whole => ?_⟩
  · have reads := decode_torn message.items bytes
    rwa [decode_encode_message] at reads
  · rw [torn_whole ((encode message.items).size.trans_le whole)] at bytes
    exact (congrArg decode (ext_bytes bytes)).trans (decode_encode_message message)

/-! ## The operations -/

/-- Where the record of this layout is, if it has a partition for it. -/
def FlashLayout.recordOffset (layout : FlashLayout) : Option ℕ :=
  layout.panicPartition.bind fun entry =>
    if entry.partition.offset % sectorSize ≠ 0 ∨ entry.partition.len < sectorSize ∨ entry.readOnly = true then none
    else some entry.partition.offset

/-- The message the next boot reports. -/
def pending (layout : FlashLayout) (device : Device) : Option PanicMessage :=
  layout.recordOffset.bind (pendingAt device.flash)

/-- A data partition is apart from every slot. -/
theorem data_apart {entry : TableEntry} (member : entry ∈ layout.entries) (data : entry.partition.app = none)
    {address : ℕ} (from_ : entry.partition.offset ≤ address)
    (below : address < entry.partition.offset + entry.partition.len) : ¬ Ota.AppFlash layout.table address := by
  rintro ⟨slot, listed, app, start, stop⟩
  have distinct : entry.partition ≠ slot := by
    rintro rfl
    rw [data] at app
    cases app
  have symmetric : Std.Symm fun first second : PartitionEntry =>
      first.offset + first.len ≤ second.offset ∨ second.offset + second.len ≤ first.offset :=
    ⟨fun _ _ => Or.symm⟩
  have apart := layout.disjoint.forall (List.mem_map_of_mem member) listed distinct
  omega

/-- The sector of the record is apart from every slot. -/
theorem recordOffset_apart (located : layout.recordOffset = some offset) {address : ℕ} (from_ : offset ≤ address)
    (below : address < offset + sectorSize) : ¬ Ota.AppFlash layout.table address := by
  obtain ⟨entry, found, valid⟩ := Option.bind_eq_some_iff.mp located
  split at valid
  · cases valid
  next fits =>
  cases valid
  simp only [not_or, not_lt] at fits
  have member := List.mem_of_find?_eq_some found
  have data := layout.data entry member (Or.inl (by simpa using List.find?_some found))
  exact data_apart member data (by omega) (by omega)

/-- What happens in the slots leaves the record alone. -/
theorem pending_confined {device after : Device} (table : device.table = layout.table)
    (confined : Ota.Confined device after) : pending layout after = pending layout device := by
  unfold pending
  cases located : layout.recordOffset with
  | none => rw [Option.bind_none, Option.bind_none]
  | some offset =>
    have same : ∀ address, offset ≤ address → address < offset + sectorSize →
        after.flash address = device.flash address := by
      intro address from_ below
      apply confined.flash
      rw [table]
      exact recordOffset_apart located from_ below
    rw [Option.bind_some, Option.bind_some, pendingAt_congr same]

theorem withFlash_busy {α : Type} {operation : PanicFlash → Access α} (busy : hardware.flashBusy = true) :
    withFlash operation hardware = (.error .busy, hardware) := by
  simp [withFlash, acquireFlash, bind, Fallible.get, Fallible.throw, busy]

theorem withFlash_unavailable {α : Type} {operation : PanicFlash → Access α} (idle : hardware.flashBusy = false)
    (absent : hardware.panicFlash = none) : withFlash operation hardware = (.error .unavailable, hardware) := by
  obtain ⟨device, panicFlash, flashBusy, panicking⟩ := hardware
  cases idle
  cases absent
  rfl

theorem withFlash_mounted {α : Type} {operation : PanicFlash → Access α} (idle : hardware.flashBusy = false)
    (mounted : hardware.panicFlash = some flash) :
    withFlash operation hardware = guarded (operation flash) { hardware with flashBusy := true } := by
  simp [withFlash, acquireFlash, guarded, bind, Fallible.get, Fallible.modify, idle, mounted]

/-- How far an erase of the sector comes. -/
def StorageFaults.erased (faults : StorageFaults) : ℕ := min (faults.erase.getD sectorSize) sectorSize

theorem clear_mounted (idle : hardware.flashBusy = false) (mounted : hardware.panicFlash = some flash) :
    clear faults hardware = (if faults.erase.isSome then .error .flash else .ok (),
      hardware.onFlash fun nor => nor.erase flash.offset faults.erased) := by
  rw [clear, withFlash_mounted idle mounted]
  cases erase : faults.erase <;>
    simp [guarded, eraseSector, failsIf, bind, Fallible.modify, Fallible.throw, pure, Hardware.onFlash,
      StorageFaults.erased, idle, erase]

theorem persist_mounted (rejected : Option ℕ) (info : List (List Char)) (idle : hardware.flashBusy = false)
    (mounted : hardware.panicFlash = some flash) :
    (persist rejected info faults hardware).2 =
      if faults.erase.isSome then hardware.onFlash fun nor => nor.erase flash.offset faults.erased
      else hardware.onFlash fun nor => (nor.erase flash.offset sectorSize).program flash.offset
        ((encode (panicMessage rejected info).items).bytes.take (faults.write.getD recordSize)) := by
  rw [persist, withFlash_mounted idle mounted]
  cases erase : faults.erase <;> cases write : faults.write <;>
    simp [guarded, eraseSector, writeRecord, failsIf, bind, Fallible.modify, Fallible.throw, pure,
      Hardware.onFlash, StorageFaults.erased, idle, erase, write]

/-- The address belongs to the sector of the record. -/
def RecordSector (layout : FlashLayout) (address : ℕ) : Prop :=
  ∃ offset, layout.recordOffset = some offset ∧ offset ≤ address ∧ address < offset + sectorSize

/-- Compared with `before`, only the sector of the record has changed. -/
structure InSector (layout : FlashLayout) (before after : Device) : Prop where
  table : after.table = before.table
  selected : after.selected = before.selected
  state : after.state = before.state
  flash : ∀ address, ¬ RecordSector layout address → after.flash address = before.flash address

theorem InSector.refl (device : Device) : InSector layout device device := ⟨rfl, rfl, rfl, fun _ _ => rfl⟩

theorem inSector_onFlash {change : NorFlash → NorFlash} (located : layout.recordOffset = some offset)
    (within : ∀ nor address, address < offset ∨ offset + sectorSize ≤ address → change nor address = nor address) :
    InSector layout hardware.device (hardware.onFlash change).device := by
  refine ⟨rfl, rfl, rfl, fun address outside => within _ _ ?_⟩
  by_contra inside
  exact outside ⟨offset, located, by omega, by omega⟩

theorem erased_le (faults : StorageFaults) : faults.erased ≤ sectorSize := min_le_right _ _

theorem pending_onFlash {change : NorFlash → NorFlash} (located : layout.recordOffset = some offset) :
    pending layout (hardware.onFlash change).device = pendingAt (change hardware.device.flash) offset := by
  rw [pending, located, Option.bind_some, Hardware.onFlash]

theorem pending_located (located : layout.recordOffset = some offset) :
    pending layout hardware.device = pendingAt hardware.device.flash offset := by
  rw [pending, located, Option.bind_some]

/-- Clearing the record: it is gone, or as it was where the erase fails at
once. -/
theorem clear_spec (faults : StorageFaults) (idle : hardware.flashBusy = false) (mounted : hardware.panicFlash = some flash)
    (located : layout.recordOffset = some flash.offset) :
    let after := (clear faults hardware).2
    after = { hardware with device := after.device } ∧ InSector layout hardware.device after.device ∧
      (pending layout after.device = none ∨ pending layout after.device = pending layout hardware.device) ∧
      (faults.erase = none → (clear faults hardware).1 = .ok () ∧ pending layout after.device = none) := by
  have some_ : sectorSize ≠ 0 := by decide
  rw [clear_mounted idle mounted]
  dsimp only
  rw [pending_onFlash located, pending_located located, pendingAt_erase]
  refine ⟨rfl, ?_, ?_, ?_⟩
  · apply inSector_onFlash located
    intro nor address outside
    have within := erased_le faults
    exact NorFlash.erase_outside (by omega)
  · split
    · exact Or.inr rfl
    · exact Or.inl rfl
  · intro whole
    simp [whole, StorageFaults.erased, some_]

/-- Persisting a panic: what the next boot reads is the message, nothing, or what
was there; it is the message where no call fails. -/
theorem persist_spec (rejected : Option ℕ) (info : List (List Char)) (faults : StorageFaults)
    (idle : hardware.flashBusy = false) (mounted : hardware.panicFlash = some flash)
    (located : layout.recordOffset = some flash.offset) :
    let after := (persist rejected info faults hardware).2
    InSector layout hardware.device after.device ∧
      (pending layout after.device = pending layout hardware.device ∨ pending layout after.device = none ∨
        pending layout after.device = some (panicMessage rejected info)) ∧
      (faults.erase = none → faults.write = none →
        pending layout after.device = some (panicMessage rejected info)) := by
  rw [persist_mounted rejected info idle mounted]
  dsimp only
  cases erase : faults.erase with
  | some done =>
    rw [if_pos Option.isSome_some, pending_onFlash located, pending_located located, pendingAt_erase]
    refine ⟨?_, ?_, fun impossible => nomatch impossible⟩
    · apply inSector_onFlash located
      intro nor address outside
      have within := erased_le faults
      exact NorFlash.erase_outside (by omega)
    · split
      · exact Or.inl rfl
      · exact Or.inr (Or.inl rfl)
  | none =>
    rw [if_neg (by simp), pending_onFlash located]
    have erased : (hardware.device.flash.erase flash.offset sectorSize).Erased flash.offset
        (flash.offset + sectorSize) := NorFlash.erased_erase
    have reads := pendingAt_program (faults.write.getD recordSize) (panicMessage rejected info) erased
    refine ⟨?_, Or.inr reads.1, fun _ whole => reads.2 (by rw [whole]; rfl)⟩
    apply inSector_onFlash located
    intro nor address outside
    have size := (encode (panicMessage rejected info).items).size
    have shorter := List.length_take_le' (faults.write.getD recordSize)
      (encode (panicMessage rejected info).items).bytes
    have sector := recordSize_le_sectorSize
    rw [NorFlash.program_outside (by omega), NorFlash.erase_outside (by omega)]

theorem persist_panicFlash (rejected : Option ℕ) (info : List (List Char)) (faults : StorageFaults)
    (idle : hardware.flashBusy = false) (mounted : hardware.panicFlash = some flash) :
    (persist rejected info faults hardware).2.panicFlash = some flash := by
  rw [persist_mounted rejected info idle mounted]
  split <;> exact mounted

/-- Starting the store changes nothing but where it finds its record; what it
reports is what is there. -/
theorem initializeStore_spec (layout : FlashLayout) (readable : Bool) (faults : StorageFaults)
    (idle : hardware.flashBusy = false) (reset : hardware.panicFlash = none) :
    ∃ found, (initializeStore layout readable faults hardware).2 = { hardware with panicFlash := found } ∧
      (∀ flash, found = some flash → layout.recordOffset = some flash.offset) ∧
      ∀ pending, (initializeStore layout readable faults hardware).1 = .ok pending →
        ∃ flash, found = some flash ∧ pending = pendingAt hardware.device.flash flash.offset := by
  have unmounted : { hardware with panicFlash := none } = hardware := by
    cases hardware
    cases reset
    rfl
  unfold initializeStore
  split
  · exact ⟨none, unmounted.symm, by simp, by simp [Fallible.throw]⟩
  cases located : layout.panicPartition with
  | none => exact ⟨none, unmounted.symm, by simp, by simp [Fallible.throw]⟩
  | some entry =>
    dsimp only
    split
    · exact ⟨none, unmounted.symm, by simp, by simp [Fallible.throw]⟩
    next valid =>
    refine ⟨some ⟨entry.partition.offset⟩, ?_, ?_, ?_⟩
    · cases read : faults.read <;>
        simp [orElse, install, acquireFlash, guarded, readPending, withFlash, readRecord, failsIf, bind,
          Fallible.get, Fallible.modify, Fallible.throw, pure, idle, reset, read]
    · rintro flash ⟨⟩
      simp only [FlashLayout.recordOffset, located, Option.bind_some, if_neg valid]
    · intro pending
      cases read : faults.read <;>
        simp [orElse, install, acquireFlash, guarded, readPending, withFlash, readRecord, failsIf, bind,
          Fallible.get, Fallible.modify, Fallible.throw, pure, idle, reset, read, pendingAt, eq_comm]

end EnergyDisplay.PanicStore

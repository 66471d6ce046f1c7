import EnergyDisplay.Allocator
import EnergyDisplay.Ota
import EnergyDisplay.PanicStore

/-! The flash of the panic record, `mod hardware` of `firmware/src/panic_store.rs`.
One flash storage serves this module and the uploads; `FLASH_BUSY` is held for
the length of a flash operation, none of which waits, so only a panic can find it
taken. The flash driver is outside: which of its calls fail is given with an
operation. -/
namespace EnergyDisplay.PanicStore

open Allocator (maxPostBootRustAllocationSize)
open Fallible (get modify throw)
open Ota (Device PartitionEntry PartitionTable sectorSize)

def partitionLabel : List Char := "panic".toList

/-- Where `OtaUpdater` keeps the selection and the state of the image. -/
def otadataLabel : List Char := "otadata".toList

/-- An entry of the partition table as this module looks at it. -/
structure TableEntry where
  label : List Char
  readOnly : Bool
  partition : PartitionEntry

/-- The partition table in flash. What the firmware keeps its panics in is no
place for images, and neither are the OTA data. -/
structure FlashLayout where
  entries : List TableEntry
  disjoint : (entries.map TableEntry.partition).Pairwise fun first second =>
    first.offset + first.len ≤ second.offset ∨ second.offset + second.len ≤ first.offset
  data : ∀ entry ∈ entries, entry.label = partitionLabel ∨ entry.label = otadataLabel → entry.partition.app = none

/-- The table as the uploads look at it. -/
def FlashLayout.table (layout : FlashLayout) : PartitionTable :=
  ⟨layout.entries.map TableEntry.partition, layout.disjoint⟩

/-- `label_as_str() == PARTITION_LABEL`. -/
def FlashLayout.panicPartition (layout : FlashLayout) : Option TableEntry :=
  layout.entries.find? fun entry => decide (entry.label = partitionLabel)

/-- `PanicFlash`: where in the storage the record is. -/
structure PanicFlash where
  offset : ℕ
  deriving DecidableEq

/-- The flash with the statics of the module. -/
structure Hardware where
  device : Device
  panicFlash : Option PanicFlash
  flashBusy : Bool
  panicking : Bool

/-- Which calls of the flash driver fail; an erase or a write does so after this
many bytes. That it tears from the front on is assumed of the driver. -/
structure StorageFaults where
  read : Bool
  erase : Option ℕ
  write : Option ℕ

def StorageFaults.none : StorageFaults := ⟨false, .none, .none⟩

inductive StorageError where
  | unavailable
  | busy
  | flash
  deriving DecidableEq

inductive InitializeError where
  | partitionTable
  | missingPartition
  | invalidPartition
  | flash
  | alreadyInitialized
  deriving DecidableEq

abbrev Access (α : Type) := Fallible Hardware StorageError α

/-! ## The flash driver -/

def Hardware.onFlash (change : NorFlash → NorFlash) (hardware : Hardware) : Hardware :=
  { hardware with device := { hardware.device with flash := change hardware.device.flash } }

/-- The record as `read_nor` finds it. -/
def recordAt (flash : NorFlash) (offset : ℕ) : AlignedRecord :=
  ⟨flash.read offset recordSize, NorFlash.length_read⟩

def failsIf (fault : Bool) : Access Unit := if fault then throw .flash else pure ()

/-- `erase(offset, offset + SECTOR_SIZE)`. -/
def eraseSector (faults : StorageFaults) (offset : ℕ) : Access Unit := do
  modify (Hardware.onFlash fun flash => flash.erase offset (min (faults.erase.getD sectorSize) sectorSize))
  failsIf faults.erase.isSome

def writeRecord (faults : StorageFaults) (offset : ℕ) (record : AlignedRecord) : Access Unit := do
  modify (Hardware.onFlash fun flash =>
    flash.program offset (record.bytes.take (faults.write.getD recordSize)))
  failsIf faults.write.isSome

def readRecord (faults : StorageFaults) (offset : ℕ) : Access AlignedRecord := do
  failsIf faults.read
  let hardware ← get
  pure (recordAt hardware.device.flash offset)

/-! ## Access -/

/-- `FlashGuard` is dropped however the operation ends. -/
def guarded {α : Type} (operation : Access α) : Access α := fun hardware =>
  let (outcome, after) := operation hardware
  (outcome, { after with flashBusy := false })

def acquireFlash : Access Unit := do
  let hardware ← get
  if hardware.flashBusy then throw .busy
  else modify fun hardware => { hardware with flashBusy := true }

def withFlash {α : Type} (operation : PanicFlash → Access α) : Access α := do
  acquireFlash
  guarded do
    let hardware ← get
    match hardware.panicFlash with
    | none => throw .unavailable
    | some flash => operation flash

/-- What `with_storage` checks before an upload's operation. -/
def Hardware.withStorage (hardware : Hardware) : Option Ota.FlashAccessError :=
  if hardware.flashBusy then some .busy
  else if hardware.panicFlash.isNone then some .unavailable
  else none

/-- `AlreadyInitialized` stands for a flash that is busy, too. -/
def install (flash : PanicFlash) : Access Unit := do
  acquireFlash
  guarded do
    let hardware ← get
    if hardware.panicFlash.isSome then throw .busy
    else modify fun hardware => { hardware with panicFlash := some flash }

def readPending (faults : StorageFaults) : Access (Option PanicMessage) :=
  withFlash fun flash => do
    let record ← readRecord faults flash.offset
    pure (decode record)

def clear (faults : StorageFaults) : Access Unit := withFlash fun flash => eraseSector faults flash.offset

/-- Go on after an operation, its error put into another form. -/
def orElse {α β : Type} (operation : Access α) (form : StorageError → InitializeError)
    (next : α → Fallible Hardware InitializeError β) : Fallible Hardware InitializeError β := fun hardware =>
  match operation hardware with
  | (.ok value, after) => next value after
  | (.error error, after) => (.error (form error), after)

/-- `initialize`. `read_partition_table` shows the layout unless it fails. -/
def initializeStore (layout : FlashLayout) (readable : Bool) (faults : StorageFaults) :
    Fallible Hardware InitializeError (Option PanicMessage) :=
  if !readable then throw .partitionTable
  else
    match layout.panicPartition with
    | none => throw .missingPartition
    | some entry =>
      if entry.partition.offset % sectorSize ≠ 0 ∨ entry.partition.len < sectorSize ∨ entry.readOnly = true then
        throw .invalidPartition
      else
        orElse (install ⟨entry.partition.offset⟩) (fun _ => .alreadyInitialized) fun _ =>
          orElse (readPending faults)
            (fun error => if error = .flash then .flash else .alreadyInitialized) pure

/-! ## The panic handler -/

/-- The pieces the message is formatted in; `info` are those of the panic. -/
def messagePieces (rejected : Option ℕ) (info : List (List Char)) : List (List Char) :=
  match rejected with
  | some size =>
    "post-boot Rust allocation of ".toList :: Nat.toDigits 10 size :: " bytes exceeded the ".toList ::
      Nat.toDigits 10 maxPostBootRustAllocationSize :: "-byte limit: ".toList :: info
  | none => info

/-- `write!`, whose refusals are ignored. -/
def panicMessage (rejected : Option ℕ) (info : List (List Char)) : PanicMessage :=
  (HeaplessString.writePieces .empty (messagePieces rejected info)).1

def persist (rejected : Option ℕ) (info : List (List Char)) (faults : StorageFaults) : Access Unit :=
  let record := encode (panicMessage rejected info).items
  withFlash fun flash => do
    eraseSector faults flash.offset
    writeRecord faults flash.offset record

/-- What the handler leaves when it resets. A panic within it resets at once. -/
def panicHandler (rejected : Option ℕ) (info : List (List Char)) (faults : StorageFaults) (hardware : Hardware) :
    Hardware :=
  if hardware.panicking then hardware
  else (persist rejected info faults { hardware with panicking := true }).2

/-! ## The layout of this device -/

/-- `partitions.csv`. -/
def partitionsCsv : FlashLayout where
  entries := List.zipWith (fun label partition => ⟨String.toList label, false, partition⟩)
    ["nvs", "otadata", "phy_init", "factory", "ota_0", "ota_1", "panic"] Ota.partitions.entries
  disjoint := Ota.partitions.disjoint
  data := by decide

end EnergyDisplay.PanicStore

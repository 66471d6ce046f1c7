import EnergyDisplay.Lib.Fallible
import EnergyDisplay.Lib.NorFlash
import Mathlib.Algebra.GroupWithZero.Nat

/-! The firmware upload of `firmware/src/tasks/ota.rs`. The socket, the flash
driver, the partition library and the two hashes are outside: what the socket
delivers and which operations fail is given with an upload, the rest is taken
as documented. -/
namespace EnergyDisplay.Ota

/-- `EDOTA001`. -/
def magic : List UInt8 := [0x45, 0x44, 0x4f, 0x54, 0x41, 0x30, 0x30, 0x31]

def headerSize : ℕ := 8 + 4 + 32 + 32

def digestOffset : ℕ := 12

def macOffset : ℕ := 44

def flashChunkSize : ℕ := 2048

/-- `FlashStorage::SECTOR_SIZE`. -/
def sectorSize : ℕ := 4096

def u32Limit : ℕ := 2 ^ 32

inductive UpdateError where
  | network
  | transferNetwork (written : ℕ)
  | closed
  | invalidHeader
  | authentication
  | invalidSize
  | invalidImage
  | digestMismatch
  | flashBusy
  | flashUnavailable
  | flash
  | partition
  deriving DecidableEq

/-- An upload is rejected, or the arithmetic on its sizes and offsets leaves
`u32`. -/
inductive Abort where
  | rejected (error : UpdateError)
  | overflow
  deriving DecidableEq

/-! ## The device -/

instance appSlots_ne_zero : NeZero 16 := ⟨by decide⟩

inductive AppPartitionSubType where
  | factory
  | ota (index : Fin 16)
  deriving DecidableEq

/-- An entry of the partition table; `app` is `none` for a data partition.
Partitions are sector-aligned and lie within the flash. -/
structure PartitionEntry where
  app : Option AppPartitionSubType
  offset : ℕ
  len : ℕ
  offset_aligned : sectorSize ∣ offset
  len_aligned : sectorSize ∣ len
  in_flash : offset + len < u32Limit
  deriving DecidableEq

structure PartitionTable where
  entries : List PartitionEntry
  disjoint : entries.Pairwise fun first second =>
    first.offset + first.len ≤ second.offset ∨ second.offset + second.len ≤ first.offset

/-- `partitions.csv`. -/
def partitions : PartitionTable where
  entries :=
    [⟨none, 0x9000, 0x3000, by decide, by decide, by decide⟩,
      ⟨none, 0xc000, 0x2000, by decide, by decide, by decide⟩,
      ⟨none, 0xf000, 0x1000, by decide, by decide, by decide⟩,
      ⟨some .factory, 0x10000, 0x4f0000, by decide, by decide, by decide⟩,
      ⟨some (.ota 0), 0x500000, 0x4f0000, by decide, by decide, by decide⟩,
      ⟨some (.ota 1), 0x9f0000, 0x4f0000, by decide, by decide, by decide⟩,
      ⟨none, 0xff0000, 0x10000, by decide, by decide, by decide⟩]
  disjoint := by decide

/-- `ota_1` of `partitions.csv`. -/
def secondSlot : PartitionEntry := ⟨some (.ota 1), 0x9f0000, 0x4f0000, by decide, by decide, by decide⟩

inductive OtaImageState where
  | new
  | pendingVerify
  | valid
  | invalid
  | aborted
  | undefined
  deriving DecidableEq

/-- The operations that change flash or the OTA data. -/
inductive FlashOp where
  | erase (offset length : ℕ)
  | writeNor (offset : ℕ) (bytes : List UInt8)
  | resetData
  | activateNextPartition
  | setCurrentOtaState (state : OtaImageState)
  deriving DecidableEq

/-- What `otadata` says is kept as `selected` and `state`, not in the bytes of `flash`. -/
structure Device where
  flash : NorFlash
  flashEncryption : Bool
  table : PartitionTable
  selected : AppPartitionSubType
  state : OtaImageState
  /-- History: the operations issued, oldest first, whether or not they fail. -/
  operations : List FlashOp

/-- What the code relies on from outside: the keyed and the incremental hash,
and the slot order of `OtaUpdater`. -/
structure Platform where
  password : List UInt8
  hmac : List UInt8 → List UInt8 → List UInt8
  sha256 : List UInt8 → List UInt8
  Hasher : Type
  hasherNew : Hasher
  hasherUpdate : Hasher → List UInt8 → Hasher
  hasherFinalize : Hasher → List UInt8
  hasher_contract : ∀ chunks : List (List UInt8),
    hasherFinalize (chunks.foldl hasherUpdate hasherNew) = sha256 chunks.flatten
  /-- The slot after the selected one, until the next reset: `OtaUpdater` passes over
  the slot booted from. -/
  nextPartition : AppPartitionSubType → AppPartitionSubType
  /-- The slot erased OTA data select. -/
  resetPartition : AppPartitionSubType

/-! ## What can happen during an upload -/

/-- One `read` of the socket; no bytes means the peer closed. -/
inductive SocketRead where
  | data (bytes : List UInt8)
  | failed
  deriving DecidableEq

/-- One `write` of the socket. -/
inductive SocketWrite where
  | accepted (count : ℕ)
  | failed
  deriving DecidableEq

/-- The three closures that borrow the flash. -/
inductive Section where
  | prepareTarget
  | writeChunk (written : ℕ)
  | validateAndActivate
  deriving DecidableEq

/-- The calls of the flash driver and the partition library. -/
inductive Call where
  | openUpdater (part : Section)
  | selectedPartition
  | resetData
  | nextPartition (part : Section)
  | erase
  | readPartitionTable (part : Section)
  | writeNor (written : ℕ)
  | sha256
  | activateNextPartition
  | setCurrentOtaState
  deriving DecidableEq

inductive FlashAccessError where
  | unavailable
  | busy
  deriving DecidableEq

/-- Which calls fail if they are made. An erase or a write that fails may have
done a part; what fails in the OTA data leaves them as they were, since a
record without its checksum does not count. -/
structure Faults where
  withStorage : Section → Option FlashAccessError
  /-- The call fails, after so many bytes. -/
  fails : Call → Option ℕ
  flush : Bool

def Faults.none : Faults where
  withStorage := fun _ => .none
  fails := fun _ => .none
  flush := false

/-- The state of an upload: the device, what the socket still delivers and
accepts, and the two buffers. -/
structure Upload where
  device : Device
  reads : List SocketRead
  writes : List SocketWrite
  header : List UInt8
  buffer : List UInt8

structure Target where
  offset : ℕ
  size : ℕ
  subtype : AppPartitionSubType
  deriving DecidableEq

abbrev Step (α : Type) := Fallible Upload Abort α

open Fallible (throw get modify mapError)

def reject {α : Type} (error : UpdateError) : Step α := throw (.rejected error)

/-- A value computed in `u32`. -/
def inU32 (value : ℕ) : Step Unit := if value < u32Limit then pure () else throw .overflow

def onDevice (change : Device → Device) : Step Unit :=
  modify fun upload => { upload with device := change upload.device }

/-! ## The socket -/

/-- `read` until `length` bytes are there: why it stopped, the bytes read, and
what the socket still delivers. -/
def readAll : ℕ → List SocketRead → Option UpdateError × List UInt8 × List SocketRead
  | 0, reads => (none, [], reads)
  | _ + 1, [] => (some .closed, [], [])
  | _ + 1, .failed :: rest => (some .network, [], rest)
  | _ + 1, .data [] :: rest => (some .closed, [], rest)
  | length + 1, .data (byte :: bytes) :: rest =>
    let received := byte :: bytes
    if received.length ≤ length + 1 then
      let (outcome, more, reads) := readAll (length + 1 - received.length) rest
      (outcome, received ++ more, reads)
    else
      (none, received.take (length + 1), .data (received.drop (length + 1)) :: rest)

/-- Overwrite the front of a buffer. -/
def fill (buffer received : List UInt8) : List UInt8 := received ++ buffer.drop received.length

/-- `read_exact` into one of the buffers. -/
def readExact (length : ℕ) (store : List UInt8 → Upload → Upload) : Step Unit := do
  let upload ← get
  let (outcome, received, reads) := readAll length upload.reads
  modify fun upload => store received { upload with reads := reads }
  match outcome with
  | none => pure ()
  | some error => reject error

def readHeader : Step Unit :=
  readExact headerSize fun received upload => { upload with header := fill upload.header received }

def readChunk (length : ℕ) : Step Unit :=
  readExact length fun received upload => { upload with buffer := fill upload.buffer received }

def writeAll : ℕ → List SocketWrite → Option UpdateError × List SocketWrite
  | 0, writes => (none, writes)
  | _ + 1, [] => (some .closed, [])
  | _ + 1, .failed :: rest => (some .network, rest)
  | _ + 1, .accepted 0 :: rest => (some .closed, rest)
  | length + 1, .accepted (count + 1) :: rest => writeAll (length - count) rest

/-- `READY\n`, flushed. -/
def sendReady (faults : Faults) : Step Unit := do
  let upload ← get
  let (outcome, writes) := writeAll 6 upload.writes
  modify fun upload => { upload with writes := writes }
  match outcome with
  | some error => reject error
  | none => if faults.flush then reject .network else pure ()

/-! ## The flash driver and the partition library -/

def withFlash {α : Type} (faults : Faults) (part : Section) (operation : Step α) : Step α :=
  match faults.withStorage part with
  | some .unavailable => reject .flashUnavailable
  | some .busy => reject .flashBusy
  | none => operation

/-- A call that only reads. -/
def check (faults : Faults) (call : Call) (error : UpdateError) : Step Unit :=
  if (faults.fails call).isSome then reject error else pure ()

/-- `FlashRegion::erase` from the start of a partition. -/
def eraseRegion (faults : Faults) (region : PartitionEntry) (length : ℕ) : Step Unit :=
  if length > region.len then reject .partition
  else do
    let done := (faults.fails .erase).getD length
    onDevice fun device =>
      { device with
        flash := device.flash.erase region.offset (min done length)
        operations := device.operations ++ [.erase region.offset length] }
    check faults .erase .partition

def writeNor (faults : Faults) (written offset : ℕ) (bytes : List UInt8) : Step Unit := do
  let done := (faults.fails (.writeNor written)).getD bytes.length
  onDevice fun device =>
    { device with
      flash := device.flash.program offset (bytes.take done)
      operations := device.operations ++ [.writeNor offset bytes] }
  check faults (.writeNor written) .flash

def resetData (platform : Platform) (faults : Faults) : Step Unit := do
  onDevice fun device =>
    { device with
      selected :=
        if (faults.fails .resetData).isSome then device.selected else platform.resetPartition
      operations := device.operations ++ [.resetData] }
  check faults .resetData .partition

def findApp (table : PartitionTable) (subtype : AppPartitionSubType) : Option PartitionEntry :=
  table.entries.find? fun entry => entry.app == some subtype

/-- The region of the partition `activate_next_partition` would select. -/
def nextPartition (platform : Platform) (faults : Faults) (part : Section) :
    Step (PartitionEntry × AppPartitionSubType) := do
  check faults (.nextPartition part) .partition
  let upload ← get
  let subtype := platform.nextPartition upload.device.selected
  match findApp upload.device.table subtype with
  | some region => pure (region, subtype)
  | none => reject .partition

/-- The record that selects the next slot does not say what its image is. -/
def activateNextPartition (platform : Platform) (faults : Faults) : Step Unit := do
  onDevice fun device =>
    { device with
      selected :=
        if (faults.fails .activateNextPartition).isSome then device.selected
        else platform.nextPartition device.selected
      state := if (faults.fails .activateNextPartition).isSome then device.state else .undefined
      operations := device.operations ++ [.activateNextPartition] }
  check faults .activateNextPartition .partition

def setCurrentOtaState (faults : Faults) (state : OtaImageState) : Step Unit := do
  onDevice fun device =>
    { device with
      state := if (faults.fails .setCurrentOtaState).isSome then device.state else state
      operations := device.operations ++ [.setCurrentOtaState state] }
  check faults .setCurrentOtaState .partition

/-! ## Receiving an update -/

/-- `image_size.next_multiple_of(SECTOR_SIZE)`. -/
def eraseEnd (imageSize : ℕ) : ℕ := (imageSize + (sectorSize - 1)) / sectorSize * sectorSize

/-- OTA data in which the selected partition cannot be read are reset. -/
def ensureSelected (platform : Platform) (faults : Faults) : Step Unit :=
  if (faults.fails .selectedPartition).isSome then resetData platform faults else pure ()

def prepareTarget (platform : Platform) (faults : Faults) (imageSize : ℕ) : Step Target :=
  withFlash faults .prepareTarget do
    let upload ← get
    if upload.device.flashEncryption then reject .invalidImage
    else do
      check faults (.openUpdater .prepareTarget) .partition
      ensureSelected platform faults
      let (region, subtype) ← nextPartition platform faults .prepareTarget
      let size := region.len
      if imageSize > size then reject .invalidSize
      else do
        inU32 (eraseEnd imageSize)
        eraseRegion faults region (eraseEnd imageSize)
        check faults (.readPartitionTable .prepareTarget) .partition
        let upload ← get
        match findApp upload.device.table subtype with
        | none => reject .invalidImage
        | some entry => pure { offset := entry.offset, size := size, subtype := subtype }

def writeChunk (faults : Faults) (written offset : ℕ) (chunk : List UInt8) : Step Unit :=
  withFlash faults (.writeChunk written) (writeNor faults written offset chunk)

/-- A read that fails within the image says how far it came. -/
def transferError (written : ℕ) : Abort → Abort
  | .rejected .network => .rejected (.transferNetwork written)
  | abort => abort

def receiveChunks (platform : Platform) (faults : Faults) (target : Target) (imageSize written : ℕ)
    (hasher : platform.Hasher) : Step platform.Hasher :=
  if _more : written < imageSize then do
    let chunkLen := min flashChunkSize (imageSize - written)
    mapError (transferError written) (readChunk chunkLen)
    let upload ← get
    if written = 0 ∧ upload.buffer.head? ≠ some 0xe9 then reject .invalidImage
    else do
      let chunk := upload.buffer.take chunkLen
      inU32 (target.offset + written)
      writeChunk faults written (target.offset + written) chunk
      inU32 (written + chunkLen)
      receiveChunks platform faults target imageSize (written + chunkLen)
        (platform.hasherUpdate hasher chunk)
  else pure hasher
termination_by imageSize - written
decreasing_by
  have : 0 < flashChunkSize := by decide
  omega

def validateAndActivate (platform : Platform) (faults : Faults) (target : Target) : Step Unit :=
  withFlash faults .validateAndActivate do
    check faults (.readPartitionTable .validateAndActivate) .partition
    let upload ← get
    match findApp upload.device.table target.subtype with
    | none => reject .invalidImage
    | some entry =>
      if entry.offset ≠ target.offset ∨ entry.len ≠ target.size then reject .invalidImage
      else do
        check faults .sha256 .partition
        check faults (.openUpdater .validateAndActivate) .partition
        let (_, subtype) ← nextPartition platform faults .validateAndActivate
        if subtype ≠ target.subtype then reject .invalidImage
        else do
          activateNextPartition platform faults
          setCurrentOtaState faults .new

/-- `u32::from_le_bytes`. -/
def fromLeBytes (bytes : List UInt8) : ℕ :=
  bytes.foldr (fun byte value => byte.toNat + 256 * value) 0

/-- `receive_update` behind the checks of the header. -/
def receiveImage (platform : Platform) (faults : Faults) (header : List UInt8) (imageSize : ℕ) :
    Step Unit := do
  let target ← prepareTarget platform faults imageSize
  sendReady faults
  let hasher ← receiveChunks platform faults target imageSize 0 platform.hasherNew
  if platform.hasherFinalize hasher ≠ (header.drop digestOffset).take (macOffset - digestOffset) then
    reject .digestMismatch
  else validateAndActivate platform faults target

def receiveUpdate (platform : Platform) (faults : Faults) : Step Unit := do
  modify fun upload => { upload with header := List.replicate headerSize 0 }
  readHeader
  let upload ← get
  let header := upload.header
  if header.take magic.length ≠ magic then reject .invalidHeader
  else do
    let imageSize := fromLeBytes ((header.drop 8).take 4)
    if imageSize = 0 ∨ ¬ 4 ∣ imageSize then reject .invalidSize
    else if platform.hmac platform.password (header.take macOffset) ≠ header.drop macOffset then
      reject .authentication
    else receiveImage platform faults header imageSize

/-! ## The listening task -/

/-- What the listener gets: nothing, or an upload. -/
inductive Connection where
  | failed
  | accepted (faults : Faults) (reads : List SocketRead) (writes : List SocketWrite)

/-- The device and the flash buffer, which stays between uploads. -/
structure OtaTask where
  device : Device
  flashBuffer : List UInt8
  rebooting : Bool

def OtaTask.upload (state : OtaTask) (reads : List SocketRead) (writes : List SocketWrite) : Upload where
  device := state.device
  reads := reads
  writes := writes
  header := []
  buffer := state.flashBuffer

/-- One turn of the loop of `task`. An installed update reboots the device. -/
def task (platform : Platform) (state : OtaTask) : Connection → OtaTask
  | .failed => state
  | .accepted faults reads writes =>
    if state.rebooting then state
    else
      match receiveUpdate platform faults (state.upload reads writes) with
      | (.ok (), after) => { device := after.device, flashBuffer := after.buffer, rebooting := true }
      | (.error _, after) => { device := after.device, flashBuffer := after.buffer, rebooting := false }

end EnergyDisplay.Ota

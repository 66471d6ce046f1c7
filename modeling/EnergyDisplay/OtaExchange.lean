import EnergyDisplay.Lib.Duplex
import EnergyDisplay.Ota

/-! An upload over the network: `tools/ota_push.py` on one side of a TCP
connection, `task` of `firmware/src/tasks/ota.rs` on the other. Both are cut
where they wait for the socket. The connection itself does not fail. -/
namespace EnergyDisplay.Ota

open Duplex
open Fallible (modify)

/-- `READY\n`. -/
def readyLine : List UInt8 := [0x52, 0x45, 0x41, 0x44, 0x59, 0x0a]

/-- `OK rebooting\n`. -/
def okLine : List UInt8 :=
  [0x4f, 0x4b, 0x20, 0x72, 0x65, 0x62, 0x6f, 0x6f, 0x74, 0x69, 0x6e, 0x67, 0x0a]

/-- `ERR update rejected\n`. -/
def errLine : List UInt8 :=
  [0x45, 0x52, 0x52, 0x20, 0x75, 0x70, 0x64, 0x61, 0x74, 0x65, 0x20, 0x72, 0x65, 0x6a, 0x65, 0x63, 0x74,
    0x65, 0x64, 0x0a]

/-! ## The push tool -/

inductive PushError where
  /-- `parser.error`, or a size `struct.pack` cannot take. -/
  | usage
  | closed
  | invalidResponse
  | refused (response : List UInt8)
  deriving DecidableEq

/-- Where `main` waits: in `sendall` of the header, in `receive_line`, in
`sendall` of a chunk with the rest of the file still to be read, or at its end. -/
inductive Push where
  | header (pending : List UInt8)
  | ready (response : List UInt8)
  | image (pending rest : List UInt8)
  | installed (response : List UInt8)
  | ended (result : Except PushError Unit)
  deriving DecidableEq

namespace Push

/-- `image.read(64 * 1024)`. -/
def chunkSize : ℕ := 64 * 1024

/-- `struct.pack("<I", value)`. -/
def pack (value : ℕ) : List UInt8 :=
  [UInt8.ofNat value, UInt8.ofNat (value / 2 ^ 8), UInt8.ofNat (value / 2 ^ 16),
    UInt8.ofNat (value / 2 ^ 24)]

def metadata (platform : Platform) (image : List UInt8) : List UInt8 :=
  magic ++ pack image.length ++ platform.sha256 image

/-- The tool computes the hashes of the device, under its own password. -/
def headerFor (platform : Platform) (password image : List UInt8) : List UInt8 :=
  metadata platform image ++ platform.hmac password (metadata platform image)

/-- `main` up to the connection. -/
def start (platform : Platform) (password image : List UInt8) : Except PushError Push :=
  if password = [] then .error .usage
  else if image.length = 0 ∨ image.length % 4 ≠ 0 then .error .usage
  else if 2 ^ 32 ≤ image.length then .error .usage
  else .ok (.header (headerFor platform password image))

/-- The next chunk of the file, or the wait for the verdict at its end. -/
def nextChunk (rest : List UInt8) : Push :=
  if rest = [] then .installed [] else .image (rest.take chunkSize) (rest.drop chunkSize)

/-- One turn of the loop of `receive_line`. -/
def receiveLine (response chunk : List UInt8) (more done : List UInt8 → Push) : Push :=
  if chunk = [] then .ended (.error .closed)
  else
    let response := response ++ chunk
    if 128 < response.length then .ended (.error .invalidResponse)
    else if response.getLast? = some 0x0a then done response
    else more response

def want : Push → Want UInt8
  | .header pending => .send pending
  | .ready _ => .receive 1
  | .image pending _ => .send pending
  | .installed _ => .receive 1
  | .ended _ => .halted

def sent (push : Push) (count : ℕ) : Push :=
  match push with
  | .header pending => if pending.drop count = [] then .ready [] else .header (pending.drop count)
  | .image pending rest => if pending.drop count = [] then nextChunk rest else .image (pending.drop count) rest
  | push => push

def received (image : List UInt8) (push : Push) (chunk : List UInt8) : Push :=
  match push with
  | .ready response => receiveLine response chunk .ready fun response =>
      if response = readyLine then nextChunk image else .ended (.error (.refused response))
  | .installed response => receiveLine response chunk .installed fun response =>
      if response = okLine then .ended (.ok ()) else .ended (.error (.refused response))
  | push => push

def party (image : List UInt8) : Party Push UInt8 where
  want := want
  sent := sent
  received := received image

end Push

/-! ## The device -/

/-- Where `receive_update` waits for the socket, and where `task` does with its
result. -/
inductive Phase (platform : Platform) where
  | header (got : List UInt8)
  | announcing (pending header : List UInt8) (imageSize : ℕ) (target : Target)
  | image (header : List UInt8) (imageSize : ℕ) (target : Target) (written : ℕ)
    (hasher : platform.Hasher) (got : List UInt8)
  | answering (pending : List UInt8) (result : Except Abort Unit)
  | ended (result : Except Abort Unit)

/-- The device between two socket operations: what it holds, and the phase.
The socket is the connection here, so `upload` lists no reads and writes. -/
structure Receiver (platform : Platform) where
  upload : Upload
  phase : Phase platform

variable {platform : Platform}

def storeHeader (received : List UInt8) (upload : Upload) : Upload :=
  { upload with header := fill upload.header received }

def storeChunk (received : List UInt8) (upload : Upload) : Upload :=
  { upload with buffer := fill upload.buffer received }

def chunkLen (imageSize written : ℕ) : ℕ := min flashChunkSize (imageSize - written)

/-- The tool closed within a read, which leaves its part in the buffer. -/
def closedAfter (store : Upload → Upload) : Step Unit := do
  modify store
  reject .closed

/-- From the header to the target: what the announcement goes with. -/
def checkHeader (platform : Platform) (faults : Faults) : Step (List UInt8 × ℕ × Target) := do
  let upload ← Fallible.get
  let header := upload.header
  if header.take magic.length ≠ magic then reject .invalidHeader
  else do
    let imageSize := fromLeBytes ((header.drop 8).take 4)
    if imageSize = 0 ∨ ¬ 4 ∣ imageSize then reject .invalidSize
    else if platform.hmac platform.password (header.take macOffset) ≠ header.drop macOffset then
      reject .authentication
    else do
      let target ← prepareTarget platform faults imageSize
      pure (header, imageSize, target)

/-- One chunk that was read. -/
def takeChunk (platform : Platform) (faults : Faults) (target : Target) (imageSize written : ℕ)
    (hasher : platform.Hasher) : Step platform.Hasher := do
  let upload ← Fallible.get
  if written = 0 ∧ upload.buffer.head? ≠ some 0xe9 then reject .invalidImage
  else do
    let chunk := upload.buffer.take (chunkLen imageSize written)
    inU32 (target.offset + written)
    writeChunk faults written (target.offset + written) chunk
    inU32 (written + chunkLen imageSize written)
    pure (platform.hasherUpdate hasher chunk)

/-- The image is complete. -/
def finishImage (platform : Platform) (faults : Faults) (header : List UInt8) (target : Target)
    (hasher : platform.Hasher) : Step Unit :=
  if platform.hasherFinalize hasher ≠ (header.drop digestOffset).take (macOffset - digestOffset) then
    reject .digestMismatch
  else validateAndActivate platform faults target

def flushReady (faults : Faults) : Step Unit := if faults.flush then reject .network else pure ()

namespace Receiver

/-- Go on after a part of `receive_update`, or answer with its error. -/
def settle {α : Type} (program : Step α) (next : α → Upload → Receiver platform) (upload : Upload) :
    Receiver platform :=
  match program upload with
  | (.ok value, upload) => next value upload
  | (.error abort, upload) => { upload := upload, phase := .answering errLine (.error abort) }

/-- The loop condition of the chunks. -/
def chunks (faults : Faults) (header : List UInt8) (imageSize : ℕ) (target : Target) (written : ℕ)
    (hasher : platform.Hasher) (upload : Upload) : Receiver platform :=
  if written < imageSize then
    { upload := upload, phase := .image header imageSize target written hasher [] }
  else
    settle (finishImage platform faults header target hasher)
      (fun _ upload => { upload := upload, phase := .answering okLine (.ok ()) }) upload

def want (receiver : Receiver platform) : Want UInt8 :=
  match receiver.phase with
  | .header got => .receive (headerSize - got.length)
  | .announcing pending .. => .send pending
  | .image _ imageSize _ written _ got => .receive (chunkLen imageSize written - got.length)
  | .answering pending _ => .send pending
  | .ended _ => .halted

def sent (faults : Faults) (receiver : Receiver platform) (count : ℕ) : Receiver platform :=
  match receiver.phase with
  | .announcing pending header imageSize target =>
    if pending.drop count = [] then
      settle (flushReady faults) (fun _ => chunks faults header imageSize target 0 platform.hasherNew)
        receiver.upload
    else { receiver with phase := .announcing (pending.drop count) header imageSize target }
  | .answering pending result =>
    if pending.drop count = [] then { receiver with phase := .ended result }
    else { receiver with phase := .answering (pending.drop count) result }
  | _ => receiver

def received (faults : Faults) (receiver : Receiver platform) (fragment : List UInt8) :
    Receiver platform :=
  match receiver.phase with
  | .header got =>
    if fragment = [] then
      settle (closedAfter (storeHeader got)) (fun _ upload => { receiver with upload }) receiver.upload
    else if (got ++ fragment).length < headerSize then { receiver with phase := .header (got ++ fragment) }
    else
      settle (do modify (storeHeader (got ++ fragment)); checkHeader platform faults)
        (fun (header, imageSize, target) upload =>
          { upload := upload, phase := .announcing readyLine header imageSize target })
        receiver.upload
  | .image header imageSize target written hasher got =>
    if fragment = [] then
      settle (closedAfter (storeChunk got)) (fun _ upload => { receiver with upload }) receiver.upload
    else if (got ++ fragment).length < chunkLen imageSize written then
      { receiver with phase := .image header imageSize target written hasher (got ++ fragment) }
    else
      settle
        (do
          modify (storeChunk (got ++ fragment))
          takeChunk platform faults target imageSize written hasher)
        (fun hasher => chunks faults header imageSize target (written + chunkLen imageSize written) hasher)
        receiver.upload
  | _ => receiver

def party (faults : Faults) : Party (Receiver platform) UInt8 where
  want := want
  sent := sent faults
  received := received faults

/-- `receive_update` on a connection that was just accepted. -/
def start (platform : Platform) (device : Device) (flashBuffer : List UInt8) : Receiver platform where
  upload := {
    device := device
    reads := []
    writes := []
    header := List.replicate headerSize 0
    buffer := flashBuffer }
  phase := .header []

end Receiver

/-- The push tool connects to the device, unless it stops before. -/
def connect (platform : Platform) (password image : List UInt8) (device : Device) (flashBuffer : List UInt8) :
    Except PushError (Duplex.Connection Push (Receiver platform) UInt8) := do
  let push ← Push.start platform password image
  pure {
    client := push
    server := Receiver.start platform device flashBuffer
    toServer := []
    toClient := [] }

end EnergyDisplay.Ota

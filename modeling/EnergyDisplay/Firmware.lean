import EnergyDisplay.OtaExchange
import EnergyDisplay.PanicHardware
import EnergyDisplay.StructuredLog

/-! The firmware from reset to reset, as far as it shares the flash: the boot of
`firmware/src/main.rs`, the tasks that upload images and forward logs, and the
panic handler. Tasks take turns where they wait, so an event is what one of them
does between two waits. A reset, whatever its cause, keeps the flash and nothing
else. -/
namespace EnergyDisplay

open Logging (Record previousPanic)
open PanicStore
open StructuredLog

/-- What `confirm_running_image` meets: an updater that does not open, a state
that cannot be read (or that the partition library does not know), a state that
cannot be set. -/
structure ConfirmFaults where
  opened : Bool
  unknownState : Bool
  read : Bool
  set : Bool

def ConfirmFaults.none : ConfirmFaults := ⟨false, false, false, false⟩

structure Firmware (platform : Ota.Platform) where
  hardware : Hardware
  memory : Allocator.Memory
  queue : Queue
  forwarder : Forwarder
  /-- The upload being received. -/
  upload : Option (Ota.Receiver platform)
  flashBuffer : List UInt8
  /-- Between a boot and the next panic. -/
  running : Bool
  /-- The tasks are spawned. -/
  spawned : Bool

namespace Firmware

inductive Event where
  | boot (readable : Bool) (faults : StorageFaults) (failure : Record)
  | spawn (faults : ConfirmFaults) (failure : Record)
  | allocate (request : Allocator.Call)
  | log (record : Record)
  | receive
  | attempt (attempt : Attempt) (faults : StorageFaults)
  | resume
  | accept
  | socketSent (faults : Ota.Faults) (count : ℕ)
  | socketReceived (faults : Ota.Faults) (fragment : List UInt8)
  | panic (held : Bool) (info : List (List Char)) (faults : StorageFaults)

variable {platform : Ota.Platform}

/-! ## The boot -/

/-- What `main` does with the panic of the boot before; `failure` is the record
`log::error!` makes when the panic store does not start. -/
def reportPrevious (failure : Record) : Except InitializeError (Option PanicMessage) → Queue
  | .ok (some message) => Queue.empty.reportPreviousPanic message.items
  | .ok none => .empty
  | .error _ => Queue.empty.log { failure with level := .error }

/-- Every static but these is as it was linked. -/
def started (hardware : Hardware) (queue : Queue) : Firmware platform where
  hardware := hardware
  memory := .initial
  queue := queue
  forwarder := .initial
  upload := none
  flashBuffer := List.replicate Ota.flashChunkSize 0
  running := true
  spawned := false

/-- A reset, and `main` up to its first message. -/
def boot (layout : FlashLayout) (readable : Bool) (faults : StorageFaults) (failure : Record)
    (firmware : Firmware platform) : Firmware platform :=
  let (previous, hardware) := initializeStore layout readable faults
    { firmware.hardware with panicFlash := none, flashBusy := false, panicking := false }
  started hardware (reportPrevious failure previous)

/-- `ota::confirm_running_image`; false if it warns. -/
def confirmRunningImage (faults : ConfirmFaults) (hardware : Hardware) : Bool × Hardware :=
  if hardware.withStorage.isSome || faults.opened then (false, hardware)
  else if faults.unknownState then (true, hardware)
  else if faults.read then (false, hardware)
  else if hardware.device.state = .new ∨ hardware.device.state = .pendingVerify then
    if faults.set then (false, hardware)
    else (true, { hardware with device := { hardware.device with state := .valid } })
  else (true, hardware)

/-- The end of the boot. The URL of the log server fits its buffer. -/
def spawn (faults : ConfirmFaults) (failure : Record) (firmware : Firmware platform) : Firmware platform :=
  if firmware.spawned || !victoriaUrl.2 then firmware
  else
    let (confirmed, hardware) := confirmRunningImage faults firmware.hardware
    { firmware with
      hardware := hardware
      memory := firmware.memory.sealAllocator
      queue := if confirmed then firmware.queue else firmware.queue.log { failure with level := .warn }
      spawned := true }

/-! ## The forwarder -/

def receive (firmware : Firmware platform) : Firmware platform :=
  match firmware.forwarder.state, firmware.queue.pending.tryReceive with
  | .receiving, some (message, pending) =>
    { firmware with
      queue := { firmware.queue with pending := pending }
      forwarder := firmware.forwarder.receive message }
  | _, _ => firmware

/-- One turn of the inner loop, up to the pause or the end. -/
def attempt (attempt : Attempt) (faults : StorageFaults) (firmware : Firmware platform) : Firmware platform :=
  match firmware.forwarder.state with
  | .sending message =>
    if !(body message).2 then { firmware with forwarder := firmware.forwarder.stop }
    else if attempt.accepted then
      if message.persistedPanic then
        match clear faults firmware.hardware with
        | (.ok (), hardware) =>
          { firmware with hardware := hardware, forwarder := firmware.forwarder.succeed true }
        | (.error _, hardware) =>
          { firmware with hardware := hardware, forwarder := firmware.forwarder.succeed false }
      else { firmware with forwarder := firmware.forwarder.succeed true }
    else { firmware with forwarder := firmware.forwarder.fail message }
  | _ => firmware

def resume (firmware : Firmware platform) : Firmware platform :=
  match firmware.forwarder.state with
  | .pausing message => { firmware with forwarder := firmware.forwarder.resume message }
  | _ => firmware

/-! ## The uploads -/

/-- A connection is accepted when none is served. -/
def accept (firmware : Firmware platform) : Firmware platform :=
  match firmware.upload with
  | none =>
    { firmware with upload := some (.start platform firmware.hardware.device firmware.flashBuffer) }
  | some _ => firmware

/-- The upload goes on with the device as it is, its flash behind
`with_storage`. A rejected upload ends; an installed one waits for the reset. -/
def serve (turn : Ota.Receiver platform → Ota.Receiver platform) (firmware : Firmware platform) :
    Firmware platform :=
  match firmware.upload with
  | none => firmware
  | some receiver =>
    let receiver := turn { receiver with upload := { receiver.upload with device := firmware.hardware.device } }
    { firmware with
      hardware := { firmware.hardware with device := receiver.upload.device }
      flashBuffer := receiver.upload.buffer
      upload :=
        match receiver.phase with
        | .ended (.error _) => none
        | _ => some receiver }

def storageFaults (faults : Ota.Faults) (firmware : Firmware platform) : Ota.Faults :=
  { faults with withStorage := fun _ => firmware.hardware.withStorage }

def socketSent (faults : Ota.Faults) (count : ℕ) (firmware : Firmware platform) : Firmware platform :=
  firmware.serve fun receiver => receiver.sent (firmware.storageFaults faults) count

/-- A read takes no more than it asks for. -/
def socketReceived (faults : Ota.Faults) (fragment : List UInt8) (firmware : Firmware platform) :
    Firmware platform :=
  firmware.serve fun receiver =>
    match receiver.want with
    | .receive limit => receiver.received (firmware.storageFaults faults) (fragment.take limit)
    | _ => receiver

/-! ## A panic -/

/-- A panic, with the flash `held` by what it interrupts or not. Its handler
resets. -/
def panic (held : Bool) (info : List (List Char)) (faults : StorageFaults) (firmware : Firmware platform) :
    Firmware platform :=
  let hardware := { firmware.hardware with flashBusy := held }
  { firmware with
    hardware := panicHandler firmware.memory.rejectedAllocationSize info faults hardware
    running := false }

/-! ## Steps -/

/-- The tasks do nothing before they are spawned, and after a panic there is
only the reset. -/
def step (layout : FlashLayout) (firmware : Firmware platform) : Event → Firmware platform
  | .boot readable faults failure => firmware.boot layout readable faults failure
  | .spawn faults failure => if firmware.running then firmware.spawn faults failure else firmware
  | .allocate request =>
    if firmware.running then { firmware with memory := Allocator.call firmware.memory request } else firmware
  | .log record => if firmware.running then { firmware with queue := firmware.queue.log record } else firmware
  | .receive => if firmware.running && firmware.spawned then firmware.receive else firmware
  | .attempt attempt faults =>
    if firmware.running && firmware.spawned then firmware.attempt attempt faults else firmware
  | .resume => if firmware.running && firmware.spawned then firmware.resume else firmware
  | .accept => if firmware.running && firmware.spawned then firmware.accept else firmware
  | .socketSent faults count =>
    if firmware.running && firmware.spawned then firmware.socketSent faults count else firmware
  | .socketReceived faults fragment =>
    if firmware.running && firmware.spawned then firmware.socketReceived faults fragment else firmware
  | .panic held info faults => if firmware.running then firmware.panic held info faults else firmware

/-- A device before its first boot with this flash. -/
def off (device : Ota.Device) : Firmware platform where
  hardware := ⟨device, none, false, false⟩
  memory := .initial
  queue := .empty
  forwarder := .initial
  upload := none
  flashBuffer := []
  running := false
  spawned := false

end Firmware

end EnergyDisplay

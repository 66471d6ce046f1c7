import Mathlib.Data.List.Basic
import EnergyDisplay.OtaStages

/-! Activation is sound. Each stage of an upload says what the flash operations
since its start are; so whatever fails, what is written is the image, inside
the erased front of the target, and what is activated was written whole. -/
namespace EnergyDisplay.Ota

open Fallible

variable {platform : Platform} {faults : Faults}

/-- A write of the image: inside it, inside what was erased before, apart from
every write before. -/
structure ImageWrite (partition : PartitionEntry) (imageSize : ℕ) (earlier : List FlashOp) (offset : ℕ)
    (bytes : List UInt8) : Prop where
  inside : partition.offset ≤ offset ∧ offset + bytes.length ≤ partition.offset + imageSize
  erased : ∃ start length, .erase start length ∈ earlier ∧ start ≤ offset ∧
    offset + bytes.length ≤ start + length
  aligned : 4 ∣ bytes.length
  once : ∀ other written, .writeNor other written ∈ earlier →
    other + written.length ≤ offset ∨ offset + bytes.length ≤ other

/-- What was checked when the activation is called: the stream is genuine, its
image was taken to the last byte and is what the target partition holds. -/
structure Installed (platform : Platform) (faults : Faults) (start after : Upload) : Prop where
  genuine : Genuine platform (delivered start.reads)
  taken : delivered after.reads =
    (delivered start.reads).drop (headerSize + imageSizeOf (delivered start.reads))
  held : ∃ partition, findApp start.device.table (targetSlot platform faults start.device) = some partition ∧
    imageSizeOf (delivered start.reads) ≤ partition.len ∧
    after.device.flash.Holds partition.offset (imageOf (delivered start.reads))

/-- The operations of an upload, oldest first: it erases the front of the target,
its writes are writes of the image, and it calls the activation, at the very
end, on an installed image. -/
structure SoundTrace (platform : Platform) (faults : Faults) (start after : Upload) (trace : List FlashOp) :
    Prop where
  operations : after.device.operations = start.device.operations ++ trace
  erases : ∀ offset length, .erase offset length ∈ trace →
    ∃ partition, findApp start.device.table (targetSlot platform faults start.device) = some partition ∧
      offset = partition.offset ∧ length ≤ partition.len
  writes : ∀ earlier offset bytes later, trace = earlier ++ .writeNor offset bytes :: later →
    ∃ partition, findApp start.device.table (targetSlot platform faults start.device) = some partition ∧
      ImageWrite partition (imageSizeOf (delivered start.reads)) earlier offset bytes
  activation : ∀ earlier later, trace = earlier ++ .activateNextPartition :: later →
    (∀ op ∈ later, op = .setCurrentOtaState .new) ∧ Installed platform faults start after

/-- An operation of two runs, one after the other, belongs to one of them. -/
theorem append_split {first second earlier later : List FlashOp} {op : FlashOp}
    (split : first ++ second = earlier ++ op :: later) :
    (∃ rest, first = earlier ++ op :: rest) ∨
      ∃ rest, earlier = first ++ rest ∧ second = rest ++ op :: later := by
  obtain ⟨rest, before, after⟩ | ⟨rest, before, after⟩ := List.append_eq_append_iff.mp split
  · exact Or.inr ⟨rest, before, after⟩
  · cases rest with
    | nil => exact Or.inr ⟨[], by simpa using before.symm, after.symm⟩
    | cons _ rest =>
      obtain ⟨rfl, rfl⟩ := List.cons.inj after
      exact Or.inl ⟨rest, before⟩

theorem mem_writeOps {chunks : List (List UInt8)} {offset at_ : ℕ} {bytes : List UInt8}
    (issued : .writeNor at_ bytes ∈ writeOps offset chunks) :
    at_ + bytes.length ≤ offset + chunks.flatten.length := by
  induction chunks generalizing offset with
  | nil => cases issued
  | cons chunk rest ih =>
    rw [List.flatten_cons, List.length_append]
    cases issued with
    | head => omega
    | tail _ later =>
      have := ih later
      omega

theorem writeOps_writes {chunks : List (List UInt8)} {offset : ℕ} {op : FlashOp}
    (other : ∀ at_ bytes, op ≠ .writeNor at_ bytes) : op ∉ writeOps offset chunks := by
  induction chunks generalizing offset with
  | nil => simp [writeOps]
  | cons chunk rest ih =>
    rw [writeOps, List.mem_cons, not_or]
    exact ⟨other offset chunk, ih⟩

/-- Only one erase is issued. -/
theorem mem_erase {resets ending : List FlashOp} {start length offset at_ size : ℕ}
    {chunks : List (List UInt8)} (reset : ∀ op ∈ resets, op = .resetData)
    (finished : .erase at_ size ∉ ending)
    (issued : .erase at_ size ∈ resets ++ (.erase start length :: (writeOps offset chunks ++ ending))) :
    at_ = start ∧ size = length := by
  rw [List.mem_append, List.mem_cons, List.mem_append] at issued
  obtain issued | issued | issued | issued := issued
  · cases reset _ issued
  · cases issued
    exact ⟨rfl, rfl⟩
  · exact absurd issued (writeOps_writes (by simp))
  · exact absurd issued finished

theorem no_activation {resets : List FlashOp} {start length offset : ℕ} {chunks : List (List UInt8)}
    (reset : ∀ op ∈ resets, op = .resetData) :
    .activateNextPartition ∉ resets ++ .erase start length :: writeOps offset chunks := by
  rw [List.mem_append, List.mem_cons]
  rintro (called | called | called)
  · cases reset _ called
  · cases called
  · exact writeOps_writes (by simp) called

/-- The write at any point of the run is the next chunk, behind those before. -/
theorem writeOps_split {chunks : List (List UInt8)} {offset at_ : ℕ} {bytes : List UInt8}
    {earlier later : List FlashOp} (split : writeOps offset chunks = earlier ++ .writeNor at_ bytes :: later) :
    ∃ before after, chunks = before ++ bytes :: after ∧ earlier = writeOps offset before ∧
      at_ = offset + before.flatten.length := by
  induction chunks generalizing offset earlier with
  | nil => simp [writeOps] at split
  | cons chunk rest ih =>
    cases earlier with
    | nil =>
      obtain ⟨here, -⟩ := List.cons.inj split
      cases here
      exact ⟨[], rest, rfl, rfl, by simp⟩
    | cons first earlier =>
      obtain ⟨rfl, behind⟩ := List.cons.inj split
      obtain ⟨before, after, rfl, rfl, rfl⟩ := ih behind
      exact ⟨chunk :: before, after, rfl, rfl, by simp [Nat.add_assoc]⟩

theorem prepared_operations (platform : Platform) (faults : Faults) (device : Device) :
    ∃ resets, (prepared platform faults device).operations = device.operations ++ resets ∧
      ∀ op ∈ resets, op = .resetData := by
  unfold prepared
  split
  · exact ⟨[.resetData], rfl, by simp⟩
  · exact ⟨[], by simp, by simp⟩

/-- The writes among what was done since the start of an upload. -/
theorem Writing.imageWrite {base device : Device} {partition : PartitionEntry} {imageSize : ℕ}
    {chunks : List (List UInt8)} (writing : Writing base partition imageSize chunks device)
    {resets ending earlier later : List FlashOp} {offset : ℕ} {bytes : List UInt8}
    (reset : ∀ op ∈ resets, op = .resetData) (finished : .writeNor offset bytes ∉ ending)
    (split : resets ++ (.erase partition.offset (eraseEnd imageSize) ::
      (writeOps partition.offset chunks ++ ending)) = earlier ++ .writeNor offset bytes :: later) :
    ImageWrite partition imageSize earlier offset bytes := by
  obtain ⟨_, inResets⟩ | ⟨earlier, rfl, erasing⟩ := append_split split
  · exact absurd (reset (.writeNor offset bytes) (by simp [inResets])) (by simp)
  cases earlier with
  | nil => cases erasing
  | cons first earlier =>
    obtain ⟨rfl, behind⟩ := List.cons.inj erasing
    obtain ⟨_, written⟩ | ⟨_, -, ended⟩ := append_split behind
    swap
    · exact absurd (by simp [ended]) finished
    obtain ⟨before, after, rfl, rfl, rfl⟩ := writeOps_split written
    have within := writing.within
    rw [List.flatten_append, List.flatten_cons, List.length_append, List.length_append] at within
    have covered := le_eraseEnd imageSize
    refine ⟨⟨by omega, by omega⟩,
      ⟨partition.offset, eraseEnd imageSize, by simp, by omega, by omega⟩,
      writing.aligned bytes (by simp), ?_⟩
    intro other more issued
    rw [List.mem_append, List.mem_cons] at issued
    obtain inResets | isErase | issued := issued
    · exact absurd (reset _ inResets) (by simp)
    · cases isErase
    · exact Or.inl (mem_writeOps issued)

theorem SoundTrace.of_resets {start after : Upload} {resets : List FlashOp}
    (operations : after.device.operations = start.device.operations ++ resets)
    (reset : ∀ op ∈ resets, op = .resetData) : SoundTrace platform faults start after resets where
  operations := operations
  erases := by
    intro offset length issued
    cases reset _ issued
  writes := by
    intro earlier offset bytes later split
    exact absurd (reset (.writeNor offset bytes) (by simp [split])) (by simp)
  activation := by
    intro earlier later split
    exact absurd (reset .activateNextPartition (by simp [split])) (by simp)

theorem Stage.soundTrace {start after : Upload}
    (stage : Stage platform faults start.device (imageSizeOf (delivered start.reads)) after.device) :
    ∃ trace, SoundTrace platform faults start after trace := by
  generalize reached : after.device = device at stage
  obtain ⟨resets, prepares, reset⟩ := prepared_operations platform faults start.device
  cases stage with
  | unchanged _ => exact ⟨[], .of_resets (by simp [reached]) (by simp)⟩
  | prepared opens => exact ⟨resets, .of_resets (by rw [reached, prepares]) reset⟩
  | writing opens partition chunks target writing =>
    refine ⟨resets ++ (.erase partition.offset (eraseEnd (imageSizeOf (delivered start.reads))) ::
      (writeOps partition.offset chunks ++ [])), ?_, ?_, ?_, ?_⟩
    · rw [reached, writing.operations, prepares, List.append_assoc, List.append_nil]
    · intro offset length issued
      obtain ⟨rfl, rfl⟩ := mem_erase reset (by simp) issued
      exact ⟨partition, target, rfl, eraseEnd_le writing.fits⟩
    · intro earlier offset bytes later split
      exact ⟨partition, target, writing.imageWrite reset (by simp) split⟩
    · intro earlier later split
      rw [List.append_nil] at split
      exact absurd (by rw [split]; simp) (no_activation reset)

theorem Activated.soundTrace {start after : Upload} {partition : PartitionEntry}
    {chunks : List (List UInt8)} {before : Device}
    (activated : Activated platform faults start partition chunks before after) :
    ∃ trace, SoundTrace platform faults start after trace := by
  obtain ⟨resets, prepares, reset⟩ := prepared_operations platform faults start.device
  obtain ⟨genuine, -, taken, target, writing, held, activating⟩ := activated
  obtain ⟨states, recorded, ends⟩ := activating.operations
  refine ⟨resets ++ (.erase partition.offset (eraseEnd (imageSizeOf (delivered start.reads))) ::
    (writeOps partition.offset chunks ++ .activateNextPartition :: states)), ?_, ?_, ?_, ?_⟩
  · rw [ends, writing.operations, prepares]
    simp
  · intro offset length issued
    have finished : .erase offset length ∉ FlashOp.activateNextPartition :: states := by
      rw [List.mem_cons, not_or]
      exact ⟨by simp, fun issued => absurd (recorded _ issued) (by simp)⟩
    obtain ⟨rfl, rfl⟩ := mem_erase reset finished issued
    exact ⟨partition, target, rfl, eraseEnd_le writing.fits⟩
  · intro earlier offset bytes later split
    refine ⟨partition, target, writing.imageWrite reset ?_ split⟩
    intro issued
    obtain call | issued := List.mem_cons.mp issued
    · cases call
    · exact absurd (recorded _ issued) (by simp)
  · intro earlier later split
    rw [← List.cons_append, ← List.append_assoc,
      List.append_cons_inj_of_notMem (no_activation reset)
        fun called => absurd (recorded _ called) (by simp)] at split
    obtain ⟨-, -, rfl⟩ := split
    refine ⟨recorded, genuine, taken, partition, target, writing.fits, ?_⟩
    rw [activating.flash]
    exact held

/-- OTA activation is sound. Whatever the socket delivers and how, and whichever
read, write, flash or OTA call fails: no arithmetic overflows, every write is a
write of the image, and only an installed image is activated. -/
theorem activation_sound (platform : Platform) (faults : Faults) (start : Upload) :
    (receiveUpdate platform faults start).1 ≠ .error .overflow ∧
      ∃ trace, SoundTrace platform faults start (receiveUpdate platform faults start).2 trace := by
  rcases outcome : receiveUpdate platform faults start with ⟨result, after⟩
  cases result with
  | ok _ =>
    obtain ⟨_, _, _, _, _, activated⟩ := ends_receiveUpdate.of_ok outcome
    exact ⟨by simp, activated.soundTrace⟩
  | error abort =>
    obtain ⟨inRange, rejected⟩ := ends_receiveUpdate.of_error outcome
    refine ⟨by simpa using inRange, ?_⟩
    cases rejected with
    | header _ untouched => exact ⟨[], .of_resets (by simp [untouched]) (by simp)⟩
    | image _ stage _ => exact stage.soundTrace
    | activation _ _ _ activated _ => exact activated.soundTrace

/-- The image `[0xe9, 1, 2, 3]`, with its header. -/
def shortUpdate : List UInt8 :=
  magic ++ [4, 0, 0, 0] ++
    [0x48, 0x31, 0x4b, 0xa3, 0x41, 0xd5, 0x00, 0x21, 0xf3, 0xc9, 0x06, 0xe6, 0x58, 0xd7, 0x37, 0xc4,
      0x71, 0x3b, 0x22, 0xfb, 0x35, 0x82, 0xaf, 0x97, 0xf7, 0x97, 0xc3, 0x05, 0x99, 0xf8, 0x5c, 0x95] ++
    [0x39, 0x4f, 0x9b, 0x9e, 0x48, 0x4b, 0x39, 0x14, 0xeb, 0x32, 0xc0, 0x4b, 0xbf, 0x73, 0xee, 0x60,
      0xfc, 0x2c, 0x92, 0x75, 0x5a, 0x5e, 0x39, 0x7d, 0x8e, 0xa1, 0xe9, 0x41, 0x12, 0x9d, 0x88, 0xd9] ++
    [0xe9, 1, 2, 3]

/-- The two hashes as they are on `shortUpdate` under the password `iot`, and
the slots of `partitions.csv` in order, whichever of them was booted: `OtaUpdater`
passes over that one, so behind an activation it comes to the same slot again. -/
def shortPlatform : Platform where
  password := [0x69, 0x6f, 0x74]
  hmac := fun _ _ => (headerOf shortUpdate).drop macOffset
  sha256 := fun _ => ((headerOf shortUpdate).drop digestOffset).take (macOffset - digestOffset)
  Hasher := Unit
  hasherNew := ()
  hasherUpdate := fun _ _ => ()
  hasherFinalize := fun _ => ((headerOf shortUpdate).drop digestOffset).take (macOffset - digestOffset)
  hasher_contract := fun _ => rfl
  nextPartition := fun
    | .ota 0 => .ota 1
    | _ => .ota 0
  resetPartition := .factory

def runningFirstSlot : Device where
  flash := fun _ => 0xff
  flashEncryption := false
  table := partitions
  selected := .ota 0
  state := .valid
  operations := []

/-- The upload in two pieces, the second of them cut within the header. -/
def shortUpload : Upload where
  device := runningFirstSlot
  reads := [.data (shortUpdate.take 50), .data (shortUpdate.drop 50)]
  writes := [.accepted 6]
  header := []
  buffer := List.replicate flashChunkSize 0

theorem activation_sound_short :
    Installed shortPlatform .none shortUpload (receiveUpdate shortPlatform .none shortUpload).2 := by
  obtain ⟨_, trace, sound⟩ := activation_sound shortPlatform .none shortUpload
  have whole : trace = (receiveUpdate shortPlatform .none shortUpload).2.device.operations :=
    sound.operations.symm
  have called : .activateNextPartition ∈ trace := by
    rw [whole]
    decide +kernel
  obtain ⟨earlier, later, split⟩ := List.append_of_mem called
  exact (sound.activation earlier later split).2

end EnergyDisplay.Ota

import EnergyDisplay.OtaExchange
import EnergyDisplay.OtaStages

/-! An upload stays in the application slots. Whatever fails, and wherever the
socket cuts it into pieces, the flash outside of the slots is as it was, and the
partition table too: the target is a slot of the table from the moment it is
chosen. -/
namespace EnergyDisplay.Ota

open Fallible

/-- The address belongs to a slot. -/
def AppFlash (table : PartitionTable) (address : ℕ) : Prop :=
  ∃ entry ∈ table.entries, entry.app.isSome ∧ entry.offset ≤ address ∧ address < entry.offset + entry.len

/-- Compared with `base`, only the slots have changed. -/
structure Confined (base device : Device) : Prop where
  table : device.table = base.table
  flash : ∀ address, ¬ AppFlash base.table address → device.flash address = base.flash address

/-- The target is a slot of the table, and an image of this size fits. -/
def Target.Within (table : PartitionTable) (imageSize : ℕ) (target : Target) : Prop :=
  ∃ entry ∈ table.entries, entry.app.isSome ∧ target.offset = entry.offset ∧ imageSize ≤ entry.len

variable {platform : Platform} {faults : Faults} {base device : Device} {table : PartitionTable}

theorem Confined.refl (device : Device) : Confined device device := ⟨rfl, fun _ _ => rfl⟩

/-- Confined changes add up. -/
theorem Confined.trans {next : Device} (first : Confined base device) (second : Confined device next) :
    Confined base next where
  table := second.table.trans first.table
  flash := by
    intro address outside
    rw [second.flash address (first.table ▸ outside), first.flash address outside]

theorem findApp_slot {subtype : AppPartitionSubType} {entry : PartitionEntry}
    (found : findApp table subtype = some entry) : entry ∈ table.entries ∧ entry.app.isSome := by
  have app : entry.app = some subtype := by simpa using List.find?_some found
  exact ⟨List.mem_of_find?_eq_some found, by simp [app]⟩

/-! ## The parts of an upload -/

section Parts

variable {invariant : Upload → Prop} {promised : Device → Prop}

theorem maintains_onDevice {change : Device → Device}
    (kept : ∀ device, promised device → promised (change device)) :
    Maintains (fun upload => promised upload.device) (onDevice change) fun _ => True :=
  maintains_modify fun upload => kept upload.device

theorem maintains_check (call : Call) (error : UpdateError) :
    Maintains invariant (check faults call error) fun _ => True :=
  maintains_ite (fun _ => maintains_throw _) fun _ => maintains_pure trivial

theorem maintains_inU32 (value : ℕ) : Maintains invariant (inU32 value) fun _ => True :=
  maintains_ite (fun _ => maintains_pure trivial) fun _ => maintains_throw _

theorem maintains_withFlash {α : Type} {operation : Step α} {gives : α → Prop} (part : Section)
    (maintains : Maintains invariant operation gives) :
    Maintains invariant (withFlash faults part operation) gives := by
  unfold withFlash
  split
  · exact maintains_throw _
  · exact maintains_throw _
  · exact maintains

/-- What holds of the device whatever a preparation does to it: it may select the
slot that a reset selects, and it erases the front of the next one. -/
theorem maintains_prepareTarget (promised : Device → Prop) (imageSize : ℕ)
    (reset : ∀ device selected operations, selected = device.selected ∨ selected = platform.resetPartition →
      promised device → promised { device with selected := selected, operations := operations })
    (erase : ∀ device region length operations,
      findApp device.table (platform.nextPartition device.selected) = some region → length ≤ region.len →
      promised device →
      promised { device with flash := device.flash.erase region.offset length, operations := operations }) :
    Maintains (fun upload => promised upload.device) (prepareTarget platform faults imageSize)
      fun _ => True := by
  intro state holds
  unfold prepareTarget
  refine ends_withFlash (fun _ _ => holds) fun _ => ?_
  rw [ends_bind, ends_get, ends_ite]
  refine ⟨fun _ => holds, fun _ => ?_⟩
  rw [ends_bind, ends_check]
  refine ⟨fun _ => holds, fun _ => ?_⟩
  have resets : promised (prepared platform faults state.device) := by
    unfold prepared
    split
    · refine reset _ _ _ ?_ holds
      split
      · exact Or.inl rfl
      · exact Or.inr rfl
    · exact holds
  rw [ends_bind]
  refine ends_ensureSelected.mono ?_ ?_
  swap
  · rintro _ _ ⟨_, _, rfl⟩
    exact resets
  rintro _ _ ⟨_, rfl⟩
  rw [ends_bind]
  refine ends_nextPartition.mono ?_ ?_
  swap
  · rintro _ _ ⟨_, rfl, _⟩
    exact resets
  rintro ⟨region, subtype⟩ _ ⟨_, rfl, found, rfl⟩
  dsimp only
  rw [ends_ite]
  refine ⟨fun _ => resets, fun fits => ?_⟩
  have fits := eraseEnd_le (not_lt.mp fits)
  refine ends_of_maintains (fun upload => promised upload.device ∧
      findApp upload.device.table (platform.nextPartition upload.device.selected) = some region) ?_
    ⟨resets, found⟩ (fun _ _ kept (_ : True) => ⟨kept.1, trivial⟩) fun _ _ kept => kept.1
  refine (maintains_inU32 _).bind fun _ _ => Maintains.bind ?_ fun _ (_ : True) =>
    (maintains_check _ _).bind fun _ _ => maintains_get.bind fun upload _ => ?_
  · refine maintains_ite (fun _ => maintains_throw _) fun _ => ?_
    refine Maintains.bind (maintains_modify ?_) fun _ _ => maintains_check _ _
    rintro upload ⟨kept, next⟩
    exact ⟨erase _ region _ _ next ((min_le_right _ _).trans fits) kept, next⟩
  · split
    · exact maintains_throw _
    · exact maintains_pure trivial

/-- What holds of the device however far a write of a chunk comes. -/
theorem maintains_writeChunk (promised : Device → Prop) {written offset : ℕ} {chunk : List UInt8}
    (write : ∀ device done operations, promised device →
      promised { device with flash := device.flash.program offset (chunk.take done), operations := operations }) :
    Maintains (fun upload => promised upload.device) (writeChunk faults written offset chunk) fun _ => True := by
  refine maintains_withFlash _ (Maintains.bind (maintains_onDevice ?_) fun _ _ => maintains_check _ _)
  exact fun device kept => write device _ _ kept

end Parts

/-- The part of an upload leaves the flash outside of the slots alone. -/
abbrev Confines {α : Type} (base : Device) (program : Step α) (gives : α → Prop) : Prop :=
  Maintains (fun upload => Confined base upload.device) program gives

theorem confines_nextPartition (part : Section) : Confines base (nextPartition platform faults part)
    fun result => findApp base.table result.2 = some result.1 := by
  refine (maintains_check _ _).bind fun _ _ => maintains_get.bind fun upload confined => ?_
  dsimp only
  split
  · next region found =>
    rw [confined.table] at found
    exact maintains_pure found
  · exact maintains_throw _

theorem confines_prepareTarget (imageSize : ℕ) : Confines base (prepareTarget platform faults imageSize)
    (Target.Within base.table imageSize) := by
  have keeps : Maintains (fun upload => Confined base upload.device) (prepareTarget platform faults imageSize)
      fun _ => True := by
    refine maintains_prepareTarget (Confined base) imageSize (fun _ _ _ _ confined => ⟨confined.table, confined.flash⟩) ?_
    intro device region length operations found fits confined
    rw [confined.table] at found
    obtain ⟨member, app⟩ := findApp_slot found
    refine ⟨confined.table, fun address outside => ?_⟩
    rw [← confined.flash address outside]
    apply NorFlash.erase_outside
    by_contra inside
    exact outside ⟨region, member, app, by omega, by omega⟩
  intro state confined
  refine ((keeps state confined).and (ends_prepareTarget imageSize)).mono ?_ fun _ _ failed => failed.1
  rintro target after ⟨⟨kept, _⟩, _, partition, found, rfl, _, writing, _⟩
  rw [confined.table] at found
  obtain ⟨member, app⟩ := findApp_slot found
  exact ⟨kept, partition, member, app, rfl, writing.fits⟩

theorem confines_checkHeader : Confines base (checkHeader platform faults)
    fun result => result.2.2.Within base.table result.2.1 := by
  refine maintains_get.bind fun upload _ => maintains_ite (fun _ => maintains_throw _) fun _ => ?_
  refine maintains_ite (fun _ => maintains_throw _) fun _ => maintains_ite (fun _ => maintains_throw _) fun _ => ?_
  exact (confines_prepareTarget _).bind fun _ within => maintains_pure within

theorem chunkLen_le (imageSize written : ℕ) (more : written < imageSize) :
    written + chunkLen imageSize written ≤ imageSize := by
  rw [chunkLen]
  omega

theorem confines_takeChunk {target : Target} {imageSize written : ℕ} (hasher : platform.Hasher)
    (within : target.Within base.table imageSize) (more : written < imageSize) :
    Confines base (takeChunk platform faults target imageSize written hasher) fun _ => True := by
  obtain ⟨entry, member, app, offset, fits⟩ := within
  refine maintains_get.bind fun upload _ => maintains_ite (fun _ => maintains_throw _) fun _ => ?_
  have inside := chunkLen_le imageSize written more
  have shorter := List.length_take_le (chunkLen imageSize written) upload.buffer
  have writes : Confines base (writeChunk faults written (target.offset + written)
      (upload.buffer.take (chunkLen imageSize written))) fun _ => True := by
    refine maintains_writeChunk (Confined base) fun device done operations confined => ?_
    refine ⟨confined.table, fun address outside => ?_⟩
    rw [← confined.flash address outside]
    apply NorFlash.program_outside
    by_contra hit
    have part := List.length_take_le' done (upload.buffer.take (chunkLen imageSize written))
    exact outside ⟨entry, member, app, by omega, by omega⟩
  exact (maintains_inU32 _).bind fun _ _ => writes.bind fun _ _ => (maintains_inU32 _).bind fun _ _ =>
    maintains_pure trivial

theorem confines_validateAndActivate (target : Target) :
    Confines base (validateAndActivate platform faults target) fun _ => True := by
  refine maintains_withFlash _ ((maintains_check _ _).bind fun _ _ => maintains_get.bind fun upload _ => ?_)
  dsimp only
  split
  · exact maintains_throw _
  refine maintains_ite (fun _ => maintains_throw _) fun _ => (maintains_check _ _).bind fun _ _ => ?_
  refine (maintains_check _ _).bind fun _ _ => (confines_nextPartition _).bind fun result _ => ?_
  refine maintains_ite (fun _ => maintains_throw _) fun _ => ?_
  have activates : Confines base (activateNextPartition platform faults) fun _ => True := by
    unfold activateNextPartition
    refine Maintains.bind (maintains_onDevice ?_) fun _ _ => maintains_check _ _
    exact fun _ confined => ⟨confined.table, confined.flash⟩
  refine activates.bind fun _ _ => ?_
  unfold setCurrentOtaState
  refine Maintains.bind (maintains_onDevice ?_) fun _ _ => maintains_check _ _
  exact fun _ confined => ⟨confined.table, confined.flash⟩

theorem confines_finishImage (header : List UInt8) (target : Target) (hasher : platform.Hasher) :
    Confines base (finishImage platform faults header target hasher) fun _ => True :=
  maintains_ite (fun _ => maintains_throw _) fun _ => confines_validateAndActivate target

/-! ## From wait to wait -/

/-- While the image is received its target is a slot. -/
def Phase.Within (table : PartitionTable) : Phase platform → Prop
  | .announcing _ _ imageSize target => target.Within table imageSize
  | .image _ imageSize target written _ _ => target.Within table imageSize ∧ written < imageSize
  | _ => True

structure Receiver.Within (base : Device) (receiver : Receiver platform) : Prop where
  device : Confined base receiver.upload.device
  phase : receiver.phase.Within base.table

/-- A part of an upload, and what comes of its two endings. -/
theorem settle_ends {α : Type} {program : Step α} {next : α → Upload → Receiver platform} {upload : Upload}
    {post : α → Upload → Prop} {fail : Abort → Upload → Prop} (property : Receiver platform → Prop)
    (ends : Ends program upload post fail) (goesOn : ∀ value after, post value after → property (next value after))
    (stopped : ∀ abort after, fail abort after → property ⟨after, .answering errLine (.error abort)⟩) :
    property (Receiver.settle program next upload) := by
  unfold Receiver.settle
  rcases outcome : program upload with ⟨result, after⟩
  cases result with
  | ok value => exact goesOn value after (ends.of_ok outcome)
  | error abort => exact stopped abort after (ends.of_error outcome)

theorem settle_within {α : Type} {program : Step α} {gives : α → Prop}
    {next : α → Upload → Receiver platform} {upload : Upload} (confines : Confines base program gives)
    (confined : Confined base upload.device)
    (goesOn : ∀ value after, Confined base after.device → gives value → (next value after).Within base) :
    (Receiver.settle program next upload).Within base :=
  settle_ends (Receiver.Within base) (confines upload confined)
    (fun value after both => goesOn value after both.1 both.2) fun _ _ kept => ⟨kept, trivial⟩

theorem chunks_within {header : List UInt8} {imageSize written : ℕ} {target : Target} (hasher : platform.Hasher)
    {upload : Upload} (within : target.Within base.table imageSize) (confined : Confined base upload.device) :
    (Receiver.chunks faults header imageSize target written hasher upload).Within base := by
  unfold Receiver.chunks
  split
  · next more => exact ⟨confined, within, more⟩
  · refine settle_within (confines_finishImage header target hasher) confined ?_
    exact fun _ _ kept _ => ⟨kept, trivial⟩

theorem Receiver.Within.sent {receiver : Receiver platform} (within : receiver.Within base) (count : ℕ) :
    (receiver.sent faults count).Within base := by
  obtain ⟨upload, phase⟩ := receiver
  obtain ⟨confined, target⟩ := within
  cases phase with
  | announcing pending header imageSize goal =>
    dsimp only [Receiver.sent]
    split
    · have flushes : Confines base (flushReady faults) fun _ => True :=
        maintains_ite (fun _ => maintains_throw _) fun _ => maintains_pure trivial
      refine settle_within flushes confined fun _ after kept _ => ?_
      exact chunks_within _ target kept
    · exact ⟨confined, target⟩
  | answering pending result =>
    dsimp only [Receiver.sent]
    split <;> exact ⟨confined, trivial⟩
  | header got => exact ⟨confined, trivial⟩
  | image header imageSize goal written hasher got => exact ⟨confined, target⟩
  | ended result => exact ⟨confined, trivial⟩

theorem confines_closedAfter {store : Upload → Upload} (same : ∀ upload, (store upload).device = upload.device) :
    Confines base (closedAfter store) fun _ => True := by
  refine (maintains_modify fun upload confined => ?_).bind fun _ _ => maintains_throw _
  rwa [same]

theorem Receiver.Within.received {receiver : Receiver platform} (within : receiver.Within base)
    (fragment : List UInt8) : (receiver.received faults fragment).Within base := by
  obtain ⟨upload, phase⟩ := receiver
  obtain ⟨confined, target⟩ := within
  cases phase with
  | header got =>
    dsimp only [Receiver.received]
    split
    · refine settle_within (confines_closedAfter fun _ => rfl) confined fun _ _ kept _ => ?_
      exact ⟨kept, trivial⟩
    split
    · exact ⟨confined, trivial⟩
    · have stores : Confines base (modify (storeHeader (got ++ fragment))) fun _ => True :=
        maintains_modify fun _ kept => kept
      refine settle_within (stores.bind fun _ _ => confines_checkHeader) confined ?_
      exact fun _ _ kept given => ⟨kept, given⟩
  | image header imageSize goal written hasher got =>
    obtain ⟨within, more⟩ := target
    dsimp only [Receiver.received]
    split
    · refine settle_within (confines_closedAfter fun _ => rfl) confined fun _ _ kept _ => ?_
      exact ⟨kept, within, more⟩
    split
    · exact ⟨confined, within, more⟩
    · have stores : Confines base (modify (storeChunk (got ++ fragment))) fun _ => True :=
        maintains_modify fun _ kept => kept
      refine settle_within (stores.bind fun _ _ => confines_takeChunk hasher within more) confined ?_
      exact fun hasher _ kept _ => chunks_within hasher within kept
  | announcing pending header imageSize goal => exact ⟨confined, target⟩
  | answering pending result => exact ⟨confined, trivial⟩
  | ended result => exact ⟨confined, trivial⟩

end EnergyDisplay.Ota

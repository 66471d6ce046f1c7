import Mathlib.Data.List.Pairwise
import EnergyDisplay.Lib.Runs
import EnergyDisplay.OtaProofs

/-! The running slot across uploads. The listener takes the next upload after
a rejected one, so what a rejected upload may leave behind matters: as long as
the selected slot is the running one, the next upload goes elsewhere. -/
namespace EnergyDisplay.Ota

open Fallible Runs

/-! ## Where an upload writes -/

/-- The operation changes bytes of the partition. -/
def FlashOp.Touches (partition : PartitionEntry) : FlashOp → Prop
  | .erase offset length =>
    offset < partition.offset + partition.len ∧ partition.offset < offset + length
  | .writeNor offset bytes =>
    offset < partition.offset + partition.len ∧ partition.offset < offset + bytes.length
  | _ => False

instance (partition : PartitionEntry) (op : FlashOp) : Decidable (op.Touches partition) := by
  cases op <;> unfold FlashOp.Touches <;> infer_instance

/-- Partitions of two slots do not overlap. -/
theorem findApp_apart {table : PartitionTable} {first second : AppPartitionSubType}
    {one other : PartitionEntry} (different : first ≠ second) (found : findApp table first = some one)
    (found' : findApp table second = some other) :
    one.offset + one.len ≤ other.offset ∨ other.offset + other.len ≤ one.offset := by
  have app : one.app = some first := by simpa using List.find?_some found
  have app' : other.app = some second := by simpa using List.find?_some found'
  have distinct : one ≠ other := by
    rintro rfl
    exact different (Option.some.inj (app.symm.trans app'))
  have symmetric : Std.Symm fun first second : PartitionEntry =>
      first.offset + first.len ≤ second.offset ∨ second.offset + second.len ≤ first.offset :=
    ⟨fun _ _ => Or.symm⟩
  exact table.disjoint.forall (List.mem_of_find?_eq_some found) (List.mem_of_find?_eq_some found')
    distinct

variable {platform : Platform} {faults : Faults} {start after : Upload}

/-- An upload leaves every slot but its target alone. -/
theorem SoundTrace.spares {trace : List FlashOp} (sound : SoundTrace platform faults start after trace)
    {slot : AppPartitionSubType} {partition : PartitionEntry}
    (other : targetSlot platform faults start.device ≠ slot)
    (found : findApp start.device.table slot = some partition) :
    ∀ op ∈ trace, ¬ op.Touches partition := by
  intro op issued touches
  cases op with
  | erase offset length =>
    obtain ⟨target, taken, rfl, within⟩ := sound.erases offset length issued
    have apart := findApp_apart other taken found
    simp only [FlashOp.Touches] at touches
    omega
  | writeNor offset bytes =>
    -- A write stays inside what was erased before it.
    obtain ⟨earlier, later, split⟩ := List.append_of_mem issued
    obtain ⟨_, _, write⟩ := sound.writes earlier offset bytes later split
    obtain ⟨begin_, length, erased, from_, to_⟩ := write.erased
    obtain ⟨target, taken, rfl, within⟩ := sound.erases begin_ length (by simp [split, erased])
    have apart := findApp_apart other taken found
    simp only [FlashOp.Touches] at touches
    omega
  | _ => exact touches

/-- The selected slot is left alone. -/
def SparesSelected (start after : Device) : Prop :=
  ∀ partition, findApp start.table start.selected = some partition →
    ∃ trace, after.operations = start.operations ++ trace ∧ ∀ op ∈ trace, ¬ op.Touches partition

theorem SparesSelected.refl (device : Device) : SparesSelected device device := by
  intro partition found
  exact ⟨[], by simp, by simp⟩

theorem SoundTrace.sparesSelected {trace : List FlashOp}
    (sound : SoundTrace platform faults start after trace)
    (other : targetSlot platform faults start.device ≠ start.device.selected) :
    SparesSelected start.device after.device := by
  intro partition found
  exact ⟨trace, sound.operations, sound.spares other found⟩

/-- An image that went to the selected slot overwrote it. -/
theorem Activated.overwrites {partition : PartitionEntry} {chunks : List (List UInt8)} {before : Device}
    (activated : Activated platform faults start partition chunks before after)
    (same : targetSlot platform faults start.device = start.device.selected) :
    ¬ SparesSelected start.device after.device := by
  intro spares
  obtain ⟨trace, operations, untouched⟩ := spares partition (same ▸ activated.target)
  obtain ⟨resets, prepares, _⟩ := prepared_operations platform faults start.device
  obtain ⟨states, _, ends⟩ := activated.activating.operations
  have sized := activated.genuine.sized
  have fits := activated.writing.fits
  have erased := le_eraseEnd (imageSizeOf (delivered start.reads))
  refine untouched (.erase partition.offset (eraseEnd (imageSizeOf (delivered start.reads)))) ?_
    ⟨by omega, by omega⟩
  rw [ends, activated.writing.operations, prepares] at operations
  simp only [List.append_assoc] at operations
  rw [← List.append_cancel_left operations]
  simp

/-! ## When an upload is harmless -/

/-- What keeps an upload from being rejected with another slot selected, or from
going to the selected one: OTA data that cannot be read are not reset to another
slot (or the image is then installed, elsewhere); and once the image is activated
its state is recorded. -/
structure Harmless (platform : Platform) (faults : Faults) (start : Upload) : Prop where
  reset : Accepted platform (delivered start.reads) → Opens faults start.device →
    (prepared platform faults start.device).selected ≠ start.device.selected →
    Activatable platform faults start ∧
      targetSlot platform faults start.device ≠ start.device.selected
  recorded : Activatable platform faults start → faults.fails .setCurrentOtaState = none

/-- Whatever the stream and the other faults. -/
theorem harmless_of_recorded (read : faults.fails .selectedPartition = none)
    (recorded : faults.fails .setCurrentOtaState = none) : Harmless platform faults start where
  reset := by
    intro _ _ changed
    exact absurd (by simp [prepared, read]) changed
  recorded := fun _ => recorded

/-- A harmless upload goes to another slot than the selected one. -/
theorem Harmless.elsewhere (harmless : Harmless platform faults start)
    (distinct : ∀ slot, platform.nextPartition slot ≠ slot)
    (accepted : Accepted platform (delivered start.reads)) (opens : Opens faults start.device) :
    targetSlot platform faults start.device ≠ start.device.selected := by
  by_cases kept : (prepared platform faults start.device).selected = start.device.selected
  · rw [targetSlot, kept]
    exact distinct _
  · exact (harmless.reset accepted opens kept).2

/-- A harmless upload that is not activatable finds the selected slot selected. -/
theorem Harmless.prepared_selected (harmless : Harmless platform faults start)
    (accepted : Accepted platform (delivered start.reads)) (opens : Opens faults start.device)
    (stopped : ¬ Activatable platform faults start) :
    (prepared platform faults start.device).selected = start.device.selected := by
  by_contra changed
  exact stopped (harmless.reset accepted opens changed).1

theorem Activated.selected {partition : PartitionEntry} {chunks : List (List UInt8)} {before : Device}
    (activated : Activated platform faults start partition chunks before after) :
    after.device.selected =
      if (faults.fails .activateNextPartition).isSome then
        (prepared platform faults start.device).selected
      else targetSlot platform faults start.device := by
  rw [activated.activating.selected, activated.writing.selected, targetSlot]

/-- A rejected upload leaves a selection other than the one it found only if it
was harmful. -/
theorem Rejected.selected (rejected : Rejected platform faults start after)
    (harmless : Harmless platform faults start) :
    after.device.selected = start.device.selected := by
  cases rejected with
  | header _ untouched => rw [untouched]
  | image accepted stage stopped =>
    generalize after.device = device at stage ⊢
    cases stage with
    | unchanged => rfl
    | prepared opens => exact harmless.prepared_selected accepted opens stopped
    | writing opens partition chunks target writing =>
      exact writing.selected.trans (harmless.prepared_selected accepted opens stopped)
  | activation partition chunks before activated failing =>
    obtain refused | ⟨activatable, unrecorded⟩ := failing
    · have stopped : ¬ Activatable platform faults start :=
        fun activatable => refused activatable.undisturbed.activates.activated
      rw [activated.selected, if_pos (Option.isSome_iff_ne_none.mpr refused)]
      exact harmless.prepared_selected activated.genuine.toAccepted activated.opens stopped
    · exact absurd (harmless.recorded activatable) unrecorded

theorem Rejected.spares (rejected : Rejected platform faults start after)
    (harmless : Harmless platform faults start)
    (distinct : ∀ slot, platform.nextPartition slot ≠ slot) :
    SparesSelected start.device after.device := by
  cases rejected with
  | header _ untouched =>
    rw [untouched]
    exact .refl _
  | image accepted stage _ =>
    obtain ⟨trace, sound⟩ := stage.soundTrace
    have elsewhere : Opens faults start.device → SparesSelected start.device after.device :=
      fun opens => sound.sparesSelected (harmless.elsewhere distinct accepted opens)
    generalize after.device = device at stage elsewhere ⊢
    cases stage with
    | unchanged => exact .refl _
    | prepared opens => exact elsewhere opens
    | writing opens => exact elsewhere opens
  | activation partition chunks before activated failing =>
    obtain ⟨trace, sound⟩ := activated.soundTrace
    exact sound.sparesSelected
      (harmless.elsewhere distinct activated.genuine.toAccepted activated.opens)

/-- With the OTA data reset to another slot, an upload that is not activatable
is rejected with that slot selected. -/
theorem Rejected.reset (rejected : Rejected platform faults start after)
    (accepted : Accepted platform (delivered start.reads)) (opens : Opens faults start.device)
    (stopped : ¬ Activatable platform faults start) :
    after.device.selected = (prepared platform faults start.device).selected := by
  cases rejected with
  | header rejected _ => exact absurd accepted rejected
  | image _ stage _ =>
    generalize after.device = device at stage ⊢
    cases stage with
    | unchanged closed => exact absurd opens closed
    | prepared => rfl
    | writing _ _ _ _ writing => exact writing.selected
  | activation _ _ _ activated failing =>
    obtain refused | ⟨activatable, _⟩ := failing
    · rw [activated.selected, if_pos (Option.isSome_iff_ne_none.mpr refused)]
    · exact absurd activatable stopped

/-- An activatable upload that is rejected was activated all the same. -/
theorem Rejected.activated (rejected : Rejected platform faults start after)
    (activatable : Activatable platform faults start) :
    after.device.selected = targetSlot platform faults start.device ∧
      (targetSlot platform faults start.device = start.device.selected →
        ¬ SparesSelected start.device after.device) := by
  cases rejected with
  | header rejected _ => exact absurd activatable.genuine.toAccepted rejected
  | image _ _ stopped => exact absurd activatable stopped
  | activation _ _ _ activated _ =>
    refine ⟨?_, activated.overwrites⟩
    rw [activated.selected, activatable.undisturbed.activates.activated]
    rfl

/-- Step lemma: the harmless uploads are exactly those that spare the selected
slot and, rejected, leave it selected. -/
theorem harmless_iff (distinct : ∀ slot, platform.nextPartition slot ≠ slot) :
    Ends (receiveUpdate platform faults) start
        (fun _ after => SparesSelected start.device after.device)
        (fun _ after => after.device.selected = start.device.selected ∧
          SparesSelected start.device after.device) ↔
      Harmless platform faults start := by
  rcases outcome : receiveUpdate platform faults start with ⟨result, after⟩
  rw [Ends, outcome]
  cases result with
  | ok _ =>
    obtain ⟨activatable, recorded, partition, chunks, before, activated⟩ :=
      ends_receiveUpdate.of_ok outcome
    obtain ⟨trace, sound⟩ := activated.soundTrace
    refine ⟨fun spares => ⟨fun _ _ _ => ⟨activatable, ?_⟩, fun _ => recorded⟩, fun harmless => ?_⟩
    · exact fun same => activated.overwrites same spares
    · exact sound.sparesSelected
        (harmless.elsewhere distinct activated.genuine.toAccepted activated.opens)
  | error abort =>
    obtain ⟨_, rejected⟩ := ends_receiveUpdate.of_error outcome
    refine ⟨fun kept => ?_, fun harmless =>
      ⟨rejected.selected harmless, rejected.spares harmless distinct⟩⟩
    obtain ⟨selected, spares⟩ := kept
    have stopped : ¬ Activatable platform faults start := by
      intro activatable
      obtain ⟨moved, overwritten⟩ := rejected.activated activatable
      exact overwritten (moved.symm.trans selected) spares
    refine ⟨fun accepted opens changed => ?_, fun activatable => absurd activatable stopped⟩
    exact absurd ((rejected.reset accepted opens stopped).symm.trans selected) changed

/-! ## Uploads since boot -/

theorem receiveUpdate_table :
    (receiveUpdate platform faults start).2.device.table = start.device.table := by
  rcases outcome : receiveUpdate platform faults start with ⟨result, after⟩
  have moved : ∀ partition chunks before,
      Activated platform faults start partition chunks before after →
      after.device.table = start.device.table := by
    intro partition chunks before activated
    rw [activated.activating.table, activated.writing.table, prepared_table]
  cases result with
  | ok _ =>
    obtain ⟨_, _, partition, chunks, before, activated⟩ := ends_receiveUpdate.of_ok outcome
    exact moved partition chunks before activated
  | error abort =>
    obtain ⟨_, rejected⟩ := ends_receiveUpdate.of_error outcome
    cases rejected with
    | header _ untouched => rw [untouched]
    | image _ stage _ =>
      dsimp only
      generalize after.device = device at stage ⊢
      cases stage with
      | unchanged => rfl
      | prepared => exact prepared_table _
      | writing _ _ _ _ writing => exact writing.table.trans (prepared_table _)
    | activation partition chunks before activated _ => exact moved partition chunks before activated

/-- The condition on a turn of the loop. -/
def Connection.Harmless (platform : Platform) (state : OtaTask) : Connection → Prop
  | .failed => True
  | .accepted faults reads writes =>
    state.rebooting = false → Ota.Harmless platform faults (state.upload reads writes)

/-- A turn of the loop: rejected, it leaves the selected slot selected; however
it ends, the slot the device runs from since `boot` is neither erased nor written. -/
structure KeepsRunning (platform : Platform) (boot state : OtaTask) (connection : Connection) : Prop where
  selected : (task platform state connection).rebooting = false →
    (task platform state connection).device.selected = state.device.selected
  running : ∀ partition, findApp boot.device.table boot.device.selected = some partition →
    ∃ trace, (task platform state connection).device.operations = state.device.operations ++ trace ∧
      ∀ op ∈ trace, ¬ op.Touches partition

/-- Until the device reboots, the selected slot is the running one. -/
def Running (boot state : OtaTask) : Prop :=
  state.rebooting = false →
    state.device.selected = boot.device.selected ∧ state.device.table = boot.device.table

theorem keepsRunning_idle {boot state : OtaTask} {connection : Connection}
    (idle : task platform state connection = state) : KeepsRunning platform boot state connection where
  selected := by
    intro _
    rw [idle]
  running := by
    rw [idle]
    exact fun _ _ => ⟨[], by simp, by simp⟩

theorem task_rebooting {state : OtaTask} (rebooting : state.rebooting = true) (connection : Connection) :
    task platform state connection = state := by
  cases connection <;> simp [task, rebooting]

/-- A turn that serves an upload is as harmless as the upload. -/
theorem Running.keepsRunning_iff {boot state : OtaTask} {connection : Connection}
    (running : Running boot state) (distinct : ∀ slot, platform.nextPartition slot ≠ slot) :
    KeepsRunning platform boot state connection ↔ connection.Harmless platform state := by
  cases connection with
  | failed => exact ⟨fun _ => trivial, fun _ => keepsRunning_idle rfl⟩
  | accepted faults reads writes =>
    cases rebooting : state.rebooting with
    | true =>
      refine ⟨fun _ serving => ?_, fun _ => keepsRunning_idle (task_rebooting rebooting _)⟩
      rw [rebooting] at serving
      cases serving
    | false =>
      obtain ⟨same, table⟩ := running rebooting
      have serving : Connection.Harmless platform state (.accepted faults reads writes) ↔
          Ota.Harmless platform faults (state.upload reads writes) := by
        simp [Connection.Harmless, rebooting]
      rw [serving, ← harmless_iff distinct]
      rcases outcome : receiveUpdate platform faults (state.upload reads writes) with ⟨result, after⟩
      rw [Ends, outcome]
      cases result with
      | ok _ =>
        have turn : task platform state (.accepted faults reads writes) =
            { device := after.device, flashBuffer := after.buffer, rebooting := true } := by
          simp [task, rebooting, outcome]
        refine ⟨fun keeps => ?_, fun spares => ⟨by simp [turn], ?_⟩⟩
        · have spares := keeps.running
          rw [turn, ← same, ← table] at spares
          exact spares
        · rw [turn, ← same, ← table]
          exact spares
      | error abort =>
        have turn : task platform state (.accepted faults reads writes) =
            { device := after.device, flashBuffer := after.buffer, rebooting := false } := by
          simp [task, rebooting, outcome]
        refine ⟨fun keeps => ?_, fun ⟨selected, spares⟩ => ⟨?_, ?_⟩⟩
        · have selected := keeps.selected
          have spares := keeps.running
          rw [turn] at selected
          rw [turn, ← same, ← table] at spares
          exact ⟨selected rfl, spares⟩
        · rw [turn]
          exact fun _ => selected
        · rw [turn, ← same, ← table]
          exact spares

/-- The running slot stays selected as long as the turns are harmless. -/
theorem Running.turn {boot state : OtaTask} {connection : Connection} (running : Running boot state)
    (distinct : ∀ slot, platform.nextPartition slot ≠ slot)
    (harmless : connection.Harmless platform state) : Running boot (task platform state connection) := by
  have keeps := (running.keepsRunning_iff distinct).mpr harmless
  intro serving
  have before : state.rebooting = false := by
    by_contra rebooting
    have rebooting : state.rebooting = true := by simpa using rebooting
    rw [task_rebooting rebooting, rebooting] at serving
    cases serving
  obtain ⟨same, table⟩ := running before
  refine ⟨(keeps.selected serving).trans same, Eq.trans ?_ table⟩
  cases connection with
  | failed => rfl
  | accepted faults reads writes =>
    have kept : (receiveUpdate platform faults (state.upload reads writes)).2.device.table =
        state.device.table := receiveUpdate_table
    rcases outcome : receiveUpdate platform faults (state.upload reads writes) with ⟨result, after⟩
    rw [outcome] at kept
    cases result <;> simpa [task, before, outcome] using kept

/-- **A rejected upload changes nothing that matters exactly as long as every
upload is harmless.** In a run of uploads since boot, every rejected upload leaves
the slot selected that was selected before it and no upload erases or writes the
slot the device runs from, if and only if every upload is harmless. -/
theorem running_slot_kept_iff (platform : Platform)
    (distinct : ∀ slot, platform.nextPartition slot ≠ slot) (boot : OtaTask)
    (connections : List Connection) :
    StepsMeet (task platform) (KeepsRunning platform boot) boot connections ↔
      StepsMeet (task platform) (fun state connection => connection.Harmless platform state)
        boot connections :=
  stepsMeet_congr (Running boot) (fun _ _ running => running.keepsRunning_iff distinct)
    (fun _ _ running harmless => running.turn distinct harmless) fun _ => ⟨rfl, rfl⟩

theorem shortPlatform_distinct (slot : AppPartitionSubType) : shortPlatform.nextPartition slot ≠ slot := by
  cases slot with
  | factory => decide
  | ota index =>
    revert index
    decide

def firstBoot : OtaTask where
  device := runningFirstSlot
  flashBuffer := List.replicate flashChunkSize 0
  rebooting := false

/-- Only this call fails, at once. -/
def Faults.only (call : Call) : Faults where
  withStorage := fun _ => .none
  fails := fun other => if other = call then some 0 else .none
  flush := false

def shortConnection (faults : Faults) : Connection :=
  .accepted faults [.data shortUpdate] [.accepted 6]

/-- An upload whose erase fails, then one that breaks off, then the whole image. -/
theorem running_slot_kept_short :
    StepsMeet (task shortPlatform) (KeepsRunning shortPlatform firstBoot) firstBoot
      [shortConnection (.only .erase), .accepted .none [.data (shortUpdate.take 78)] [.accepted 6],
        .failed, shortConnection .none] :=
  (running_slot_kept_iff shortPlatform shortPlatform_distinct firstBoot _).mpr
    ⟨fun _ => harmless_of_recorded rfl rfl, fun _ => harmless_of_recorded rfl rfl, trivial,
      fun _ => harmless_of_recorded rfl rfl, trivial⟩

/-- The state of the activated image cannot be recorded: the upload is rejected
with the other slot selected, and the next one erases the running slot. -/
theorem unrecorded_upload_moves_selection :
    let rejected := task shortPlatform firstBoot (shortConnection (.only .setCurrentOtaState))
    rejected.rebooting = false ∧
      firstBoot.device.selected = .ota 0 ∧ rejected.device.selected = .ota 1 ∧
      ∃ running, findApp partitions (.ota 0) = some running ∧
        ∃ op ∈ (task shortPlatform rejected (shortConnection .none)).device.operations.drop
            rejected.device.operations.length,
          op.Touches running := by
  refine ⟨by decide +kernel, rfl, by decide +kernel, _, rfl, .erase 0x500000 4096, ?_, ?_⟩
  · decide +kernel
  · decide

end EnergyDisplay.Ota

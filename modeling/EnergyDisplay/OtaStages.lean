import Mathlib.Data.List.Basic
import EnergyDisplay.Ota

/-! The stages of an upload: nothing changed, a target selected, its partition
erased and written front to back, the image activated. Each function has one
specification of how far it came, for both endings; when it ends in an error
the specification also says which demand of the upload was not met. -/
namespace EnergyDisplay.Ota

open Fallible

/-! ## The socket -/

/-- The bytes a socket delivers before it fails or closes. -/
def delivered : List SocketRead → List UInt8
  | [] => []
  | .failed :: _ => []
  | .data [] :: _ => []
  | .data (byte :: bytes) :: rest => byte :: bytes ++ delivered rest

theorem delivered_data {bytes : List UInt8} {rest : List SocketRead} (some_ : bytes ≠ []) :
    delivered (.data bytes :: rest) = bytes ++ delivered rest := by
  cases bytes with
  | nil => exact absurd rfl some_
  | cons byte bytes => rfl

/-- However the socket fragments the stream, a read takes the next bytes of it;
it fails only where the stream is too short. -/
theorem readAll_spec (length : ℕ) (reads : List SocketRead) :
    match readAll length reads with
    | (none, received, left) =>
      received.length = length ∧ delivered reads = received ++ delivered left
    | (some _, _, _) => (delivered reads).length < length := by
  fun_induction readAll length reads with
  | case1 reads => simp
  | case2 length => simp [delivered]
  | case3 length rest => simp [delivered]
  | case4 length rest => simp [delivered]
  | case5 length byte bytes rest received fits outcome more left again ih =>
    rw [again] at ih
    cases outcome with
    | none =>
      obtain ⟨taken, stream⟩ := ih
      refine ⟨?_, by simp [received, delivered, stream]⟩
      rw [List.length_append, taken]
      omega
    | some error =>
      have whole : received.length = (byte :: bytes).length := rfl
      rw [delivered_data (List.cons_ne_nil _ _), List.length_append]
      omega
  | case6 length byte bytes rest received longer =>
    have behind : received.drop (length + 1) ≠ [] := by
      intro nothing
      exact longer (List.drop_eq_nil_iff.mp nothing)
    refine ⟨by rw [List.length_take]; omega, ?_⟩
    rw [delivered_data (List.cons_ne_nil _ _), delivered_data behind, ← List.append_assoc,
      List.take_append_drop]

variable {platform : Platform} {faults : Faults} {state : Upload}

theorem ends_reject {α : Type} {error : UpdateError} {post : α → Upload → Prop}
    {fail : Abort → Upload → Prop} :
    Ends (reject error : Step α) state post fail ↔ fail (.rejected error) state := Iff.rfl

theorem ends_onDevice {change : Device → Device} {post : Unit → Upload → Prop}
    {fail : Abort → Upload → Prop} :
    Ends (onDevice change) state post fail ↔
      post () { state with device := change state.device } := Iff.rfl

theorem ends_inU32 {value : ℕ} {post : Unit → Upload → Prop} {fail : Abort → Upload → Prop}
    (small : value < u32Limit) : Ends (inU32 value) state post fail ↔ post () state := by
  simp [inU32, small]

theorem ends_check {call : Call} {error : UpdateError} {post : Unit → Upload → Prop}
    {fail : Abort → Upload → Prop} :
    Ends (check faults call error) state post fail ↔
      (faults.fails call ≠ none → fail (.rejected error) state) ∧
        (faults.fails call = none → post () state) := by
  cases failing : faults.fails call <;> simp [check, failing, ends_reject]

theorem ends_withFlash {α : Type} {part : Section} {operation : Step α} {post : α → Upload → Prop}
    {fail : Abort → Upload → Prop}
    (rejected : faults.withStorage part ≠ none → ∀ error, fail (.rejected error) state)
    (ends : faults.withStorage part = none → Ends operation state post fail) :
    Ends (withFlash faults part operation) state post fail := by
  unfold withFlash
  split
  · next unavailable => exact rejected (by simp [unavailable]) _
  · next busy => exact rejected (by simp [busy]) _
  · next available => exact ends available

/-- A read fills the front of its buffer from the stream; where the stream is too
short it is rejected with part of it filled. -/
theorem ends_readExact (length : ℕ) (store : List UInt8 → Upload → Upload) :
    Ends (readExact length store) state
      (fun _ after => ∃ received left, received.length = length ∧
        delivered state.reads = received ++ delivered left ∧
        after = store received { state with reads := left })
      (fun abort after => (∃ error, abort = .rejected error) ∧
        (delivered state.reads).length < length ∧
        ∃ received left, after = store received { state with reads := left }) := by
  simp only [readExact, ends_bind, ends_get, ends_modify]
  have spec := readAll_spec length state.reads
  rcases read : readAll length state.reads with ⟨outcome, received, left⟩
  rw [read] at spec
  cases outcome with
  | none =>
    obtain ⟨taken, stream⟩ := spec
    exact ⟨received, left, taken, stream, rfl⟩
  | some error => exact ⟨⟨error, rfl⟩, spec, received, left, rfl⟩

/-- `READY` reaches the uploader. -/
def Announces (faults : Faults) (writes : List SocketWrite) : Prop :=
  (writeAll 6 writes).1 = none ∧ faults.flush = false

/-- Talking to the uploader leaves the device, the stream and the header. -/
theorem ends_sendReady :
    Ends (sendReady faults) state
      (fun _ after => Announces faults state.writes ∧ ∃ writes, after = { state with writes := writes })
      (fun abort after => (∃ error, abort = .rejected error) ∧ ¬ Announces faults state.writes ∧
        ∃ writes, after = { state with writes := writes }) := by
  simp only [sendReady, ends_bind, ends_get, ends_modify]
  cases sent : writeAll 6 state.writes with
  | mk outcome writes =>
    cases outcome with
    | some error => exact ⟨⟨error, rfl⟩, by simp [Announces, sent], writes, rfl⟩
    | none =>
      dsimp only
      split
      · next unflushed => exact ⟨⟨.network, rfl⟩, by simp [Announces, unflushed], writes, rfl⟩
      · next flushed => exact ⟨⟨by rw [sent], by simpa using flushed⟩, writes, rfl⟩

/-! ## The stream of an upload -/

/-- `header`, as far as the stream goes. -/
def headerOf (stream : List UInt8) : List UInt8 := stream.take headerSize

def imageSizeOf (stream : List UInt8) : ℕ := fromLeBytes (((headerOf stream).drop 8).take 4)

def imageOf (stream : List UInt8) : List UInt8 := (stream.drop headerSize).take (imageSizeOf stream)

/-- The header is complete, carries the magic and a size, and its mac fits. -/
structure Accepted (platform : Platform) (stream : List UInt8) : Prop where
  complete : (headerOf stream).length = headerSize
  magic : (headerOf stream).take magic.length = magic
  sized : imageSizeOf stream ≠ 0
  aligned : 4 ∣ imageSizeOf stream
  authentic : platform.hmac platform.password ((headerOf stream).take macOffset) =
    (headerOf stream).drop macOffset

/-- The header is accepted, the whole image follows, and it is the one the
header announces. -/
structure Genuine (platform : Platform) (stream : List UInt8) : Prop extends Accepted platform stream where
  received : (imageOf stream).length = imageSizeOf stream
  first : (imageOf stream).head? = some 0xe9
  digest : platform.sha256 (imageOf stream) =
    ((headerOf stream).drop digestOffset).take (macOffset - digestOffset)

/-! ## The calls of an upload -/

/-- `prepare_target` gets to ask for the selected partition. -/
structure Opens (faults : Faults) (device : Device) : Prop where
  storage : faults.withStorage .prepareTarget = none
  plain : device.flashEncryption = false
  opened : faults.fails (.openUpdater .prepareTarget) = none

/-- The calls of `prepare_target` succeed; OTA data are reset only where they
cannot be read. -/
structure Prepares (faults : Faults) (device : Device) : Prop extends Opens faults device where
  selected : faults.fails .selectedPartition = none ∨ faults.fails .resetData = none
  next : faults.fails (.nextPartition .prepareTarget) = none
  erased : faults.fails .erase = none
  table : faults.fails (.readPartitionTable .prepareTarget) = none

/-- The calls of `write_chunk` succeed. -/
structure Writes (faults : Faults) (written : ℕ) : Prop where
  storage : faults.withStorage (.writeChunk written) = none
  write : faults.fails (.writeNor written) = none

/-- The calls of `validate_and_activate` succeed, but for the last. -/
structure Activates (faults : Faults) : Prop where
  storage : faults.withStorage .validateAndActivate = none
  table : faults.fails (.readPartitionTable .validateAndActivate) = none
  hash : faults.fails .sha256 = none
  opened : faults.fails (.openUpdater .validateAndActivate) = none
  next : faults.fails (.nextPartition .validateAndActivate) = none
  activated : faults.fails .activateNextPartition = none

/-- Nothing fails before the image is activated. -/
structure Undisturbed (faults : Faults) (start : Upload) : Prop where
  prepares : Prepares faults start.device
  announces : Announces faults start.writes
  writes : ∀ written, flashChunkSize ∣ written → written < imageSizeOf (delivered start.reads) →
    Writes faults written
  activates : Activates faults

/-! ## Stages of an upload -/

/-- The device once the partition library knows which slot is selected: OTA data
that cannot be read are reset. -/
def prepared (platform : Platform) (faults : Faults) (device : Device) : Device :=
  if (faults.fails .selectedPartition).isSome then
    { device with
      selected :=
        if (faults.fails .resetData).isSome then device.selected else platform.resetPartition
      operations := device.operations ++ [.resetData] }
  else device

/-- The slot an upload goes to. -/
def targetSlot (platform : Platform) (faults : Faults) (device : Device) : AppPartitionSubType :=
  platform.nextPartition (prepared platform faults device).selected

/-- Writing chunks one behind the other. -/
def writeOps : ℕ → List (List UInt8) → List FlashOp
  | _, [] => []
  | offset, chunk :: rest => .writeNor offset chunk :: writeOps (offset + chunk.length) rest

/-- Since `base`, a partition was erased and the chunks were written to it. -/
structure Writing (base : Device) (partition : PartitionEntry) (imageSize : ℕ)
    (chunks : List (List UInt8)) (device : Device) : Prop where
  table : device.table = base.table
  selected : device.selected = base.selected
  operations : device.operations =
    base.operations ++ .erase partition.offset (eraseEnd imageSize) :: writeOps partition.offset chunks
  aligned : ∀ chunk ∈ chunks, 4 ∣ chunk.length
  within : chunks.flatten.length ≤ imageSize
  fits : imageSize ≤ partition.len

/-- The target partition exists and an image of this size fits. -/
def Fits (platform : Platform) (faults : Faults) (device : Device) (imageSize : ℕ) : Prop :=
  ∃ partition, findApp device.table (targetSlot platform faults device) = some partition ∧
    imageSize ≤ partition.len

/-- How far an upload of `imageSize` bytes came without activating it. -/
inductive Stage (platform : Platform) (faults : Faults) (device : Device) (imageSize : ℕ) :
    Device → Prop where
  | unchanged (closed : ¬ Opens faults device) : Stage platform faults device imageSize device
  | prepared (opens : Opens faults device) :
    Stage platform faults device imageSize (prepared platform faults device)
  | writing {after : Device} (opens : Opens faults device) (partition : PartitionEntry)
    (chunks : List (List UInt8))
    (target : findApp device.table (targetSlot platform faults device) = some partition)
    (writing : Writing (Ota.prepared platform faults device) partition imageSize chunks after) :
    Stage platform faults device imageSize after

@[simp] theorem prepared_table (device : Device) :
    (prepared platform faults device).table = device.table := by
  unfold prepared
  split <;> rfl

theorem writeOps_append (offset : ℕ) (chunks : List (List UInt8)) (chunk : List UInt8) :
    writeOps offset (chunks ++ [chunk]) =
      writeOps offset chunks ++ [.writeNor (offset + chunks.flatten.length) chunk] := by
  induction chunks generalizing offset with
  | nil => simp [writeOps]
  | cons first rest ih => simp [writeOps, ih, Nat.add_assoc]

theorem eraseEnd_le {imageSize : ℕ} {partition : PartitionEntry} (fits : imageSize ≤ partition.len) :
    eraseEnd imageSize ≤ partition.len := by
  obtain ⟨sectors, len⟩ := partition.len_aligned
  rw [len] at fits ⊢
  simp only [eraseEnd, sectorSize] at *
  omega

theorem le_eraseEnd (imageSize : ℕ) : imageSize ≤ eraseEnd imageSize := by
  simp only [eraseEnd, sectorSize]
  omega

/-! ## Preparing the target -/

theorem ends_nextPartition {part : Section} :
    Ends (nextPartition platform faults part) state
      (fun result after => faults.fails (.nextPartition part) = none ∧ after = state ∧
        findApp state.device.table (platform.nextPartition state.device.selected) = some result.1 ∧
        result.2 = platform.nextPartition state.device.selected)
      (fun abort after => (∃ error, abort = .rejected error) ∧ after = state ∧
        (faults.fails (.nextPartition part) = none →
          findApp state.device.table (platform.nextPartition state.device.selected) = none)) := by
  rw [nextPartition, ends_bind, ends_check]
  refine ⟨fun fault => ⟨⟨_, rfl⟩, rfl, fun succeeds => absurd succeeds fault⟩, ?_⟩
  intro succeeds
  rw [ends_bind, ends_get]
  cases found : findApp state.device.table (platform.nextPartition state.device.selected) with
  | some region =>
    dsimp only
    rw [found]
    exact ⟨succeeds, rfl, rfl, rfl⟩
  | none =>
    dsimp only
    rw [found]
    exact ⟨⟨.partition, rfl⟩, rfl, fun _ => rfl⟩

theorem ends_ensureSelected :
    Ends (ensureSelected platform faults) state
      (fun _ after => (faults.fails .selectedPartition = none ∨ faults.fails .resetData = none) ∧
        after = { state with device := prepared platform faults state.device })
      (fun abort after => (∃ error, abort = .rejected error) ∧
        ¬ (faults.fails .selectedPartition = none ∨ faults.fails .resetData = none) ∧
        after = { state with device := prepared platform faults state.device }) := by
  rw [ensureSelected, ends_ite]
  refine ⟨fun unread => ?_, fun read => ?_⟩
  · have unread' : faults.fails .selectedPartition ≠ none := Option.isSome_iff_ne_none.mp unread
    rw [resetData, ends_bind, ends_onDevice, ends_check]
    refine ⟨fun fault => ⟨⟨_, rfl⟩, by simp [unread', fault], ?_⟩,
      fun succeeds => ⟨Or.inr succeeds, ?_⟩⟩
    · simp [prepared, unread]
    · simp [prepared, unread]
  · exact ⟨Or.inl (by simpa using read), by simp [prepared, read]⟩

/-- An erase within the partition erases it, or fails half way. -/
theorem ends_eraseRegion {region : PartitionEntry} {length : ℕ} (fits : length ≤ region.len) :
    Ends (eraseRegion faults region length) state
      (fun _ after => faults.fails .erase = none ∧ after = { state with device := { state.device with
        flash := state.device.flash.erase region.offset length
        operations := state.device.operations ++ [.erase region.offset length] } })
      (fun abort after => (∃ error, abort = .rejected error) ∧ faults.fails .erase ≠ none ∧ ∃ flash,
        after = { state with device := { state.device with
          flash := flash
          operations := state.device.operations ++ [.erase region.offset length] } }) := by
  rw [eraseRegion, if_neg (not_lt.mpr fits), ends_bind, ends_onDevice, ends_check]
  refine ⟨fun fault => ⟨⟨_, rfl⟩, fault, _, rfl⟩, fun succeeds => ⟨succeeds, ?_⟩⟩
  simp [succeeds]

theorem ends_prepareTarget (imageSize : ℕ) :
    Ends (prepareTarget platform faults imageSize) state
      (fun target after => Prepares faults state.device ∧ ∃ partition,
        findApp state.device.table (targetSlot platform faults state.device) = some partition ∧
        target = ⟨partition.offset, partition.len, targetSlot platform faults state.device⟩ ∧
        after = { state with device := after.device } ∧
        Writing (prepared platform faults state.device) partition imageSize [] after.device ∧
        after.device.flash.Erased partition.offset (partition.offset + eraseEnd imageSize))
      (fun abort after => abort ≠ .overflow ∧
        ¬ (Prepares faults state.device ∧ Fits platform faults state.device imageSize) ∧
        Stage platform faults state.device imageSize after.device) := by
  unfold prepareTarget
  refine ends_withFlash (fun fault error => ?_) fun storage => ?_
  · exact ⟨by simp, fun demand => fault demand.1.storage, .unchanged fun opens => fault opens.storage⟩
  rw [ends_bind, ends_get, ends_ite]
  refine ⟨fun encrypted => ?_, fun plain => ?_⟩
  · have encrypted : ¬ state.device.flashEncryption = false := by simp [encrypted]
    exact ⟨by simp, fun demand => encrypted demand.1.plain,
      .unchanged fun opens => encrypted opens.plain⟩
  rw [ends_bind, ends_check]
  refine ⟨fun fault => ?_, fun opened => ?_⟩
  · exact ⟨by simp, fun demand => fault demand.1.opened, .unchanged fun opens => fault opens.opened⟩
  have opens : Opens faults state.device := ⟨storage, by simpa using plain, opened⟩
  rw [ends_bind]
  refine ends_ensureSelected.mono ?_ ?_
  swap
  · rintro _ _ ⟨⟨error, rfl⟩, fault, rfl⟩
    exact ⟨by simp, fun demand => fault demand.1.selected, .prepared opens⟩
  rintro _ _ ⟨selected, rfl⟩
  rw [ends_bind]
  refine ends_nextPartition.mono ?_ ?_
  swap
  · rintro _ _ ⟨⟨error, rfl⟩, rfl, missing⟩
    refine ⟨by simp, ?_, .prepared opens⟩
    rintro ⟨prepares, partition, found, _⟩
    have := missing prepares.next
    rw [prepared_table, ← targetSlot, found] at this
    cases this
  rintro ⟨partition, subtype⟩ _ ⟨next, rfl, found, rfl⟩
  rw [prepared_table, ← targetSlot] at found
  dsimp only
  rw [ends_ite]
  refine ⟨fun larger => ⟨by simp, ?_, .prepared opens⟩, fun fits => ?_⟩
  · rintro ⟨_, target, found', fits⟩
    rw [found] at found'
    cases found'
    exact absurd larger (not_lt.mpr fits)
  have fits : imageSize ≤ partition.len := not_lt.mp fits
  have small : eraseEnd imageSize < u32Limit := by
    have := eraseEnd_le fits
    have := partition.in_flash
    omega
  rw [ends_bind, ends_inU32 small, ends_bind]
  have erasing : ∀ flash, Writing (prepared platform faults state.device) partition imageSize []
      { prepared platform faults state.device with
        flash := flash
        operations := (prepared platform faults state.device).operations ++
          [.erase partition.offset (eraseEnd imageSize)] } :=
    fun flash => ⟨rfl, rfl, rfl, by simp, by simp, fits⟩
  refine (ends_eraseRegion (eraseEnd_le fits)).mono ?_ ?_
  swap
  · rintro _ _ ⟨⟨error, rfl⟩, fault, flash, rfl⟩
    exact ⟨by simp, fun demand => fault demand.1.erased,
      .writing opens partition [] found (erasing flash)⟩
  rintro _ _ ⟨erased, rfl⟩
  rw [ends_bind, ends_check]
  refine ⟨fun fault => ?_, fun table => ?_⟩
  · exact ⟨by simp, fun demand => fault demand.1.table,
      .writing opens partition [] found (erasing _)⟩
  have again : findApp (prepared platform faults state.device).table
      (targetSlot platform faults state.device) = some partition := by
    rw [prepared_table]
    exact found
  rw [ends_bind, ends_get]
  dsimp only
  rw [← targetSlot, again]
  exact ⟨⟨opens, selected, next, erased, table⟩,
    partition, found, rfl, rfl, erasing _, NorFlash.erased_erase⟩

/-! ## Receiving the image -/

/-- The loop invariant: the chunks taken from the stream so far are in the
flash, in the hash and nowhere else; behind them the partition is erased. -/
structure Receiving (platform : Platform) (faults : Faults) (base : Device)
    (partition : PartitionEntry) (imageSize : ℕ) (chunks : List (List UInt8)) (stream : List UInt8)
    (hasher : platform.Hasher) (state : Upload) : Prop where
  cursor : chunks.flatten.length < imageSize → flashChunkSize ∣ chunks.flatten.length
  writes : ∀ written, flashChunkSize ∣ written → written < chunks.flatten.length → Writes faults written
  writing : Writing base partition imageSize chunks state.device
  held : state.device.flash.Holds partition.offset chunks.flatten
  erased : state.device.flash.Erased (partition.offset + chunks.flatten.length)
    (partition.offset + eraseEnd imageSize)
  stream : stream = chunks.flatten ++ delivered state.reads
  first : ∀ byte, chunks.flatten.head? = some byte → byte = 0xe9
  hasher : hasher = chunks.foldl platform.hasherUpdate platform.hasherNew

/-- A write that is issued belongs to the image, whether or not it succeeds. -/
theorem Writing.write {base device : Device} {partition : PartitionEntry} {imageSize : ℕ}
    {chunks : List (List UInt8)} {chunk : List UInt8} (writing : Writing base partition imageSize chunks device)
    (aligned : 4 ∣ chunk.length) (within : chunks.flatten.length + chunk.length ≤ imageSize)
    (flash : NorFlash) :
    Writing base partition imageSize (chunks ++ [chunk])
      { device with
        flash := flash
        operations := device.operations ++ [.writeNor (partition.offset + chunks.flatten.length) chunk] } where
  table := writing.table
  selected := writing.selected
  operations := by
    dsimp only
    rw [writing.operations, writeOps_append, List.append_assoc, List.cons_append]
  aligned := by
    rw [List.forall_mem_append]
    exact ⟨writing.aligned, by simpa using aligned⟩
  within := by simpa using within
  fits := writing.fits

theorem ends_writeChunk {written offset : ℕ} {chunk : List UInt8} :
    Ends (writeChunk faults written offset chunk) state
      (fun _ after => Writes faults written ∧ after = { state with device := { state.device with
        flash := state.device.flash.program offset chunk
        operations := state.device.operations ++ [.writeNor offset chunk] } })
      (fun abort after => (∃ error, abort = .rejected error) ∧ ¬ Writes faults written ∧
        (after = state ∨ ∃ flash,
        after = { state with device := { state.device with
          flash := flash
          operations := state.device.operations ++ [.writeNor offset chunk] } })) := by
  refine ends_withFlash (fun fault error => ?_) fun storage => ?_
  · exact ⟨⟨error, rfl⟩, fun writes => fault writes.storage, Or.inl rfl⟩
  rw [writeNor, ends_bind, ends_onDevice, ends_check]
  refine ⟨fun fault => ?_, fun succeeds => ⟨⟨storage, succeeds⟩, ?_⟩⟩
  · exact ⟨⟨_, rfl⟩, fun writes => fault writes.write, Or.inr ⟨_, rfl⟩⟩
  · simp [succeeds]

theorem flatten_aligned {chunks : List (List UInt8)} (aligned : ∀ chunk ∈ chunks, 4 ∣ chunk.length) :
    4 ∣ chunks.flatten.length := by
  induction chunks with
  | nil => simp
  | cons chunk rest ih =>
    obtain ⟨here, later⟩ := List.forall_mem_cons.mp aligned
    rw [List.flatten_cons, List.length_append]
    exact Nat.dvd_add here (ih later)

theorem fill_take {buffer received : List UInt8} {length : ℕ} (full : received.length = length) :
    (fill buffer received).take length = received := by
  rw [fill, ← full, List.take_left']
  rfl

theorem chunkLen_bounds {imageSize written chunkLen : ℕ} (sized : 4 ∣ imageSize) (aligned : 4 ∣ written)
    (more : written < imageSize) (cut : min flashChunkSize (imageSize - written) = chunkLen) :
    0 < chunkLen ∧ 4 ∣ chunkLen ∧ written + chunkLen ≤ imageSize := by
  simp only [flashChunkSize] at cut
  omega

/-- A chunk taken from the stream and written keeps the invariant. -/
theorem Receiving.write {base : Device} {partition : PartitionEntry} {imageSize : ℕ}
    {chunks : List (List UInt8)} {stream chunk : List UInt8} {left : List SocketRead}
    {hasher : platform.Hasher}
    (receiving : Receiving platform faults base partition imageSize chunks stream hasher state)
    (sized : 4 ∣ imageSize) (more : chunks.flatten.length < imageSize)
    (cut : min flashChunkSize (imageSize - chunks.flatten.length) = chunk.length)
    (writes : Writes faults chunks.flatten.length)
    (taken : delivered state.reads = chunk ++ delivered left)
    (first : chunks.flatten.length = 0 → chunk.head? = some 0xe9) (buffer : List UInt8) :
    Receiving platform faults base partition imageSize (chunks ++ [chunk]) stream
      (platform.hasherUpdate hasher chunk)
      { state with
        reads := left
        buffer := buffer
        device := { state.device with
          flash := state.device.flash.program (partition.offset + chunks.flatten.length) chunk
          operations := state.device.operations ++
            [.writeNor (partition.offset + chunks.flatten.length) chunk] } } where
  cursor := by
    have cursor := receiving.cursor more
    rw [List.flatten_concat, List.length_append]
    simp only [flashChunkSize] at cut cursor ⊢
    omega
  writes := by
    intro written start below
    by_cases old : written < chunks.flatten.length
    · exact receiving.writes written start old
    · have cursor := receiving.cursor more
      have here : written = chunks.flatten.length := by
        rw [List.flatten_concat, List.length_append] at below
        simp only [flashChunkSize] at cut cursor start
        omega
      rw [here]
      exact writes
  writing := by
    obtain ⟨_, aligned, within⟩ :=
      chunkLen_bounds sized (flatten_aligned receiving.writing.aligned) more cut
    exact receiving.writing.write aligned within _
  held := by
    rw [List.flatten_concat]
    have := le_eraseEnd imageSize
    simp only [flashChunkSize] at cut
    exact receiving.held.program receiving.erased (by omega)
  erased := by
    rw [List.flatten_concat, List.length_append, ← Nat.add_assoc]
    exact receiving.erased.program
  stream := by
    rw [List.flatten_concat, List.append_assoc, ← taken]
    exact receiving.stream
  first := by
    intro byte head
    rw [List.flatten_concat] at head
    by_cases nothing : chunks.flatten = []
    · rw [nothing, List.nil_append, first (by simp [nothing])] at head
      exact (Option.some.inj head).symm
    · rw [List.head?_append_of_ne_nil _ nothing] at head
      exact receiving.first byte head
  hasher := by
    rw [receiving.hasher, List.foldl_concat]

theorem transferError_rejected {written : ℕ} {error : UpdateError} :
    transferError written (.rejected error) ≠ .overflow := by
  cases error <;> simp [transferError]

/-- What the loop demands of the stream behind the header and of its writes. -/
structure Receivable (faults : Faults) (imageSize : ℕ) (stream : List UInt8) : Prop where
  complete : imageSize ≤ stream.length
  first : stream.head? = some 0xe9
  writes : ∀ written, flashChunkSize ∣ written → written < imageSize → Writes faults written

/-- The loop: it ends with the whole image received, or is rejected with a part
of it written. -/
theorem ends_receiveChunks {base : Device} {partition : PartitionEntry} {imageSize : ℕ}
    {stream : List UInt8} {target : Target} (sized : 4 ∣ imageSize)
    (offset : target.offset = partition.offset) {chunks : List (List UInt8)} {hasher : platform.Hasher}
    (receiving : Receiving platform faults base partition imageSize chunks stream hasher state) :
    Ends (receiveChunks platform faults target imageSize chunks.flatten.length hasher) state
      (fun result after => ∃ chunks,
        Receiving platform faults base partition imageSize chunks stream result after ∧
        chunks.flatten.length = imageSize)
      (fun abort after => abort ≠ .overflow ∧ ¬ Receivable faults imageSize stream ∧
        ∃ chunks, Writing base partition imageSize chunks after.device) := by
  generalize remaining : imageSize - chunks.flatten.length = left
  induction left using Nat.strong_induction_on generalizing chunks hasher state with
  | _ left ih =>
    have writing := receiving.writing
    unfold receiveChunks
    split
    · next more =>
      obtain ⟨chunkLen, cut⟩ :
          ∃ chunkLen, min flashChunkSize (imageSize - chunks.flatten.length) = chunkLen := ⟨_, rfl⟩
      obtain ⟨some_, aligned, within⟩ :=
        chunkLen_bounds sized (flatten_aligned writing.aligned) more cut
      dsimp only
      rw [cut, ends_bind, ends_mapError, readChunk]
      refine (ends_readExact chunkLen _).mono ?_ ?_
      swap
      · rintro _ _ ⟨⟨error, rfl⟩, short, received, left, rfl⟩
        refine ⟨transferError_rejected, fun receivable => ?_, chunks, writing⟩
        have complete := receivable.complete
        rw [receiving.stream, List.length_append] at complete
        omega
      rintro _ _ ⟨chunk, left, full, stream, rfl⟩
      have some_ : chunk ≠ [] := List.ne_nil_of_length_pos (full ▸ some_)
      rw [ends_bind, ends_get, ends_ite, fill_take full, fill, List.head?_append_of_ne_nil _ some_]
      refine ⟨fun wrong => ⟨by simp, fun receivable => ?_, chunks, writing⟩, fun first => ?_⟩
      · have first := receivable.first
        rw [receiving.stream, List.length_eq_zero_iff.mp wrong.1, stream, List.nil_append,
          List.head?_append_of_ne_nil _ some_] at first
        exact wrong.2 first
      have inside := writing.fits
      have below := partition.in_flash
      rw [ends_bind, ends_inU32 (by omega), ends_bind]
      refine ends_writeChunk.mono ?_ ?_
      swap
      · rintro _ _ ⟨⟨error, rfl⟩, fault, stopped⟩
        refine ⟨by simp, fun receivable => ?_, ?_⟩
        · exact fault (receivable.writes _ (receiving.cursor more) more)
        · obtain rfl | ⟨flash, rfl⟩ := stopped
          · exact ⟨chunks, writing⟩
          · rw [offset]
            exact ⟨_, writing.write (full ▸ aligned) (full ▸ within) flash⟩
      rintro _ _ ⟨writes, rfl⟩
      rw [ends_bind, ends_inU32 (by omega)]
      have taken : chunks.flatten.length + chunkLen = (chunks ++ [chunk]).flatten.length := by
        simp [full]
      rw [taken, offset]
      refine ih _ (by omega) (receiving.write sized more (full ▸ cut) writes stream ?_ _) rfl
      exact not_and_not_right.mp first
    · next done =>
      exact ⟨chunks, receiving, le_antisymm writing.within (not_lt.mp done)⟩

/-! ## Activating the image -/

/-- The activation was called: the OTA data change, nothing else. -/
structure Activating (platform : Platform) (faults : Faults) (before after : Device) : Prop where
  flash : after.flash = before.flash
  table : after.table = before.table
  selected : after.selected =
    if (faults.fails .activateNextPartition).isSome then before.selected
    else platform.nextPartition before.selected
  operations : ∃ states, (∀ op ∈ states, op = .setCurrentOtaState .new) ∧
    after.operations = before.operations ++ .activateNextPartition :: states

/-- With the target where it was, it is rejected before it touches anything, or
in one of its two calls. -/
theorem ends_validateAndActivate {target : Target} {partition : PartitionEntry}
    (found : findApp state.device.table target.subtype = some partition)
    (offset : partition.offset = target.offset) (size : partition.len = target.size)
    (next : platform.nextPartition state.device.selected = target.subtype) :
    Ends (validateAndActivate platform faults target) state
      (fun _ after => after = { state with device := after.device } ∧ Activates faults ∧
        faults.fails .setCurrentOtaState = none ∧
        Activating platform faults state.device after.device)
      (fun abort after => abort ≠ .overflow ∧ after = { state with device := after.device } ∧
        (after = state ∧ ¬ Activates faults ∨
          Activating platform faults state.device after.device ∧
            (faults.fails .activateNextPartition ≠ none ∨
              Activates faults ∧ faults.fails .setCurrentOtaState ≠ none))) := by
  refine ends_withFlash (fun fault error => ?_) fun storage => ?_
  · exact ⟨by simp, rfl, Or.inl ⟨rfl, fun demand => fault demand.storage⟩⟩
  rw [ends_bind, ends_check]
  refine ⟨fun fault => ⟨by simp, rfl, Or.inl ⟨rfl, fun demand => fault demand.table⟩⟩, ?_⟩
  intro table
  rw [ends_bind, ends_get, found]
  dsimp only
  rw [if_neg (by simp [offset, size]), ends_bind, ends_check]
  refine ⟨fun fault => ⟨by simp, rfl, Or.inl ⟨rfl, fun demand => fault demand.hash⟩⟩, ?_⟩
  intro hash
  rw [ends_bind, ends_check]
  refine ⟨fun fault => ⟨by simp, rfl, Or.inl ⟨rfl, fun demand => fault demand.opened⟩⟩,
    fun opened => ?_⟩
  rw [ends_bind]
  refine ends_nextPartition.mono ?_ ?_
  swap
  · rintro _ _ ⟨⟨error, rfl⟩, rfl, missing⟩
    refine ⟨by simp, rfl, Or.inl ⟨rfl, fun demand => ?_⟩⟩
    have := missing demand.next
    rw [next, found] at this
    cases this
  rintro ⟨region, subtype⟩ _ ⟨again, rfl, _, rfl⟩
  dsimp only
  rw [if_neg (not_not.mpr next), ends_bind, activateNextPartition, ends_bind, ends_onDevice, ends_check]
  refine ⟨fun refused => ⟨by simp, rfl, Or.inr ⟨?_, Or.inl refused⟩⟩, fun activated => ?_⟩
  · exact ⟨rfl, rfl, rfl, [], by simp, rfl⟩
  have activates : Activates faults := ⟨storage, table, hash, opened, again, activated⟩
  rw [setCurrentOtaState, ends_bind, ends_onDevice, ends_check]
  have states : ∀ op ∈ [FlashOp.setCurrentOtaState .new], op = .setCurrentOtaState .new := by simp
  refine ⟨fun unrecorded => ⟨by simp, rfl, Or.inr ⟨?_, Or.inr ⟨activates, unrecorded⟩⟩⟩,
    fun recorded => ?_⟩
  · exact ⟨rfl, rfl, rfl, _, states, List.append_assoc ..⟩
  · exact ⟨rfl, activates, recorded, rfl, rfl, rfl, _, states, List.append_assoc ..⟩

/-! ## The whole upload -/

/-- The demands of an upload up to its activation: the stream is genuine, the
image fits, and no call fails. -/
structure Activatable (platform : Platform) (faults : Faults) (start : Upload) : Prop where
  genuine : Genuine platform (delivered start.reads)
  undisturbed : Undisturbed faults start
  fits : Fits platform faults start.device (imageSizeOf (delivered start.reads))

theorem Activatable.receivable {start : Upload} (activatable : Activatable platform faults start) :
    Receivable faults (imageSizeOf (delivered start.reads)) ((delivered start.reads).drop headerSize) := by
  obtain ⟨genuine, undisturbed, _⟩ := activatable
  have received := genuine.received
  have first := genuine.first
  rw [imageOf, List.length_take] at received
  rw [imageOf, List.head?_take, if_neg genuine.sized] at first
  exact ⟨by omega, first, undisturbed.writes⟩

/-- What was received is the image of the stream. -/
theorem Receiving.image {base : Device} {partition : PartitionEntry} {chunks : List (List UInt8)}
    {stream : List UInt8} {hasher : platform.Hasher}
    (receiving : Receiving platform faults base partition (imageSizeOf stream) chunks
      (stream.drop headerSize) hasher state)
    (whole : chunks.flatten.length = imageSizeOf stream) : imageOf stream = chunks.flatten := by
  rw [imageOf, receiving.stream, List.take_left' whole]

/-- The hash of what was received is that of the image. -/
theorem Receiving.digest {base : Device} {partition : PartitionEntry} {chunks : List (List UInt8)}
    {stream : List UInt8} {hasher : platform.Hasher}
    (receiving : Receiving platform faults base partition (imageSizeOf stream) chunks
      (stream.drop headerSize) hasher state)
    (whole : chunks.flatten.length = imageSizeOf stream) :
    platform.hasherFinalize hasher = platform.sha256 (imageOf stream) := by
  rw [receiving.hasher, platform.hasher_contract, receiving.image whole]

/-- A whole image with the announced digest makes the stream genuine. -/
theorem Receiving.genuine {base : Device} {partition : PartitionEntry} {chunks : List (List UInt8)}
    {stream : List UInt8} {hasher : platform.Hasher}
    (receiving : Receiving platform faults base partition (imageSizeOf stream) chunks
      (stream.drop headerSize) hasher state)
    (whole : chunks.flatten.length = imageSizeOf stream) (accepted : Accepted platform stream)
    (digest : platform.sha256 (imageOf stream) =
      ((headerOf stream).drop digestOffset).take (macOffset - digestOffset)) :
    Genuine platform stream := by
  have image := receiving.image whole
  refine ⟨accepted, by rw [image, whole], ?_, digest⟩
  have some_ : chunks.flatten ≠ [] :=
    List.ne_nil_of_length_pos (whole ▸ Nat.pos_of_ne_zero accepted.sized)
  rw [image, List.head?_eq_some_head some_, receiving.first _ (List.head?_eq_some_head some_)]

/-- The image of the stream is in the target partition, and the activation was
called on it. -/
structure Activated (platform : Platform) (faults : Faults) (start : Upload) (partition : PartitionEntry)
    (chunks : List (List UInt8)) (before : Device) (after : Upload) : Prop where
  genuine : Genuine platform (delivered start.reads)
  opens : Opens faults start.device
  taken : delivered after.reads =
    (delivered start.reads).drop (headerSize + imageSizeOf (delivered start.reads))
  target : findApp start.device.table (targetSlot platform faults start.device) = some partition
  writing : Writing (prepared platform faults start.device) partition
    (imageSizeOf (delivered start.reads)) chunks before
  held : before.flash.Holds partition.offset (imageOf (delivered start.reads))
  activating : Activating platform faults before after.device

/-- How an upload can end in an error. -/
inductive Rejected (platform : Platform) (faults : Faults) (start after : Upload) : Prop where
  | header (rejected : ¬ Accepted platform (delivered start.reads)) (untouched : after.device = start.device)
  | image (accepted : Accepted platform (delivered start.reads))
    (stage : Stage platform faults start.device (imageSizeOf (delivered start.reads)) after.device)
    (stopped : ¬ Activatable platform faults start)
  | activation (partition : PartitionEntry) (chunks : List (List UInt8)) (before : Device)
    (activated : Activated platform faults start partition chunks before after)
    (failing : faults.fails .activateNextPartition ≠ none ∨
      Activatable platform faults start ∧ faults.fails .setCurrentOtaState ≠ none)

/-- Behind an accepted header the image is installed, or the upload stops in a
stage. -/
theorem ends_receiveImage {start : Upload} (accepted : Accepted platform (delivered start.reads))
    (device : state.device = start.device) (unsent : state.writes = start.writes)
    (follows : delivered state.reads = (delivered start.reads).drop headerSize) :
    Ends (receiveImage platform faults (headerOf (delivered start.reads))
        (imageSizeOf (delivered start.reads))) state
      (fun _ after => Activatable platform faults start ∧ faults.fails .setCurrentOtaState = none ∧
        ∃ partition chunks before, Activated platform faults start partition chunks before after)
      (fun abort after => abort ≠ .overflow ∧ Rejected platform faults start after) := by
  rw [receiveImage, ends_bind]
  refine (ends_prepareTarget _).mono ?_ ?_
  swap
  · rintro _ _ ⟨nothing, fault, stage⟩
    rw [device] at fault stage
    exact ⟨nothing, .image accepted stage fun demand => fault ⟨demand.undisturbed.prepares, demand.fits⟩⟩
  rintro _ after ⟨prepares, partition, found, rfl, same, writing, erased⟩
  have unread : after.reads = state.reads := by rw [same]
  have unsent : after.writes = start.writes := by rw [same, ← unsent]
  rw [device] at prepares found writing
  have opens := prepares.toOpens
  rw [ends_bind]
  refine ends_sendReady.mono ?_ ?_
  swap
  · rintro _ _ ⟨⟨error, rfl⟩, fault, writes, rfl⟩
    rw [unsent] at fault
    exact ⟨by simp, .image accepted (.writing opens partition [] found writing)
      fun demand => fault demand.undisturbed.announces⟩
  rintro _ _ ⟨announces, writes, rfl⟩
  rw [unsent] at announces
  rw [ends_bind]
  have ready : Receiving platform faults (prepared platform faults start.device) partition
      (imageSizeOf (delivered start.reads)) [] ((delivered start.reads).drop headerSize)
      platform.hasherNew { after with writes := writes } :=
    ⟨by simp, by simp, writing, NorFlash.holds_nil, erased, by simp [unread, follows], by simp, rfl⟩
  refine (ends_receiveChunks accepted.aligned rfl ready).mono ?_ ?_
  swap
  · rintro _ _ ⟨nothing, fault, chunks, writing⟩
    exact ⟨nothing, .image accepted (.writing opens partition chunks found writing)
      fun demand => fault demand.receivable⟩
  rintro hasher received ⟨chunks, receiving, whole⟩
  have stage : Stage platform faults start.device (imageSizeOf (delivered start.reads)) received.device :=
    .writing opens partition chunks found receiving.writing
  rw [receiving.digest whole, ends_ite]
  refine ⟨fun wrong => ⟨by simp, .image accepted stage fun demand => wrong demand.genuine.digest⟩,
    fun digest => ?_⟩
  have genuine := receiving.genuine whole accepted (not_not.mp digest)
  have activatable : Activates faults → Activatable platform faults start := by
    intro activates
    refine ⟨genuine, ⟨prepares, announces, fun written begin_ below => ?_, activates⟩,
      partition, found, writing.fits⟩
    exact receiving.writes written begin_ (whole ▸ below)
  have activated : ∀ final : Upload, final = { received with device := final.device } →
      Activating platform faults received.device final.device →
      Activated platform faults start partition chunks received.device final := by
    intro final kept activating
    refine ⟨genuine, opens, ?_, found, receiving.writing, ?_, activating⟩
    · rw [kept, ← List.drop_drop, receiving.stream, List.drop_left' whole]
    · rw [receiving.image whole]
      exact receiving.held
  have there : findApp received.device.table (targetSlot platform faults state.device) = some partition := by
    rw [device, receiving.writing.table, prepared_table]
    exact found
  have next : platform.nextPartition received.device.selected = targetSlot platform faults state.device := by
    rw [device, receiving.writing.selected]
    rfl
  refine (ends_validateAndActivate there rfl rfl next).mono ?_ ?_
  · rintro _ final ⟨kept, activates, recorded, activating⟩
    exact ⟨activatable activates, recorded, partition, chunks, received.device,
      activated final kept activating⟩
  · rintro _ final ⟨nothing, kept, ⟨rfl, fault⟩ | ⟨activating, failing⟩⟩
    · exact ⟨nothing, .image accepted stage fun demand => fault demand.undisturbed.activates⟩
    · exact ⟨nothing, .activation partition chunks received.device (activated final kept activating)
        (failing.imp_right (And.imp_left activatable))⟩

/-- `receive_update` installs what the stream says, or stops in a stage. -/
theorem ends_receiveUpdate :
    Ends (receiveUpdate platform faults) state
      (fun _ after => Activatable platform faults state ∧ faults.fails .setCurrentOtaState = none ∧
        ∃ partition chunks before, Activated platform faults state partition chunks before after)
      (fun abort after => abort ≠ .overflow ∧ Rejected platform faults state after) := by
  rw [receiveUpdate, ends_bind, ends_modify, ends_bind, readHeader]
  refine (ends_readExact headerSize _).mono ?_ ?_
  swap
  · rintro _ _ ⟨⟨error, rfl⟩, short, received, left, rfl⟩
    refine ⟨by simp, .header (fun accepted => ?_) rfl⟩
    have complete := accepted.complete
    rw [headerOf, List.length_take] at complete
    dsimp only at short
    omega
  rintro _ _ ⟨header, left, full, shape, rfl⟩
  dsimp only at shape ⊢
  have complete : fill (List.replicate headerSize 0) header = headerOf (delivered state.reads) := by
    rw [fill, full, List.drop_replicate, headerOf, shape, List.take_left' full]
    simp
  rw [ends_bind, ends_get]
  dsimp only
  rw [complete, ends_ite]
  refine ⟨fun wrong => ⟨by simp, .header (fun accepted => wrong accepted.magic) rfl⟩, ?_⟩
  intro magic
  rw [← imageSizeOf, ends_ite]
  refine ⟨fun wrong => ⟨by simp, .header (fun accepted => ?_) rfl⟩, fun size => ?_⟩
  · exact wrong.elim accepted.sized (absurd accepted.aligned)
  rw [ends_ite]
  refine ⟨fun wrong => ⟨by simp, .header (fun accepted => wrong accepted.authentic) rfl⟩,
    fun authentic => ?_⟩
  obtain ⟨sized, aligned⟩ := not_or.mp size
  refine ends_receiveImage ?_ rfl rfl ?_
  · refine ⟨?_, not_not.mp magic, sized, not_not.mp aligned, not_not.mp authentic⟩
    rw [headerOf, shape, List.take_left' full, full]
  · rw [shape, List.drop_left' full]

/-- An upload is installed exactly if it meets every demand. -/
theorem installed_iff :
    (receiveUpdate platform faults state).1 = .ok () ↔
      Activatable platform faults state ∧ faults.fails .setCurrentOtaState = none := by
  rcases outcome : receiveUpdate platform faults state with ⟨result, after⟩
  cases result with
  | ok _ =>
    obtain ⟨activatable, recorded, _⟩ := ends_receiveUpdate.of_ok outcome
    simp [activatable, recorded]
  | error abort =>
    obtain ⟨_, rejected⟩ := ends_receiveUpdate.of_error outcome
    refine ⟨by simp, fun ⟨activatable, recorded⟩ => ?_⟩
    cases rejected with
    | header rejected _ => exact absurd activatable.genuine.toAccepted rejected
    | image _ _ stopped => exact absurd activatable stopped
    | activation _ _ _ _ failing =>
      obtain refused | ⟨_, unrecorded⟩ := failing
      · exact absurd activatable.undisturbed.activates.activated refused
      · exact absurd recorded unrecorded

end EnergyDisplay.Ota

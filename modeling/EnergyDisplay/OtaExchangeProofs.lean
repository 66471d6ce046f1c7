import EnergyDisplay.OtaExchange
import EnergyDisplay.OtaStages

/-! The device of the exchange is `receive_update`: cut at its socket operations
and fed fragment by fragment, it ends as `receive_update` does on the same
fragments. What a device has still to do is a program, its resumption, and a
move of the connection is one step of it. -/
namespace EnergyDisplay.Ota

open Duplex Fallible

variable {platform : Platform} {faults : Faults}

/-! ## Resumptions -/

/-- The rest of a read of which a part is there. -/
def readMore (got : List UInt8) (length : ℕ) (store : List UInt8 → Upload → Upload) : Step Unit := do
  let upload ← get
  let (outcome, received, reads) := readAll (length - got.length) upload.reads
  modify fun upload => store (got ++ received) { upload with reads := reads }
  match outcome with
  | none => pure ()
  | some error => reject error

/-- The rest of the announcement, flushed. -/
def announce (faults : Faults) (length : ℕ) : Step Unit := do
  let upload ← get
  let (outcome, writes) := writeAll length upload.writes
  modify fun upload => { upload with writes := writes }
  match outcome with
  | some error => reject error
  | none => flushReady faults

def resumeChunks (faults : Faults) (header : List UInt8) (imageSize : ℕ) (target : Target) (written : ℕ)
    (hasher : platform.Hasher) : Step Unit := do
  let hasher ← receiveChunks platform faults target imageSize written hasher
  finishImage platform faults header target hasher

/-- What `receive_update` has still to do. -/
def Phase.resume (faults : Faults) : Phase platform → Step Unit
  | .header got => do
    readMore got headerSize storeHeader
    let (bytes, imageSize, target) ← checkHeader platform faults
    announce faults readyLine.length
    resumeChunks faults bytes imageSize target 0 platform.hasherNew
  | .announcing pending bytes imageSize target => do
    announce faults pending.length
    resumeChunks faults bytes imageSize target 0 platform.hasherNew
  | .image bytes imageSize target written hasher got => do
    mapError (transferError written) (readMore got (chunkLen imageSize written) storeChunk)
    let hasher ← takeChunk platform faults target imageSize written hasher
    resumeChunks faults bytes imageSize target (written + chunkLen imageSize written) hasher
  | .answering _ result => fun upload => (result, upload)
  | .ended result => fun upload => (result, upload)

theorem resumeChunks_eq (header : List UInt8) (imageSize : ℕ) (target : Target) (written : ℕ)
    (hasher : platform.Hasher) :
    resumeChunks faults header imageSize target written hasher =
      if written < imageSize then (Phase.image header imageSize target written hasher []).resume faults
      else finishImage platform faults header target hasher := by
  by_cases more : written < imageSize
  · rw [if_pos more, resumeChunks, receiveChunks, dif_pos more]
    simp only [Phase.resume, takeChunk, resumeChunks, bind_assoc, ite_bind, reject, throw_bind, pure_bind]
    rfl
  · rw [if_neg more, resumeChunks, receiveChunks, dif_neg more, pure_bind]

theorem receiveUpdate_eq (upload : Upload) : receiveUpdate platform faults upload =
    (Phase.header [] : Phase platform).resume faults
      { upload with header := List.replicate headerSize 0 } := by
  have same : (do
      readHeader
      let upload ← get
      let header := upload.header
      if header.take magic.length ≠ magic then reject .invalidHeader
      else do
        let imageSize := fromLeBytes ((header.drop 8).take 4)
        if imageSize = 0 ∨ ¬ 4 ∣ imageSize then reject .invalidSize
        else if platform.hmac platform.password (header.take macOffset) ≠ header.drop macOffset then
          reject .authentication
        else receiveImage platform faults header imageSize : Step Unit) =
      (Phase.header [] : Phase platform).resume faults := by
    simp only [Phase.resume, checkHeader, bind_assoc, ite_bind, reject, throw_bind, pure_bind]
    rfl
  exact congrFun same _

/-! ## Between two socket operations -/

/-- The upload at another point of its socket. -/
def Upload.withSocket (reads : List SocketRead) (writes : List SocketWrite) (upload : Upload) : Upload :=
  { upload with reads := reads, writes := writes }

section Frames

variable {reads : List SocketRead} {writes : List SocketWrite}

theorem commutes_onDevice (change : Device → Device) :
    Commutes (Upload.withSocket reads writes) (onDevice change) :=
  commutes_modify fun _ => rfl

theorem commutes_inU32 (value : ℕ) : Commutes (Upload.withSocket reads writes) (inU32 value) :=
  commutes_ite (commutes_pure ()) (commutes_throw _)

theorem commutes_check (call : Call) (error : UpdateError) :
    Commutes (Upload.withSocket reads writes) (check faults call error) :=
  commutes_ite (commutes_throw _) (commutes_pure ())

theorem commutes_withFlash {α : Type} {operation : Step α} (part : Section)
    (commutes : Commutes (Upload.withSocket reads writes) operation) :
    Commutes (Upload.withSocket reads writes) (withFlash faults part operation) := by
  unfold withFlash
  split
  · exact commutes_throw _
  · exact commutes_throw _
  · exact commutes

theorem commutes_nextPartition (part : Section) :
    Commutes (Upload.withSocket reads writes) (nextPartition platform faults part) := by
  refine (commutes_check _ _).bind fun _ => commutes_get_bind (fun _ => rfl) ?_
  intro upload
  dsimp only
  split
  · exact commutes_pure _
  · exact commutes_throw _

theorem commutes_prepareTarget (imageSize : ℕ) :
    Commutes (Upload.withSocket reads writes) (prepareTarget platform faults imageSize) := by
  refine commutes_withFlash _ (commutes_get_bind (fun _ => rfl) fun upload =>
    commutes_ite (commutes_throw _) ((commutes_check _ _).bind fun _ => ?_))
  have ensures : Commutes (Upload.withSocket reads writes) (ensureSelected platform faults) :=
    commutes_ite ((commutes_onDevice _).bind fun _ => commutes_check _ _) (commutes_pure ())
  refine ensures.bind fun _ => (commutes_nextPartition _).bind fun (region, subtype) =>
    commutes_ite (commutes_throw _) ((commutes_inU32 _).bind fun _ => ?_)
  have erases : Commutes (Upload.withSocket reads writes)
      (eraseRegion faults region (eraseEnd imageSize)) :=
    commutes_ite (commutes_throw _) ((commutes_onDevice _).bind fun _ => commutes_check _ _)
  refine erases.bind fun _ => (commutes_check _ _).bind fun _ =>
    commutes_get_bind (fun _ => rfl) fun upload => ?_
  split
  · exact commutes_throw _
  · exact commutes_pure _

theorem commutes_checkHeader : Commutes (Upload.withSocket reads writes) (checkHeader platform faults) :=
  commutes_get_bind (fun _ => rfl) fun _ =>
    commutes_ite (commutes_throw _) (commutes_ite (commutes_throw _) (commutes_ite (commutes_throw _)
      ((commutes_prepareTarget _).bind fun _ => commutes_pure _)))

theorem commutes_takeChunk (target : Target) (imageSize written : ℕ) (hasher : platform.Hasher) :
    Commutes (Upload.withSocket reads writes)
      (takeChunk platform faults target imageSize written hasher) := by
  refine commutes_get_bind (fun _ => rfl) fun _ => commutes_ite (commutes_throw _)
    ((commutes_inU32 _).bind fun _ => ?_)
  have writesChunk : ∀ chunk, Commutes (Upload.withSocket reads writes)
      (writeChunk faults written (target.offset + written) chunk) :=
    fun chunk => commutes_withFlash _ ((commutes_onDevice _).bind fun _ => commutes_check _ _)
  exact (writesChunk _).bind fun _ => (commutes_inU32 _).bind fun _ => commutes_pure _

theorem commutes_validateAndActivate (target : Target) :
    Commutes (Upload.withSocket reads writes) (validateAndActivate platform faults target) := by
  refine commutes_withFlash _ ((commutes_check _ _).bind fun _ =>
    commutes_get_bind (fun _ => rfl) fun upload => ?_)
  dsimp only
  split
  · exact commutes_throw _
  refine commutes_ite (commutes_throw _) ((commutes_check _ _).bind fun _ =>
    (commutes_check _ _).bind fun _ => (commutes_nextPartition _).bind fun (_, subtype) =>
      commutes_ite (commutes_throw _) ?_)
  have activates : Commutes (Upload.withSocket reads writes) (activateNextPartition platform faults) :=
    (commutes_onDevice _).bind fun _ => commutes_check _ _
  exact activates.bind fun _ => (commutes_onDevice _).bind fun _ => commutes_check _ _

theorem commutes_finishImage (header : List UInt8) (target : Target) (hasher : platform.Hasher) :
    Commutes (Upload.withSocket reads writes) (finishImage platform faults header target hasher) :=
  commutes_ite (commutes_throw _) (commutes_validateAndActivate _)

theorem commutes_flushReady : Commutes (Upload.withSocket reads writes) (flushReady faults) :=
  commutes_ite (commutes_throw _) (commutes_pure ())

end Frames

/-! ## Fragments -/

/-- What the device has still to do, with the rest of its socket. -/
def Receiver.resume (faults : Faults) (receiver : Receiver platform) (reads : List SocketRead)
    (writes : List SocketWrite) : Except Abort Unit × Upload :=
  receiver.phase.resume faults (receiver.upload.withSocket reads writes)

section Resume

variable {reads : List SocketRead} {writes : List SocketWrite}

/-- What does not use the socket is the same before and after the rest of it. -/
theorem settle_resume {α : Type} {program : Step α} {next : α → Upload → Receiver platform}
    {rest : α → Step Unit} {upload : Upload}
    (commutes : Commutes (Upload.withSocket reads writes) program)
    (goesOn : ∀ value upload,
      (next value upload).resume faults reads writes = rest value (upload.withSocket reads writes)) :
    (Receiver.settle program next upload).resume faults reads writes =
      (program >>= rest) (upload.withSocket reads writes) := by
  simp only [Receiver.settle, Bind.bind, commutes upload]
  rcases program upload with ⟨outcome, after⟩
  cases outcome with
  | ok value => exact goesOn value after
  | error abort => rfl

theorem chunks_resume (header : List UInt8) (imageSize : ℕ) (target : Target) (written : ℕ)
    (hasher : platform.Hasher) (upload : Upload) :
    (Receiver.chunks faults header imageSize target written hasher upload).resume faults reads writes =
      resumeChunks faults header imageSize target written hasher (upload.withSocket reads writes) := by
  rw [resumeChunks_eq, Receiver.chunks]
  split
  · rfl
  · refine (settle_resume (commutes_finishImage _ _ _) fun _ _ => ?_).trans (congrFun (bind_pure _) _)
    rfl

theorem readAll_fragment {length : ℕ} {fragment : List UInt8} (some_ : fragment ≠ [])
    (fits : fragment.length ≤ length) : readAll length (.data fragment :: reads) =
      ((readAll (length - fragment.length) reads).1,
        fragment ++ (readAll (length - fragment.length) reads).2.1,
        (readAll (length - fragment.length) reads).2.2) := by
  obtain ⟨byte, bytes, rfl⟩ := List.exists_cons_of_ne_nil some_
  obtain ⟨more, rfl⟩ : ∃ more, length = more + 1 := ⟨length - 1, by simp at fits; omega⟩
  rw [readAll, if_pos fits]

theorem readMore_apply (got : List UInt8) (length : ℕ) (store : List UInt8 → Upload → Upload)
    (upload : Upload) : readMore got length store upload =
      (match (readAll (length - got.length) upload.reads).1 with
        | none => .ok ()
        | some error => .error (.rejected error),
        store (got ++ (readAll (length - got.length) upload.reads).2.1)
          { upload with reads := (readAll (length - got.length) upload.reads).2.2 }) := by
  rcases read : readAll (length - got.length) upload.reads with ⟨outcome, received, left⟩
  simp only [readMore, Bind.bind, Fallible.get, Fallible.modify, read]
  cases outcome <;> rfl

/-- A read goes on behind a fragment of what it waits for. -/
theorem readMore_fragment {got fragment : List UInt8} {length : ℕ}
    {store : List UInt8 → Upload → Upload} (some_ : fragment ≠ [])
    (fits : fragment.length ≤ length - got.length) (upload : Upload) :
    readMore got length store (upload.withSocket (.data fragment :: reads) writes) =
      readMore (got ++ fragment) length store (upload.withSocket reads writes) := by
  have left : length - got.length - fragment.length = length - (got ++ fragment).length := by
    rw [List.length_append]
    omega
  simp only [readMore_apply, Upload.withSocket, readAll_fragment some_ fits, left, List.append_assoc]

/-- A read that has all of it stores it. -/
theorem readMore_full {got : List UInt8} {length : ℕ} {store : List UInt8 → Upload → Upload}
    (full : length ≤ got.length) : readMore got length store = modify (store got) := by
  have nothing : length - got.length = 0 := by omega
  funext upload
  rw [readMore_apply, nothing, readAll, List.append_nil]
  rfl

theorem writeAll_accepted {length count : ℕ} (positive : 0 < count) (some_ : 0 < length) :
    writeAll length (.accepted count :: writes) = writeAll (length - count) writes := by
  obtain ⟨count, rfl⟩ : ∃ less, count = less + 1 := ⟨count - 1, by omega⟩
  obtain ⟨length, rfl⟩ : ∃ less, length = less + 1 := ⟨length - 1, by omega⟩
  rw [writeAll, Nat.add_sub_add_right]

theorem delivered_single (bytes : List UInt8) : delivered [.data bytes] = bytes := by
  cases bytes <;> simp [delivered]

theorem announce_apply (length : ℕ) (upload : Upload) : announce faults length upload =
    match (writeAll length upload.writes).1 with
    | none => flushReady faults { upload with writes := (writeAll length upload.writes).2 }
    | some error =>
      (.error (.rejected error), { upload with writes := (writeAll length upload.writes).2 }) := by
  rcases sent : writeAll length upload.writes with ⟨outcome, left⟩
  simp only [announce, Bind.bind, Fallible.get, Fallible.modify, sent]
  cases outcome <;> rfl

theorem announce_accepted {length count : ℕ} (positive : 0 < count) (some_ : 0 < length) (upload : Upload) :
    announce faults length (upload.withSocket reads (.accepted count :: writes)) =
      announce faults (length - count) (upload.withSocket reads writes) := by
  simp only [announce_apply, Upload.withSocket, writeAll_accepted positive some_]

theorem announce_zero : announce faults 0 = flushReady faults := by
  funext upload
  rw [announce_apply, writeAll]

/-- A fragment that is received is the next read of the socket. -/
theorem received_resume {receiver : Receiver platform} {fragment : List UInt8} {limit : ℕ}
    (wants : receiver.want = .receive limit) (some_ : fragment ≠ []) (fits : fragment.length ≤ limit) :
    (receiver.received faults fragment).resume faults reads writes =
      receiver.resume faults (.data fragment :: reads) writes := by
  obtain ⟨upload, phase⟩ := receiver
  cases phase with
  | header got =>
    obtain rfl : headerSize - got.length = limit := Want.receive.inj wants
    have goesOn : (⟨upload, .header got⟩ : Receiver platform).resume faults
        (.data fragment :: reads) writes =
        (Phase.header (got ++ fragment) : Phase platform).resume faults (upload.withSocket reads writes) := by
      simp only [Receiver.resume, Phase.resume, Bind.bind, readMore_fragment some_ fits]
    rw [goesOn]
    simp only [Receiver.received, if_neg some_]
    split
    · rfl
    · next full =>
      rw [Phase.resume, readMore_full (not_lt.mp full), ← bind_assoc]
      have stores : Commutes (Upload.withSocket reads writes)
          (modify (storeHeader (got ++ fragment)) : Step Unit) := commutes_modify fun _ => rfl
      exact settle_resume (stores.bind fun _ => commutes_checkHeader) fun _ _ => rfl
  | image header imageSize target written hasher got =>
    obtain rfl : chunkLen imageSize written - got.length = limit := Want.receive.inj wants
    have goesOn : Receiver.resume faults ⟨upload, .image header imageSize target written hasher got⟩
        (.data fragment :: reads) writes =
        (Phase.image header imageSize target written hasher (got ++ fragment)).resume faults
          (upload.withSocket reads writes) := by
      simp only [Receiver.resume, Phase.resume, Bind.bind, mapError, readMore_fragment some_ fits]
    rw [goesOn]
    simp only [Receiver.received, if_neg some_]
    split
    · rfl
    · next full =>
      rw [Phase.resume, readMore_full (not_lt.mp full), ← bind_assoc]
      have stores : Commutes (Upload.withSocket reads writes)
          (modify (storeChunk (got ++ fragment)) : Step Unit) := commutes_modify fun _ => rfl
      exact settle_resume (stores.bind fun _ => commutes_takeChunk _ _ _ _)
        fun _ _ => chunks_resume _ _ _ _ _ _
  | announcing => simp [Receiver.want] at wants
  | answering => simp [Receiver.want] at wants
  | ended => simp [Receiver.want] at wants

/-- A part of an answer that is taken is the next write of the socket, as long
as `receive_update` is the one that writes. -/
theorem sent_resume {receiver : Receiver platform} {pending header : List UInt8} {imageSize count : ℕ}
    {target : Target} (announcing : receiver.phase = .announcing pending header imageSize target)
    (positive : 0 < count) (some_ : pending ≠ []) :
    (receiver.sent faults count).resume faults reads writes =
      receiver.resume faults reads (.accepted count :: writes) := by
  obtain ⟨upload, phase⟩ := receiver
  cases announcing
  have goesOn : (⟨upload, .announcing pending header imageSize target⟩ : Receiver platform).resume faults
      reads (.accepted count :: writes) =
      (Phase.announcing (pending.drop count) header imageSize target : Phase platform).resume faults
        (upload.withSocket reads writes) := by
    simp only [Receiver.resume, Phase.resume, Bind.bind, List.length_drop,
      announce_accepted positive (List.length_pos_of_ne_nil some_)]
  rw [goesOn]
  simp only [Receiver.sent]
  split
  · next done =>
    rw [Phase.resume, done, List.length_nil, announce_zero]
    exact settle_resume commutes_flushReady fun _ _ => chunks_resume _ _ _ _ _ _
  · rfl

end Resume

/-! ## The device heard a part of the stream -/

/-- Every write takes something. -/
def Takes (writes : List SocketWrite) : Prop :=
  ∀ write ∈ writes, ∃ count, 0 < count ∧ write = .accepted count

/-- The device has come from `start` to where `receive_update` is when it has
read `heard`, in any fragments, and its writes have gone through. -/
def Heard (faults : Faults) (start : Upload) (receiver : Receiver platform) (heard : List UInt8) : Prop :=
  ∃ reads writes, (∀ more, delivered (reads ++ more) = heard ++ delivered more) ∧ Takes writes ∧
    ∀ more moreWrites, receiver.resume faults more moreWrites =
      receiveUpdate platform faults (start.withSocket (reads ++ more) (writes ++ moreWrites))

section Heard

variable {start : Upload} {receiver : Receiver platform} {heard : List UInt8}

theorem heard_start (device : Device) (flashBuffer : List UInt8) :
    Heard faults (Receiver.start platform device flashBuffer).upload
      (Receiver.start platform device flashBuffer) [] := by
  refine ⟨[], [], fun _ => rfl, fun _ absent => absurd absent (by simp), ?_⟩
  intro more moreWrites
  rw [receiveUpdate_eq]
  rfl

theorem Heard.received (before : Heard faults start receiver heard) {fragment : List UInt8} {limit : ℕ}
    (wants : receiver.want = .receive limit) (some_ : fragment ≠ []) (fits : fragment.length ≤ limit) :
    Heard faults start (receiver.received faults fragment) (heard ++ fragment) := by
  obtain ⟨reads, writes, delivers, takes, resumes⟩ := before
  refine ⟨reads ++ [.data fragment], writes, fun more => ?_, takes, fun more moreWrites => ?_⟩
  · rw [List.append_assoc, delivers, List.singleton_append, delivered_data some_, List.append_assoc]
  · rw [received_resume wants some_ fits, resumes, List.append_assoc, List.singleton_append]

theorem Heard.announced (before : Heard faults start receiver heard) {pending header : List UInt8}
    {imageSize count : ℕ} {target : Target}
    (announcing : receiver.phase = .announcing pending header imageSize target) (positive : 0 < count)
    (some_ : pending ≠ []) : Heard faults start (receiver.sent faults count) heard := by
  obtain ⟨reads, writes, delivers, takes, resumes⟩ := before
  refine ⟨reads, writes ++ [.accepted count], delivers, fun write written => ?_, fun more moreWrites => ?_⟩
  · obtain written | written := List.mem_append.mp written
    · exact takes write written
    · exact ⟨count, positive, List.mem_singleton.mp written⟩
  · rw [sent_resume announcing positive some_, resumes, List.append_assoc, List.singleton_append]

/-- The answer is none of `receive_update`. -/
theorem Heard.answered (before : Heard faults start receiver heard) {phase : Phase platform}
    (same : phase.resume faults = receiver.phase.resume faults) :
    Heard faults start { receiver with phase } heard := by
  obtain ⟨reads, writes, delivers, takes, resumes⟩ := before
  refine ⟨reads, writes, delivers, takes, ?_⟩
  intro more moreWrites
  rw [← resumes, Receiver.resume, Receiver.resume, same]

theorem writeAll_takes {writes : List SocketWrite} (takes : Takes writes) {length last : ℕ}
    (fits : length ≤ last) : (writeAll length (writes ++ [.accepted last])).1 = none := by
  induction writes generalizing length with
  | nil =>
    obtain rfl | some_ := Nat.eq_zero_or_pos length
    · simp [writeAll]
    · rw [List.nil_append, writeAll_accepted (by omega) some_, Nat.sub_eq_zero_of_le fits, writeAll]
  | cons write rest ih =>
    obtain rfl | some_ := Nat.eq_zero_or_pos length
    · simp [writeAll]
    · obtain ⟨count, positive, rfl⟩ := takes write List.mem_cons_self
      rw [List.cons_append, writeAll_accepted positive some_]
      exact ih (fun other written => takes other (List.mem_cons_of_mem _ written)) (by omega)

/-- The device rejects nothing of a stream that `receive_update` installs. -/
theorem Heard.not_rejected (before : Heard faults start receiver heard) (rest : List UInt8)
    (installs : ∀ reads writes, delivered reads = heard ++ rest → (writeAll 6 writes).1 = none →
      (receiveUpdate platform faults (start.withSocket reads writes)).1 = .ok ())
    {pending : List UInt8} {abort : Abort} : receiver.phase ≠ .answering pending (.error abort) := by
  intro rejected
  obtain ⟨reads, writes, delivers, takes, resumes⟩ := before
  have installed := installs (reads ++ [.data rest]) (writes ++ [.accepted 6])
    (by rw [delivers, delivered_single]) (writeAll_takes takes le_rfl)
  rw [← resumes, Receiver.resume, rejected] at installed
  cases installed

/-- Where the device has the result, it is that of `receive_update` on what was
heard. -/
theorem Heard.result (before : Heard faults start receiver heard) {result : Except Abort Unit}
    (ended : receiver.phase = .ended result) :
    ∃ reads writes, delivered reads = heard ∧
      receiveUpdate platform faults (start.withSocket reads writes) =
        (result, receiver.upload.withSocket [] []) := by
  obtain ⟨reads, writes, delivers, takes, resumes⟩ := before
  refine ⟨reads ++ [], writes ++ [], by rw [delivers, delivered, List.append_nil], ?_⟩
  rw [← resumes, Receiver.resume, ended]
  rfl

end Heard

end EnergyDisplay.Ota

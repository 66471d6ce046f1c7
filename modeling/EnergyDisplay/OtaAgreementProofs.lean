import EnergyDisplay.OtaExchangeProofs
import EnergyDisplay.OtaProofs

/-! The push tool and the device agree. Each plays a role with a text of its own,
and each says and hears its part of the conversation however the network cuts it;
the device because it goes where `receive_update` goes on the whole stream. -/
namespace EnergyDisplay.Ota

open Duplex Fallible

/-! ## What the tool sends -/

/-- What both sides rely on from their hash functions. -/
structure Digests (platform : Platform) : Prop where
  sha256 : ∀ bytes, (platform.sha256 bytes).length = 32
  hmac : ∀ key bytes, (platform.hmac key bytes).length = 32

/-- An image that both sides take. -/
structure Pushable (image : List UInt8) : Prop where
  some_ : image.length ≠ 0
  aligned : 4 ∣ image.length
  small : image.length < 2 ^ 32
  first : image.head? = some 0xe9

variable {platform : Platform} {password image : List UInt8}

theorem fromLeBytes_pack {value : ℕ} (small : value < 2 ^ 32) : fromLeBytes (Push.pack value) = value := by
  simp only [Push.pack, fromLeBytes, List.foldr_cons, List.foldr_nil, UInt8.toNat_ofNat']
  omega

theorem metadata_length (digests : Digests platform) (image : List UInt8) :
    (Push.metadata platform image).length = macOffset := by
  simp [Push.metadata, Push.pack, magic, macOffset, digests.sha256]

theorem headerFor_length (digests : Digests platform) (password image : List UInt8) :
    (Push.headerFor platform password image).length = headerSize := by
  rw [Push.headerFor, List.length_append, metadata_length digests, digests.hmac, macOffset, headerSize]

/-- The stream of a push. -/
def pushed (platform : Platform) (image : List UInt8) : List UInt8 :=
  Push.headerFor platform platform.password image ++ image

theorem headerOf_pushed (digests : Digests platform) (image : List UInt8) :
    headerOf (pushed platform image) = Push.headerFor platform platform.password image :=
  List.take_left' (headerFor_length digests _ _)

theorem imageSizeOf_heard {heard stream : List UInt8} (within : heard <+: stream)
    (whole : headerSize ≤ heard.length) : imageSizeOf heard = imageSizeOf stream := by
  obtain ⟨rest, rfl⟩ := within
  rw [imageSizeOf, imageSizeOf, headerOf, headerOf, List.take_append_of_le_length whole]

/-- The device finds the size where the tool packed it. -/
theorem imageSizeOf_pushed (digests : Digests platform) (pushable : Pushable image) :
    imageSizeOf (pushed platform image) = image.length := by
  have size : ((Push.headerFor platform platform.password image).drop 8).take 4 = Push.pack image.length := by
    simp [Push.headerFor, Push.metadata, magic, Push.pack]
  rw [imageSizeOf, headerOf_pushed digests, size, fromLeBytes_pack pushable.small]

theorem imageOf_pushed (digests : Digests platform) (pushable : Pushable image) :
    imageOf (pushed platform image) = image := by
  rw [imageOf, imageSizeOf_pushed digests pushable, pushed, List.drop_left' (headerFor_length digests _ _),
    List.take_length]

/-- What the tool sends passes every check of the device. -/
theorem genuine_pushed (digests : Digests platform) (pushable : Pushable image) :
    Genuine platform (pushed platform image) where
  complete := by rw [headerOf_pushed digests, headerFor_length digests]
  magic := by
    rw [headerOf_pushed digests, Push.headerFor, Push.metadata]
    simp
  sized := by
    rw [imageSizeOf_pushed digests pushable]
    exact pushable.some_
  aligned := by
    rw [imageSizeOf_pushed digests pushable]
    exact pushable.aligned
  authentic := by
    rw [headerOf_pushed digests, Push.headerFor, List.take_left' (metadata_length digests _),
      List.drop_left' (metadata_length digests _)]
  received := by rw [imageOf_pushed digests pushable, imageSizeOf_pushed digests pushable]
  first := by
    rw [imageOf_pushed digests pushable]
    exact pushable.first
  digest := by
    have digest : ((Push.headerFor platform platform.password image).drop digestOffset).take
        (macOffset - digestOffset) = platform.sha256 image := by
      have before : (magic ++ Push.pack image.length).length = digestOffset := rfl
      rw [Push.headerFor, Push.metadata, List.append_assoc _ (platform.sha256 image), List.drop_left' before]
      exact List.take_left' (digests.sha256 image)
    rw [imageOf_pushed digests pushable, headerOf_pushed digests, digest]

/-- `receive_update` installs the stream, however the network cuts it. -/
def Installs (platform : Platform) (image : List UInt8) (start : Upload) : Prop :=
  ∀ reads writes, delivered reads = pushed platform image → (writeAll 6 writes).1 = none →
    (receiveUpdate platform .none (start.withSocket reads writes)).1 = .ok ()

/-- Nothing fails, the flash is not encrypted, and the image fits its slot. -/
theorem installs_pushed (digests : Digests platform) (pushable : Pushable image) {start : Upload}
    {partition : PartitionEntry}
    (target : findApp start.device.table (platform.nextPartition start.device.selected) = some partition)
    (plain : start.device.flashEncryption = false) (fits : image.length ≤ partition.len) :
    Installs platform image start := by
  intro reads writes stream announced
  refine installed_iff.mpr ⟨⟨?_, ?_, ?_⟩, rfl⟩
  · rw [Upload.withSocket, stream]
    exact genuine_pushed digests pushable
  · have prepares : Prepares .none start.device := ⟨⟨rfl, plain, rfl⟩, Or.inl rfl, rfl, rfl, rfl⟩
    exact ⟨prepares, ⟨announced, rfl⟩, fun _ _ _ => ⟨rfl, rfl⟩, ⟨rfl, rfl, rfl, rfl, rfl, rfl⟩⟩
  · rw [Upload.withSocket, stream, imageSizeOf_pushed digests pushable]
    exact ⟨partition, target, fits⟩

/-! ## The tool -/

/-- An answer `receive_line` takes as a whole: one line, and not too long. -/
structure IsLine (line : List UInt8) : Prop where
  small : line.length ≤ 128
  ends : line.getLast? = some 0x0a
  only : 0x0a ∉ line.dropLast

theorem readyLine_isLine : IsLine readyLine := ⟨by decide, rfl, by decide⟩

theorem okLine_isLine : IsLine okLine := ⟨by decide, rfl, by decide⟩

theorem errLine_isLine : IsLine errLine := ⟨by decide, rfl, by decide⟩

/-- A line is taken when its last byte is there. -/
theorem receiveLine_line {line response chunk later : List UInt8} (isLine : IsLine line)
    (line_eq : response ++ chunk ++ later = line) (some_ : chunk ≠ []) (more done : List UInt8 → Push) :
    Push.receiveLine response chunk more done =
      if later = [] then done line else more (response ++ chunk) := by
  have small : ¬ 128 < (response ++ chunk).length := by
    have := isLine.small
    rw [← line_eq, List.length_append] at this
    omega
  rw [Push.receiveLine, if_neg some_, if_neg small]
  by_cases whole : later = []
  · rw [whole, List.append_nil] at line_eq
    rw [if_pos whole, line_eq, if_pos isLine.ends]
  · rw [if_neg whole, if_neg]
    intro newline
    refine isLine.only ?_
    rw [← line_eq, List.dropLast_append_of_ne_nil whole]
    exact List.mem_append_left _ (List.mem_of_getLast? newline)

/-- The tool while all goes well: the header, `READY`, the image, `OK`. -/
inductive Pushing (image : List UInt8) : Push → List UInt8 → List UInt8 → Prop where
  | header {pending : List UInt8} (some_ : pending ≠ []) :
    Pushing image (.header pending) [] (pending ++ image)
  | ready {response later : List UInt8} (open_ : later ≠ []) (line : response ++ later = readyLine) :
    Pushing image (.ready response) response image
  | image {pending rest : List UInt8} (some_ : pending ≠ []) :
    Pushing image (.image pending rest) readyLine (pending ++ rest)
  | installed {response later : List UInt8} (open_ : later ≠ []) (line : response ++ later = okLine) :
    Pushing image (.installed response) (readyLine ++ response) []
  | ended : Pushing image (.ended (.ok ())) (readyLine ++ okLine) []

/-- The tool when the device refuses the header. -/
inductive Refused : Push → List UInt8 → List UInt8 → Prop where
  | header {pending : List UInt8} (some_ : pending ≠ []) : Refused (.header pending) [] pending
  | ready {response later : List UInt8} (open_ : later ≠ []) (line : response ++ later = errLine) :
    Refused (.ready response) response []
  | ended : Refused (.ended (.error (.refused errLine))) errLine []

/-- The tool with an image that is installed. -/
def pushing (header image : List UInt8) : Role Push UInt8 where
  text := header ++ image
  Has := Pushing image

/-- The tool with an image that is refused. -/
def refused (header : List UInt8) : Role Push UInt8 where
  text := header
  Has := Refused

theorem pushing_nextChunk (image rest : List UInt8) : Pushing image (Push.nextChunk rest) readyLine rest := by
  unfold Push.nextChunk
  split
  · next done =>
    rw [done]
    exact .installed (List.cons_ne_nil _ _) (List.nil_append _)
  · next more =>
    have some_ : rest.take Push.chunkSize ≠ [] := by
      intro nothing
      obtain none_ | nothing := List.take_eq_nil_iff.mp nothing
      · exact absurd none_ (by decide)
      · exact more nothing
    have chunk : Pushing image (.image (rest.take Push.chunkSize) (rest.drop Push.chunkSize)) readyLine
        (rest.take Push.chunkSize ++ rest.drop Push.chunkSize) := .image some_
    rwa [List.take_append_drop] at chunk

/-- The tool hears more of a line: the rest of it is still to come, or the line
is complete. -/
theorem receiveLine_goesOn {line response later items follows : List UInt8} {limit : ℕ}
    {more done : List UInt8 → Push} (holds : Push → Prop) (isLine : IsLine line) (open_ : later ≠ [])
    (line_eq : response ++ later = line) (one : (Want.receive 1 : Want UInt8) = .receive limit)
    (some_ : items ≠ []) (small : items.length ≤ limit) (heard : response ++ items <+: line ++ follows)
    (goesOn : ∀ rest, rest ≠ [] → response ++ items ++ rest = line → holds (more (response ++ items)))
    (complete : response ++ items = line → holds (done line)) :
    holds (Push.receiveLine response items more done) := by
  obtain rfl : 1 = limit := Want.receive.inj one
  have left := List.length_pos_of_ne_nil open_
  obtain ⟨rest, line_eq⟩ : response ++ items <+: line := by
    refine List.prefix_of_prefix_length_le heard (List.prefix_append line follows) ?_
    rw [← line_eq, List.length_append, List.length_append]
    omega
  rw [receiveLine_line isLine line_eq some_]
  split
  · next whole =>
    rw [whole, List.append_nil] at line_eq
    exact complete line_eq
  · next open_ => exact goesOn rest open_ line_eq

/-- The tool plays its role opposite a device that takes the image. -/
theorem pushing_plays (header image : List UInt8) :
    Plays (Push.party image) (pushing header image) (readyLine ++ okLine) where
  sends := by
    intro state heard unsaid items has wants
    cases has with
    | header some_ =>
      obtain rfl := Want.send.inj wants
      refine ⟨some_, List.prefix_append _ _, ?_⟩
      intro count positive there
      rw [List.drop_append_of_le_length there]
      simp only [Push.party, Push.sent]
      split
      · next done =>
        rw [done]
        exact .ready (List.cons_ne_nil _ _) (List.nil_append _)
      · next more => exact .header more
    | image some_ =>
      obtain rfl := Want.send.inj wants
      refine ⟨some_, List.prefix_append _ _, ?_⟩
      intro count positive there
      rw [List.drop_append_of_le_length there]
      simp only [Push.party, Push.sent]
      split
      · next done =>
        rw [done]
        exact pushing_nextChunk image _
      · next more => exact .image more
    | ready => cases wants
    | installed => cases wants
    | ended => cases wants
  receives := by
    intro state heard unsaid limit has wants
    cases has with
    | ready open_ line =>
      refine ⟨by rw [← Want.receive.inj wants]; exact Nat.one_pos, ?_, fun items some_ small within => ?_⟩
      · intro whole
        have short := congrArg List.length line
        rw [whole, List.length_append, List.length_append] at short
        simp [readyLine, okLine] at short
        omega
      · simp only [Push.party, Push.received]
        refine receiveLine_goesOn (Pushing image · (heard ++ items) image) readyLine_isLine open_ line wants
          some_ small within (fun _ open_ line => .ready open_ line) fun whole => ?_
        rw [whole, if_pos rfl]
        exact pushing_nextChunk image image
    | @installed response _ open_ line =>
      refine ⟨by rw [← Want.receive.inj wants]; exact Nat.one_pos, ?_, fun items some_ small within => ?_⟩
      · intro whole
        rw [← line] at whole
        exact open_ (List.self_eq_append_right.mp (List.append_cancel_left whole))
      · rw [List.append_assoc, List.prefix_append_right_inj, ← List.append_nil okLine] at within
        rw [List.append_assoc]
        simp only [Push.party, Push.received]
        refine receiveLine_goesOn (Pushing image · (readyLine ++ (response ++ items)) []) okLine_isLine open_
          line wants some_ small within (fun _ open_ line => .installed open_ line) fun whole => ?_
        rw [whole, if_pos rfl]
        exact .ended
    | header => cases wants
    | image => cases wants
    | ended => cases wants
  halts := by
    intro state heard unsaid has wants
    cases has with
    | ended => exact ⟨rfl, rfl⟩
    | header => cases wants
    | ready => cases wants
    | image => cases wants
    | installed => cases wants

theorem Pushing.halted {push : Push} {heard unsaid : List UInt8} (has : Pushing image push heard unsaid)
    (halted : push.want = .halted) : push = .ended (.ok ()) := by
  cases has with
  | ended => rfl
  | header => cases halted
  | ready => cases halted
  | image => cases halted
  | installed => cases halted

theorem Refused.halted {push : Push} {heard unsaid : List UInt8} (has : Refused push heard unsaid)
    (halted : push.want = .halted) : push = .ended (.error (.refused errLine)) := by
  cases has with
  | ended => rfl
  | header => cases halted
  | ready => cases halted

theorem errLine_ne_readyLine : errLine ≠ readyLine := by decide

/-- The tool plays its role opposite a device that refuses the header. -/
theorem refused_plays (header image : List UInt8) :
    Plays (Push.party image) (refused header) errLine where
  sends := by
    intro state heard unsaid items has wants
    cases has with
    | header some_ =>
      obtain rfl := Want.send.inj wants
      refine ⟨some_, List.prefix_rfl, ?_⟩
      intro count positive there
      simp only [Push.party, Push.sent]
      split
      · next done =>
        rw [done]
        exact .ready (List.cons_ne_nil _ _) (List.nil_append _)
      · next more => exact .header more
    | ready => cases wants
    | ended => cases wants
  receives := by
    intro state heard unsaid limit has wants
    cases has with
    | ready open_ line =>
      refine ⟨by rw [← Want.receive.inj wants]; exact Nat.one_pos, ?_, fun items some_ small within => ?_⟩
      · intro whole
        rw [← line] at whole
        exact open_ (List.self_eq_append_right.mp whole)
      · rw [← List.append_nil errLine] at within
        simp only [Push.party, Push.received]
        refine receiveLine_goesOn (Refused · (heard ++ items) []) errLine_isLine open_ line wants some_ small
          within (fun _ open_ line => .ready open_ line) fun whole => ?_
        rw [whole, if_neg errLine_ne_readyLine]
        exact .ended
    | header => cases wants
    | ended => cases wants
  halts := by
    intro state heard unsaid has wants
    cases has with
    | ended => exact ⟨rfl, rfl⟩
    | header => cases wants
    | ready => cases wants

/-! ## The device -/

variable {faults : Faults}

theorem settle_cases {α : Type} (program : Step α) (next : α → Upload → Receiver platform)
    (upload : Upload) :
    (∃ value after, program upload = (.ok value, after) ∧
        Receiver.settle program next upload = next value after) ∨
      ∃ abort after, program upload = (.error abort, after) ∧
        Receiver.settle program next upload = ⟨after, .answering errLine (.error abort)⟩ := by
  unfold Receiver.settle
  rcases program upload with ⟨outcome, after⟩
  cases outcome with
  | ok value => exact Or.inl ⟨value, after, rfl, rfl⟩
  | error abort => exact Or.inr ⟨abort, after, rfl, rfl⟩

variable (faults) in
/-- Spec lemma: the last bytes of a header are taken or answered. -/
theorem received_header {upload : Upload} {heard items : List UInt8} (some_ : items ≠ [])
    (full : ¬ (heard ++ items).length < headerSize) :
    (∃ header imageSize target after,
      (do modify (storeHeader (heard ++ items)); checkHeader platform faults : Step _) upload =
          (.ok (header, imageSize, target), after) ∧
        (⟨upload, .header heard⟩ : Receiver platform).received faults items =
          ⟨after, .announcing readyLine header imageSize target⟩) ∨
      ∃ abort after,
        (do modify (storeHeader (heard ++ items)); checkHeader platform faults : Step _) upload =
            (.error abort, after) ∧
          (⟨upload, .header heard⟩ : Receiver platform).received faults items =
            ⟨after, .answering errLine (.error abort)⟩ := by
  simp only [Receiver.received, if_neg some_, if_neg full]
  refine (settle_cases _ _ upload).imp ?_ id
  rintro ⟨⟨header, imageSize, target⟩, after, accepted, settled⟩
  exact ⟨header, imageSize, target, after, accepted, settled⟩

/-- An accepted header gives its size, and a target the image fits. -/
theorem ends_checkHeader {state : Upload} :
    Ends (checkHeader platform faults) state
      (fun found _ => found.2.1 = fromLeBytes ((state.header.drop 8).take 4) ∧
        Fits platform faults state.device found.2.1)
      (fun _ after => after.device = state.device ∨
        Stage platform faults state.device (fromLeBytes ((state.header.drop 8).take 4)) after.device) := by
  rw [checkHeader, ends_bind, ends_get, ends_ite]
  refine ⟨fun _ => Or.inl rfl, ?_⟩
  intro _
  rw [ends_ite]
  refine ⟨fun _ => Or.inl rfl, ?_⟩
  intro _
  rw [ends_ite]
  refine ⟨fun _ => Or.inl rfl, ?_⟩
  intro _
  rw [ends_bind]
  refine (ends_prepareTarget _).mono ?_ fun _ _ stopped => Or.inr stopped.2.2
  rintro target after ⟨_, partition, found, _, _, writing, _⟩
  exact ⟨rfl, partition, found, writing.fits⟩

/-- A whole header that was received. -/
theorem ends_header {state : Upload} {heard : List UInt8} (whole : heard.length = headerSize) :
    Ends (do modify (storeHeader heard); checkHeader platform faults) state
      (fun found _ => found.2.1 = imageSizeOf heard ∧ Fits platform faults state.device found.2.1)
      (fun _ after => after.device = state.device ∨
        Stage platform faults state.device (imageSizeOf heard) after.device) := by
  have size : fromLeBytes (((fill state.header heard).drop 8).take 4) = imageSizeOf heard := by
    have inside : 4 ≤ (heard.drop 8).length := by
      rw [List.length_drop, whole]
      decide
    rw [imageSizeOf, headerOf, List.take_of_length_le whole.le, fill,
      List.drop_append_of_le_length (by rw [whole]; decide), List.take_append_of_le_length inside]
  rw [ends_bind, ends_modify, ← size]
  exact ends_checkHeader

/-- The device while all goes well. -/
inductive Installing (imageSize : ℕ) : Phase platform → List UInt8 → List UInt8 → Prop where
  | header {got : List UInt8} (open_ : got.length < headerSize) :
    Installing imageSize (.header got) got (readyLine ++ okLine)
  | announcing {pending header heard : List UInt8} {target : Target} (some_ : pending ≠ [])
    (place : heard.length = headerSize) :
    Installing imageSize (.announcing pending header imageSize target) heard (pending ++ okLine)
  | image {header got heard : List UInt8} {target : Target} {written : ℕ} {hasher : platform.Hasher}
    (place : heard.length = headerSize + written + got.length)
    (open_ : got.length < chunkLen imageSize written) :
    Installing imageSize (.image header imageSize target written hasher got) heard okLine
  | answering {pending heard : List UInt8} (some_ : pending ≠ [])
    (whole : heard.length = headerSize + imageSize) :
    Installing imageSize (.answering pending (.ok ())) heard pending
  | ended {heard : List UInt8} (whole : heard.length = headerSize + imageSize) :
    Installing imageSize (.ended (.ok ())) heard []

theorem chunkLen_pos {imageSize written : ℕ} (more : written < imageSize) :
    0 < chunkLen imageSize written := by
  simp only [chunkLen, flashChunkSize]
  omega

/-- Once so much of the image is written, more of it is expected, or it is
finished; a device that rejects nothing goes on. -/
theorem chunks_installing {header heard : List UInt8} {imageSize written : ℕ} {target : Target}
    {hasher : platform.Hasher} {upload : Upload} (place : heard.length = headerSize + written)
    (within : written ≤ imageSize)
    (accepts : ∀ pending abort,
      (Receiver.chunks faults header imageSize target written hasher upload).phase ≠
        .answering pending (.error abort)) :
    Installing imageSize (Receiver.chunks faults header imageSize target written hasher upload).phase
      heard okLine := by
  unfold Receiver.chunks at accepts ⊢
  split
  · next more => exact .image place (chunkLen_pos more)
  · next done =>
    rw [if_neg done] at accepts
    obtain ⟨value, after, _, finished⟩ | ⟨abort, after, _, rejected⟩ := settle_cases
      (finishImage platform faults header target hasher)
      (fun _ upload => ⟨upload, .answering okLine (.ok ())⟩) upload
    · rw [finished]
      exact .answering (List.cons_ne_nil _ _) (by omega)
    · exact absurd (by rw [rejected]) (accepts errLine abort)

/-- The device hears more of the header. -/
theorem header_installing (digests : Digests platform) (pushable : Pushable image) {upload : Upload}
    {heard items : List UInt8} (open_ : heard.length < headerSize) (some_ : items ≠ [])
    (small : items.length ≤ headerSize - heard.length) (within : heard ++ items <+: pushed platform image)
    (accepts : ∀ pending abort, ((⟨upload, .header heard⟩ : Receiver platform).received .none items).phase ≠
      .answering pending (.error abort)) :
    Installing image.length ((⟨upload, .header heard⟩ : Receiver platform).received .none items).phase
      (heard ++ items) (readyLine ++ okLine) := by
  by_cases full : (heard ++ items).length < headerSize
  case pos =>
    simp only [Receiver.received, if_neg some_, if_pos full]
    exact .header full
  case neg =>
    have place : (heard ++ items).length = headerSize := by
      rw [List.length_append] at full ⊢
      omega
    obtain ⟨_, imageSize, _, _, accepted, settled⟩ | ⟨abort, _, _, settled⟩ :=
      received_header .none some_ full
    · obtain ⟨size, _⟩ := (ends_header place).of_ok accepted
      rw [imageSizeOf_heard within place.ge, imageSizeOf_pushed digests pushable] at size
      obtain rfl : imageSize = image.length := size
      rw [settled]
      exact .announcing (List.cons_ne_nil _ _) place
    · exact absurd (by rw [settled]) (accepts errLine abort)

/-- The device hears more of a chunk. -/
theorem chunk_installing {upload : Upload} {header got heard items : List UInt8} {imageSize written : ℕ}
    {target : Target} {hasher : platform.Hasher} (place : heard.length = headerSize + written + got.length)
    (open_ : got.length < chunkLen imageSize written) (some_ : items ≠ [])
    (small : items.length ≤ chunkLen imageSize written - got.length)
    (accepts : ∀ pending abort, ((⟨upload, .image header imageSize target written hasher got⟩ :
      Receiver platform).received .none items).phase ≠ .answering pending (.error abort)) :
    Installing imageSize ((⟨upload, .image header imageSize target written hasher got⟩ :
      Receiver platform).received .none items).phase (heard ++ items) okLine := by
  simp only [Receiver.received, if_neg some_] at accepts ⊢
  split
  · next short =>
    refine .image ?_ short
    rw [List.length_append, place, List.length_append, Nat.add_assoc]
  · next full =>
    rw [if_neg full] at accepts
    have place : (heard ++ items).length = headerSize + (written + chunkLen imageSize written) := by
      rw [List.length_append] at full ⊢
      omega
    obtain ⟨hasher, there, _, settled⟩ | ⟨abort, there, _, settled⟩ :=
      settle_cases
        (do
          modify (storeChunk (got ++ items))
          takeChunk platform .none target imageSize written hasher)
        (fun hasher => Receiver.chunks .none header imageSize target
          (written + chunkLen imageSize written) hasher) upload
    · rw [settled] at accepts ⊢
      refine chunks_installing place ?_ accepts
      simp only [chunkLen] at open_ ⊢
      omega
    · exact absurd (by rw [settled]) (accepts errLine abort)

/-- The device that installs the stream: it is where `receive_update` is, and
goes on. -/
def installing (platform : Platform) (image : List UInt8) (start : Upload) :
    Role (Receiver platform) UInt8 where
  text := readyLine ++ okLine
  Has receiver heard unsaid :=
    Heard .none start receiver heard ∧ heard <+: pushed platform image ∧
      Installing image.length receiver.phase heard unsaid

section Installing

variable {start : Upload}

/-- A stream that `receive_update` installs is one the device never rejects. -/
theorem Heard.goesOn {receiver : Receiver platform} {heard : List UInt8}
    (before : Heard .none start receiver heard) (within : heard <+: pushed platform image)
    (installs : Installs platform image start) :
    ∀ pending abort, receiver.phase ≠ .answering pending (.error abort) := by
  obtain ⟨rest, whole⟩ := within
  intro pending abort
  refine before.not_rejected rest ?_
  intro reads writes stream announced
  exact installs reads writes (stream.trans whole) announced

/-- The device plays its role opposite the tool. -/
theorem installing_plays (digests : Digests platform) (pushable : Pushable image)
    (installs : Installs platform image start) :
    Plays (Receiver.party .none) (installing platform image start) (pushed platform image) where
  sends := by
    rintro ⟨upload, phase⟩ heard unsaid items ⟨before, within, goes⟩ wants
    cases goes with
    | announcing some_ place =>
      obtain rfl := Want.send.inj wants
      refine ⟨some_, List.prefix_append _ _, ?_⟩
      intro count positive there
      have after := before.announced rfl positive some_
      have accepts := after.goesOn within installs
      refine ⟨after, within, ?_⟩
      rw [List.drop_append_of_le_length there]
      simp only [Receiver.party, Receiver.sent] at accepts ⊢
      split
      · next done =>
        rw [if_pos done] at accepts
        rw [done]
        exact chunks_installing place (Nat.zero_le _) accepts
      · next more => exact .announcing more place
    | answering some_ whole =>
      obtain rfl := Want.send.inj wants
      refine ⟨some_, List.prefix_rfl, ?_⟩
      intro count positive there
      simp only [Receiver.party, Receiver.sent]
      split
      · next done =>
        rw [done]
        exact ⟨before.answered rfl, within, .ended whole⟩
      · next more => exact ⟨before.answered rfl, within, .answering more whole⟩
    | header => cases wants
    | image => cases wants
    | ended => cases wants
  receives := by
    rintro ⟨upload, phase⟩ heard unsaid limit ⟨before, within, goes⟩ wants
    have streamLength : (pushed platform image).length = headerSize + image.length := by
      rw [pushed, List.length_append, headerFor_length digests]
    cases goes with
    | header open_ =>
      obtain rfl := Want.receive.inj wants
      refine ⟨by omega, ?_, fun items some_ small within => ?_⟩
      · rintro rfl
        omega
      have after := before.received rfl some_ small
      have accepts := after.goesOn within installs
      refine ⟨after, within, ?_⟩
      exact header_installing digests pushable open_ some_ small within accepts
    | image place open_ =>
      obtain rfl := Want.receive.inj wants
      refine ⟨by omega, ?_, fun items some_ small within => ?_⟩
      · rintro rfl
        simp only [chunkLen] at open_
        omega
      have after := before.received rfl some_ small
      have accepts := after.goesOn within installs
      refine ⟨after, within, ?_⟩
      exact chunk_installing place open_ some_ small accepts
    | announcing => cases wants
    | answering => cases wants
    | ended => cases wants
  halts := by
    rintro ⟨upload, phase⟩ heard unsaid ⟨before, within, goes⟩ wants
    cases goes with
    | ended whole =>
      refine ⟨within.eq_of_length ?_, rfl⟩
      rw [whole, pushed, List.length_append, headerFor_length digests]
    | header => cases wants
    | announcing => cases wants
    | image => cases wants
    | answering => cases wants

/-- At the end the image is in the target slot, and the slot selected. -/
theorem installing_halted (digests : Digests platform) (pushable : Pushable image)
    {receiver : Receiver platform} {unsaid : List UInt8} {partition : PartitionEntry}
    (target : findApp start.device.table (platform.nextPartition start.device.selected) = some partition)
    (has : (installing platform image start).Has receiver (pushed platform image) unsaid)
    (halted : receiver.want = .halted) :
    receiver.phase = .ended (.ok ()) ∧ receiver.upload.device.flash.Holds partition.offset image ∧
      receiver.upload.device.selected = platform.nextPartition start.device.selected := by
  obtain ⟨upload, phase⟩ := receiver
  obtain ⟨heard, _, goes⟩ := has
  have ended : phase = .ended (.ok ()) := by
    cases goes with
    | ended => rfl
    | header => cases halted
    | announcing => cases halted
    | image => cases halted
    | answering => cases halted
  obtain ⟨reads, writes, stream, outcome⟩ := heard.result ended
  obtain ⟨_, _, partition', chunks, before, activated⟩ := ends_receiveUpdate.of_ok outcome
  obtain rfl : partition = partition' := Option.some.inj (target.symm.trans activated.target)
  have held := activated.held
  simp only [Upload.withSocket, stream, imageOf_pushed digests pushable] at held
  rw [← activated.activating.flash] at held
  have selected := activated.activating.selected
  rw [activated.writing.selected] at selected
  exact ⟨ended, held, selected⟩

end Installing

/-- The device that refuses the header, and stays as it was. -/
inductive Refusing (device : Device) (header : List UInt8) :
    Receiver platform → List UInt8 → List UInt8 → Prop where
  | header {upload : Upload} {got : List UInt8} (untouched : upload.device = device)
    (open_ : got.length < headerSize) : Refusing device header ⟨upload, .header got⟩ got errLine
  | answering {upload : Upload} {pending : List UInt8} {abort : Abort} (untouched : upload.device = device)
    (some_ : pending ≠ []) :
    Refusing device header ⟨upload, .answering pending (.error abort)⟩ header pending
  | ended {upload : Upload} {abort : Abort} (untouched : upload.device = device) :
    Refusing device header ⟨upload, .ended (.error abort)⟩ header []

/-- The device that refuses the header of an image. -/
def refusing (platform : Platform) (image : List UInt8) (device : Device) :
    Role (Receiver platform) UInt8 where
  text := errLine
  Has := Refusing device (Push.headerFor platform platform.password image)

/-- The target of an image is not touched before it is known to fit. -/
theorem Stage.untouched {device after : Device} {imageSize : ℕ} {partition : PartitionEntry}
    (stage : Stage platform .none device imageSize after)
    (target : findApp device.table (platform.nextPartition device.selected) = some partition)
    (larger : partition.len < imageSize) : after = device := by
  cases stage with
  | unchanged => rfl
  | prepared => rfl
  | writing opens partition' chunks target' writing =>
    obtain rfl : partition = partition' := Option.some.inj (target.symm.trans target')
    exact absurd larger (not_lt.mpr writing.fits)

/-- The device hears more of the header of a larger image. -/
theorem header_refusing (digests : Digests platform) (pushable : Pushable image) {device : Device}
    {partition : PartitionEntry}
    (target : findApp device.table (platform.nextPartition device.selected) = some partition)
    (larger : partition.len < image.length) {upload : Upload} (untouched : upload.device = device)
    {heard items : List UInt8} (open_ : heard.length < headerSize) (some_ : items ≠ [])
    (small : items.length ≤ headerSize - heard.length)
    (within : heard ++ items <+: Push.headerFor platform platform.password image) :
    Refusing device (Push.headerFor platform platform.password image)
      ((⟨upload, .header heard⟩ : Receiver platform).received .none items) (heard ++ items) errLine := by
  by_cases full : (heard ++ items).length < headerSize
  case pos =>
    simp only [Receiver.received, if_neg some_, if_pos full]
    exact .header untouched full
  case neg =>
    have place : (heard ++ items).length = headerSize := by
      rw [List.length_append] at full ⊢
      omega
    have size : imageSizeOf (heard ++ items) = image.length := by
      rw [← imageSizeOf_pushed digests pushable]
      exact imageSizeOf_heard (within.trans (List.prefix_append _ _)) place.ge
    rw [← untouched] at target ⊢
    obtain ⟨_, imageSize, _, _, accepted, _⟩ | ⟨abort, there, rejected, settled⟩ :=
      received_header .none some_ full
    · obtain ⟨announced, partition', target', fits⟩ := (ends_header place).of_ok accepted
      obtain rfl : partition = partition' := Option.some.inj (target.symm.trans target')
      rw [announced, size] at fits
      exact absurd larger (not_lt.mpr fits)
    · have same : there.device = upload.device := by
        obtain same | stage := (ends_header place).of_error rejected
        · exact same
        · rw [size] at stage
          exact stage.untouched target larger
      rw [settled, within.eq_of_length (place.trans (headerFor_length digests _ _).symm)]
      exact .answering same (List.cons_ne_nil _ _)

/-- The device plays its role opposite the tool with a larger image. -/
theorem refusing_plays (digests : Digests platform) (pushable : Pushable image) {device : Device}
    {partition : PartitionEntry}
    (target : findApp device.table (platform.nextPartition device.selected) = some partition)
    (larger : partition.len < image.length) :
    Plays (Receiver.party .none) (refusing platform image device)
      (Push.headerFor platform platform.password image) where
  sends := by
    intro state heard unsaid items has wants
    cases has with
    | answering untouched some_ =>
      obtain rfl := Want.send.inj wants
      refine ⟨some_, List.prefix_rfl, ?_⟩
      intro count positive there
      simp only [Receiver.party, Receiver.sent]
      split
      · next done =>
        rw [done]
        exact .ended untouched
      · next more => exact .answering untouched more
    | header => cases wants
    | ended => cases wants
  receives := by
    intro state heard unsaid limit has wants
    have headerLength := headerFor_length digests platform.password image
    cases has with
    | header untouched open_ =>
      obtain rfl := Want.receive.inj wants
      refine ⟨by omega, ?_, fun items some_ small within => ?_⟩
      · rintro rfl
        omega
      exact header_refusing digests pushable target larger untouched open_ some_ small within
    | answering => cases wants
    | ended => cases wants
  halts := by
    intro state heard unsaid has wants
    cases has with
    | ended => exact ⟨rfl, rfl⟩
    | header => cases wants
    | answering => cases wants

theorem Refusing.untouched {device : Device} {receiver : Receiver platform} {header heard unsaid : List UInt8}
    (refusing : Refusing device header receiver heard unsaid) : receiver.upload.device = device := by
  cases refusing with
  | header untouched => exact untouched
  | answering untouched => exact untouched
  | ended untouched => exact untouched

theorem Refusing.halted {device : Device} {receiver : Receiver platform} {header heard unsaid : List UInt8}
    (refusing : Refusing device header receiver heard unsaid) (halted : receiver.want = .halted) :
    ∃ abort, receiver.phase = .ended (.error abort) := by
  cases refusing with
  | ended => exact ⟨_, rfl⟩
  | header => cases halted
  | answering => cases halted

/-! ## Agreement -/

/-- While both wait, the tool has not said all the device waits for, or the
device has not. -/
theorem installing_turns (digests : Digests platform) (start : Upload) :
    TakesTurns (Push.party image) (Receiver.party .none)
      (pushing (Push.headerFor platform platform.password image) image) (installing platform image start) := by
  rintro state heard unsaid limit ⟨upload, phase⟩ heard' unsaid' limit' has wants ⟨_, _, goes⟩ wants' said
    said'
  have said := congrArg List.length said
  have said' := congrArg List.length said'
  simp only [pushing, installing, List.length_append, headerFor_length digests] at said said'
  have ready : readyLine.length = 6 := rfl
  have ok : okLine.length = 13 := rfl
  cases goes with
  | header open_ =>
    cases has with
    | ready => omega
    | installed =>
      rw [List.length_nil] at said
      omega
    | header => cases wants
    | image => cases wants
    | ended => cases wants
  | image place open_ =>
    cases has with
    | @ready _ later some_ line =>
      have short := congrArg List.length line
      have positive := List.length_pos_of_ne_nil some_
      rw [List.length_append] at short
      omega
    | installed =>
      simp only [chunkLen] at open_
      rw [List.length_nil] at said
      omega
    | header => cases wants
    | image => cases wants
    | ended => cases wants
  | announcing => cases wants'
  | answering => cases wants'
  | ended => cases wants'

theorem refusing_turns (digests : Digests platform) (device : Device) :
    TakesTurns (Push.party image) (Receiver.party .none)
      (refused (Push.headerFor platform platform.password image)) (refusing platform image device) := by
  intro state heard unsaid limit state' heard' unsaid' limit' has wants has' wants' said
  have said := congrArg List.length said
  rw [refused, headerFor_length digests] at said
  cases has' with
  | header untouched open_ =>
    cases has with
    | ready =>
      rw [List.append_nil] at said
      omega
    | header => cases wants
    | ended => cases wants
  | answering => cases wants'
  | ended => cases wants'

/-- The tool connects with the header, if there is a password. -/
theorem connect_eq (pushable : Pushable image) (device : Device) (flashBuffer : List UInt8) :
    connect platform password image device flashBuffer =
      if password = [] then .error .usage
      else .ok ⟨.header (Push.headerFor platform password image),
        Receiver.start platform device flashBuffer, [], []⟩ := by
  have aligned : ¬ (image.length = 0 ∨ image.length % 4 ≠ 0) := by
    have := pushable.aligned
    have := pushable.some_
    omega
  unfold connect Push.start
  by_cases open_ : password = []
  · rw [if_pos open_, if_pos open_]
    rfl
  · rw [if_neg open_, if_neg open_, if_neg aligned, if_neg (not_le.mpr pushable.small)]
    rfl

theorem headerFor_ne_nil (digests : Digests platform) (password image : List UInt8) :
    Push.headerFor platform password image ≠ [] := by
  refine List.ne_nil_of_length_pos ?_
  rw [headerFor_length digests]
  decide

/-- The connection once the tool has connected. -/
def connected (platform : Platform) (image : List UInt8) (device : Device) (flashBuffer : List UInt8) :
    Duplex.Connection Push (Receiver platform) UInt8 :=
  ⟨.header (Push.headerFor platform platform.password image),
    Receiver.start platform device flashBuffer, [], []⟩

section Connected

variable {device : Device} {flashBuffer : List UInt8} {partition : PartitionEntry}

/-- An image that fits its slot is installed. -/
theorem push_installs (digests : Digests platform) (pushable : Pushable image)
    (target : findApp device.table (platform.nextPartition device.selected) = some partition)
    (plain : device.flashEncryption = false) (fits : image.length ≤ partition.len) :
    Concludes (Push.party image) (Receiver.party .none) (connected platform image device flashBuffer)
      fun after => after.client = .ended (.ok ()) ∧ after.server.phase = .ended (.ok ()) ∧
        after.server.upload.device.flash.Holds partition.offset image ∧
        after.server.upload.device.selected = platform.nextPartition device.selected := by
  have installs : Installs platform image (Receiver.start platform device flashBuffer).upload :=
    installs_pushed digests pushable target plain fits
  have heard : Heard .none _ (Receiver.start platform device flashBuffer) [] := heard_start device flashBuffer
  have talk : Talk (pushing (Push.headerFor platform platform.password image) image)
      (installing platform image (Receiver.start platform device flashBuffer).upload) _
      (connected platform image device flashBuffer) :=
    ⟨[], _, [], _, .header (headerFor_ne_nil digests _ _),
      ⟨heard, List.nil_prefix, .header (by decide)⟩, rfl, rfl, rfl⟩
  refine (talk.concludes (pushing_plays _ _) (installing_plays digests pushable installs)
    (installing_turns digests _)).mono ?_
  rintro after ⟨has, halted, has', halted'⟩
  exact ⟨has.halted halted, installing_halted digests pushable target has' halted'⟩

/-- A larger image is refused, and the device stays as it was all along. -/
theorem push_refused (digests : Digests platform) (pushable : Pushable image)
    (target : findApp device.table (platform.nextPartition device.selected) = some partition)
    (larger : partition.len < image.length) :
    Concludes (Push.party image) (Receiver.party .none) (connected platform image device flashBuffer)
        (fun after => (∃ error, after.client = .ended (.error error)) ∧
          ∃ abort, after.server.phase = .ended (.error abort)) ∧
      ∀ moves after, run (Push.party image) (Receiver.party .none)
        (connected platform image device flashBuffer) moves = some after →
        after.server.upload.device = device := by
  have talk : Talk (refused (Push.headerFor platform platform.password image))
      (refusing platform image device) _ (connected platform image device flashBuffer) :=
    ⟨[], _, [], _, .header (headerFor_ne_nil digests _ _), .header rfl (by decide), rfl, rfl, rfl⟩
  have tool := refused_plays (Push.headerFor platform platform.password image) image
  have there := refusing_plays digests pushable target larger
  constructor
  · refine (talk.concludes tool there (refusing_turns digests device)).mono ?_
    rintro after ⟨has, halted, has', halted'⟩
    exact ⟨⟨_, has.halted halted⟩, has'.halted halted'⟩
  · intro moves after ran
    obtain ⟨_, ⟨_, _, _, _, _, has, _⟩, _⟩ := talk.run tool there ran
    exact has.untouched

end Connected

/-- **The push tool and the device agree.** However the network cuts the two
streams and whoever goes first: with a password, an image that fits the target
slot of a device without flash encryption is installed in it, and both sides end
in success; with a larger image the tool fails and the device stays as it was. -/
theorem push_agrees (digests : Digests platform) (pushable : Pushable image) (device : Device)
    (flashBuffer : List UInt8) {partition : PartitionEntry}
    (target : findApp device.table (platform.nextPartition device.selected) = some partition) :
    (platform.password ≠ [] → device.flashEncryption = false → image.length ≤ partition.len →
      ∃ connection, connect platform platform.password image device flashBuffer = .ok connection ∧
        Concludes (Push.party image) (Receiver.party .none) connection fun after =>
          after.client = .ended (.ok ()) ∧ after.server.phase = .ended (.ok ()) ∧
            after.server.upload.device.flash.Holds partition.offset image ∧
            after.server.upload.device.selected = platform.nextPartition device.selected) ∧
      (partition.len < image.length → ∀ connection,
        connect platform platform.password image device flashBuffer = .ok connection →
        Concludes (Push.party image) (Receiver.party .none) connection (fun after =>
          (∃ error, after.client = .ended (.error error)) ∧
            ∃ abort, after.server.phase = .ended (.error abort)) ∧
        ∀ moves after, run (Push.party image) (Receiver.party .none) connection moves = some after →
          after.server.upload.device = device) := by
  rw [connect_eq pushable]
  constructor
  · intro protected_ plain fits
    rw [if_neg protected_]
    exact ⟨_, rfl, push_installs digests pushable target plain fits⟩
  · intro larger connection connects
    split at connects
    · cases connects
    · cases connects
      exact push_refused digests pushable target larger

theorem shortImage_pushable : Pushable [0xe9, 1, 2, 3] := ⟨by decide, by decide, by decide, rfl⟩

/-- Four bytes more than a slot of `partitions.csv`. -/
def largeImage : List UInt8 := 0xe9 :: List.replicate 0x4f0003 0

/-- The two hashes as they are on `largeImage` under the password `iot`. -/
def largePlatform : Platform :=
  let digest : List UInt8 :=
    [0xea, 0x90, 0xae, 0x21, 0xce, 0x46, 0x48, 0x95, 0x01, 0x83, 0xe5, 0xbf, 0x77, 0xad, 0xf6, 0x6e,
      0x09, 0xf2, 0x35, 0x8c, 0xb7, 0xaa, 0x7d, 0x33, 0x26, 0xad, 0xa4, 0x08, 0xd2, 0x2e, 0xf6, 0x46]
  let mac : List UInt8 :=
    [0xfa, 0x76, 0xa3, 0x42, 0x50, 0x9b, 0xf8, 0x70, 0xba, 0x94, 0x40, 0x05, 0x12, 0xb7, 0x2c, 0xcb,
      0xcd, 0x65, 0x7f, 0x50, 0xa1, 0x4e, 0x0b, 0x7b, 0xcf, 0x65, 0xb6, 0xce, 0x63, 0x7b, 0x01, 0xc6]
  { shortPlatform with
    hmac := fun _ _ => mac
    sha256 := fun _ => digest
    hasherFinalize := fun _ => digest
    hasher_contract := fun _ => rfl }

theorem largeImage_length : largeImage.length = 0x4f0004 := by
  rw [largeImage, List.length_cons, List.length_replicate]

theorem largeImage_pushable : Pushable largeImage where
  some_ := by
    rw [largeImage_length]
    decide
  aligned := by
    rw [largeImage_length]
    decide
  small := by
    rw [largeImage_length]
    decide
  first := rfl

theorem push_agrees_short :
    (∃ connection,
      connect shortPlatform shortPlatform.password [0xe9, 1, 2, 3] runningFirstSlot [] = .ok connection ∧
      Concludes (Push.party [0xe9, 1, 2, 3]) (Receiver.party .none) connection fun after =>
        after.client = .ended (.ok ()) ∧ after.server.phase = .ended (.ok ()) ∧
          after.server.upload.device.flash.Holds 0x9f0000 [0xe9, 1, 2, 3] ∧
          after.server.upload.device.selected = .ota 1) ∧
      ∀ connection,
        connect largePlatform largePlatform.password largeImage runningFirstSlot [] = .ok connection →
        Concludes (Push.party largeImage) (Receiver.party .none) connection fun after =>
          (∃ error, after.client = .ended (.error error)) ∧
            ∃ abort, after.server.phase = .ended (.error abort) := by
  refine ⟨?_, fun connection connected => ?_⟩
  · have digests : Digests shortPlatform := ⟨fun _ => rfl, fun _ _ => rfl⟩
    have target : findApp partitions (.ota 1) = some secondSlot := rfl
    exact (push_agrees digests shortImage_pushable runningFirstSlot [] target).1 (by decide) rfl (by decide)
  · have digests : Digests largePlatform := ⟨fun _ => rfl, fun _ _ => rfl⟩
    have target : findApp partitions (.ota 1) = some secondSlot := rfl
    refine ((push_agrees digests largeImage_pushable runningFirstSlot [] target).2 ?_ connection connected).1
    rw [largeImage_length]
    decide

/-- With an empty password the tool does not connect, and a device with flash
encryption refuses every image. -/
theorem push_needs_password_and_plain_flash :
    Pushable [0xe9, 1, 2, 3] ∧
      connect { shortPlatform with password := [] } [] [0xe9, 1, 2, 3] runningFirstSlot [] = .error .usage ∧
      ∃ connection moves after,
        connect shortPlatform shortPlatform.password [0xe9, 1, 2, 3]
          { runningFirstSlot with flashEncryption := true } [] = .ok connection ∧
        run (Push.party [0xe9, 1, 2, 3]) (Receiver.party .none) connection moves = some after ∧
        after.client = .ended (.error (.refused errLine)) := by
  refine ⟨shortImage_pushable, rfl, _,
    [.clientSends 76, .serverReceives 76, .serverSends 20] ++ List.replicate 20 (.clientReceives 1),
    _, rfl, rfl, ?_⟩
  decide +kernel

end EnergyDisplay.Ota

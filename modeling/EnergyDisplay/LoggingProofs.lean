import EnergyDisplay.JsonWriterProofs

/-! Which structured records leave the formatter as JSON. The buffer refuses
what does not fit and the formatter goes on, so a record is cut somewhere and
shorter pieces may still follow the cut. -/
namespace EnergyDisplay.Logging

open JsonText

variable {N : ℕ} {output longer : HeaplessString N} {text value name : List Char}

/-! ## Members -/

/-- A comma, the name of a member and a colon. -/
def key (name : List Char) : List Char := ',' :: '"' :: (name ++ ['"', ':'])

theorem utf8Size_quote : Char.utf8Size '"' = 1 := rfl

theorem utf8Len_quote : utf8Len ['"'] = 1 := rfl

theorem utf8Len_brace : utf8Len ['\x7d'] = 1 := rfl

theorem utf8Len_lineKey : utf8Len (key "line".toList) = 8 := rfl

/-- A member whose value is a string. -/
def memberText (pair : List Char × List Char) : List Char :=
  key pair.1 ++ '"' :: (escaped pair.2 ++ ['"'])

def writeMember (output : HeaplessString N) (pair : List Char × List Char) : HeaplessString N :=
  jsonString (pushOk output (key pair.1)) pair.2

def lineText : Option UInt32 → List Char
  | none => []
  | some line => key "line".toList ++ Nat.toDigits 10 line.toNat

/-- The line number, if there is one, and the closing brace. -/
def finish (output : HeaplessString N) (line : Option UInt32) : HeaplessString N :=
  let output :=
    match line with
    | some line => (output.writePieces [key "line".toList, Nat.toDigits 10 line.toNat]).1
    | none => output
  pushOk output ['\x7d']

/-- The members before `component`; the brace and the first name are pushed
apart. -/
def header (level : Level) : HeaplessString structuredLogMessageCapacity :=
  let output := pushOk .empty ['\x7b']
  let output := pushOk output "\"app_name\":".toList
  let output := jsonString output structuredLogAppName
  let output := pushOk output ",\"hostname\":".toList
  let output := jsonString output structuredLogHostname
  let output := pushOk output ",\"proc_id\":\"1\",\"device\":\"energy-display\",\"level\":".toList
  jsonString output (levelName level)

/-- The members the record gives, in their order. -/
def members (record : Record) : List (List Char × List Char) :=
  ("component".toList, component record.target) :: ("message".toList, record.message) ::
    ("_msg".toList, record.message) :: ("target".toList, record.target) ::
      (record.modulePath.toList.map (Prod.mk "module_path".toList) ++
        record.file.toList.map (Prod.mk "file".toList))

theorem format_eq (record : Record) : formatStructuredLogMessage record =
    finish ((members record).foldl writeMember (header record.level)) record.line := by
  obtain ⟨level, target, args, modulePath, file, line⟩ := record
  have arguments : ∀ output : HeaplessString structuredLogMessageCapacity,
      jsonArguments output args = jsonString output args.flatten := fun output => by
    simp only [jsonArguments, jsonString, write_eq]
  simp only [formatStructuredLogMessage, arguments]
  cases modulePath <;> cases file <;> rfl

/-- The members before those of the record. -/
def headerMembers (level : Level) : List (List Char × List Char) :=
  [("hostname".toList, structuredLogHostname), ("proc_id".toList, ['1']),
    ("device".toList, "energy-display".toList), ("level".toList, levelName level)]

def headerText (level : Level) : List Char :=
  '\x7b' :: (memberText ("app_name".toList, structuredLogAppName)).tail ++
    (headerMembers level).flatMap memberText

theorem header_items (level : Level) : (header level).items = headerText level := by
  cases level <;> decide +kernel

/-! ## What is refused -/

theorem pushOk_fits (fits : utf8Len output.items + utf8Len text ≤ N) :
    (pushOk output text).items = output.items ++ text := by
  obtain ⟨longer, pushed, items⟩ := HeaplessString.pushStr_fits fits
  rw [pushOk, pushed, Option.getD_some, items]

theorem pushOk_refused (full : N < utf8Len output.items + utf8Len text) : pushOk output text = output := by
  rw [pushOk, HeaplessString.pushStr_refused full, Option.getD_none]

theorem prefix_pushOk (output : HeaplessString N) (text : List Char) :
    output.items <+: (pushOk output text).items := by
  by_cases fits : utf8Len output.items + utf8Len text ≤ N
  · rw [pushOk_fits fits]
    exact List.prefix_append _ _
  · exact (pushOk_refused (Nat.lt_of_not_le fits)).symm ▸ List.prefix_rfl

theorem prefix_writePieces (output : HeaplessString N) (pieces : List (List Char)) :
    output.items <+: (output.writePieces pieces).1.items := by
  by_cases fits : utf8Len output.items + utf8Len pieces.flatten ≤ N
  · rw [(HeaplessString.writePieces_fits fits).2]
    exact List.prefix_append _ _
  · obtain ⟨_, before, _, _, _, items, _⟩ := HeaplessString.writePieces_cut (Nat.lt_of_not_le fits)
    rw [items]
    exact List.prefix_append _ _

theorem prefix_jsonString (output : HeaplessString N) (value : List Char) :
    output.items <+: (jsonString output value).items := by
  refine (prefix_pushOk output ['"']).trans (List.IsPrefix.trans ?_ (prefix_pushOk _ ['"']))
  rw [writeStr_eq]
  exact prefix_writePieces _ _

theorem prefix_writeMember (output : HeaplessString N) (pair : List Char × List Char) :
    output.items <+: (writeMember output pair).items :=
  (prefix_pushOk output (key pair.1)).trans (prefix_jsonString _ _)

theorem prefix_writeMembers (output : HeaplessString N) (pairs : List (List Char × List Char)) :
    output.items <+: (pairs.foldl writeMember output).items := by
  induction pairs generalizing output with
  | nil => exact List.prefix_rfl
  | cons pair rest ih => exact (prefix_writeMember output pair).trans (ih _)

theorem prefix_finish (output : HeaplessString N) (line : Option UInt32) :
    output.items <+: (finish output line).items := by
  cases line with
  | none => exact prefix_pushOk output _
  | some line => exact (prefix_writePieces output _).trans (prefix_pushOk _ _)

/-- The scanner has read one text, and no bracket is left open. -/
def Scanned (text : List Char) : Prop := scan (.start, 0) text = some (.done, 0)

/-- Nothing that can still be written makes the output JSON. -/
def Dead (output : HeaplessString N) : Prop :=
  ∀ more, utf8Len (output.items ++ more) ≤ N → ¬Scanned (output.items ++ more)

theorem Dead.not_scanned (dead : Dead output) : ¬Scanned output.items := by
  simpa using dead [] (by simpa using HeaplessString.utf8Len_le output)

theorem Dead.later (dead : Dead output) (extends_ : output.items <+: longer.items) : Dead longer := by
  obtain ⟨written, same⟩ := extends_
  intro more fits
  rw [← same, List.append_assoc] at fits ⊢
  exact dead _ fits

/-- The scanner is stuck. -/
theorem dead_of_stuck (stuck : scan (.start, 0) output.items = none) : Dead output := by
  intro more _ scanned
  rw [Scanned, scan_append, stuck] at scanned
  cases scanned

/-- There is no room left. -/
theorem dead_of_full (full : utf8Len output.items = N) (unfinished : ¬Scanned output.items) :
    Dead output := by
  intro more fits
  have nothing : more = [] := by
    rcases more with _ | ⟨character, rest⟩
    · rfl
    · have := character.utf8Size_pos
      rw [utf8Len_append, utf8Len_cons] at fits
      omega
  rwa [nothing, List.append_nil]

/-- A record so far: the object is open, and a member may follow. -/
def Ready (output : HeaplessString N) : Prop := scan (.start, 0) output.items = some (.done, 1)

theorem Ready.unfinished (ready : Ready output) : ¬Scanned output.items := by
  rw [Scanned, ready]
  decide

/-- The name of a member needs no escape. -/
def Name (name : List Char) : Prop := ∀ character ∈ name, Plain character

instance (name : List Char) : Decidable (Name name) := List.decidableBAll Plain name

theorem scan_key (named : Name name) (depth : ℕ) :
    scan (.done, depth) (key name) = some (.start, depth) := by
  have inside := scan_quoted (.plain named) (Or.inl rfl : Fresh .start) depth [':']
  rw [key, scan_separator (Or.inl rfl)]
  exact inside

theorem scan_pieces {pieces : List (List Char)}
    (each : ∀ piece ∈ pieces, ∃ character, piece ∈ JsonWriter.pieces character) (depth : ℕ) :
    scan (.text, depth) pieces.flatten = some (.text, depth) := by
  induction pieces with
  | nil => rfl
  | cons piece rest ih =>
    obtain ⟨⟨character, member⟩, others⟩ := List.forall_mem_cons.mp each
    rw [List.flatten_cons, scan_append, scan_piece member]
    exact ih others

theorem scan_memberText {pair : List Char × List Char} (named : Name pair.1) (depth : ℕ) :
    scan (.done, depth) (memberText pair) = some (.done, depth) := by
  rw [memberText, scan_append, scan_key named, Option.bind_some,
    scan_quoted (body_escaped pair.2) (Or.inl rfl)]
  rfl

/-- A quote is refused only by a full buffer. -/
theorem pushOk_quote (output : HeaplessString N) :
    (utf8Len output.items + 1 ≤ N ∧ (pushOk output ['"']).items = output.items ++ ['"']) ∨
      utf8Len output.items = N ∧ pushOk output ['"'] = output := by
  have one := utf8Len_quote
  by_cases room : utf8Len output.items + utf8Len ['"'] ≤ N
  · exact Or.inl ⟨by omega, pushOk_fits room⟩
  · have le := HeaplessString.utf8Len_le output
    exact Or.inr ⟨by omega, pushOk_refused (by omega)⟩

/-- A second string right behind a value, or no room for one. -/
theorem dead_jsonString (ready : Ready output) (value : List Char) : Dead (jsonString output value) := by
  have extends_ : (pushOk output ['"']).items <+: (jsonString output value).items := by
    refine List.IsPrefix.trans ?_ (prefix_pushOk _ ['"'])
    rw [writeStr_eq]
    exact prefix_writePieces _ _
  refine Dead.later ?_ extends_
  rcases pushOk_quote output with ⟨_, items⟩ | ⟨full, same⟩
  · refine dead_of_stuck ?_
    rw [items, scan_append, ready]
    rfl
  · rw [same]
    exact dead_of_full full ready.unfinished

/-- A record whose next member was written: whole, or cut in its string and
closed all the same, or so that nothing makes it JSON any more. -/
inductive Wrote (output : HeaplessString N) (pair : List Char × List Char) (longer : HeaplessString N) :
    Prop where
  | whole (fits : utf8Len output.items + utf8Len (memberText pair) ≤ N)
      (items : longer.items = output.items ++ memberText pair)
  | closed (before : List (List Char)) (piece : List Char) (after : List (List Char))
      (split : pair.2.flatMap JsonWriter.pieces = before ++ piece :: after)
      (items : longer.items = output.items ++ (key pair.1 ++ '"' :: (before.flatten ++ ['"'])))
      (full : N + 1 < utf8Len longer.items + utf8Len piece) (ready : Ready longer)
  | dead (dead : Dead longer)

/-- A string is closed, or nothing makes the output JSON any more. -/
theorem closes_or_dead (inside : scan (.start, 0) output.items = some (.text, 1)) :
    (pushOk output ['"']).items = output.items ++ ['"'] ∨ Dead (pushOk output ['"']) := by
  rcases pushOk_quote output with ⟨_, items⟩ | ⟨full, same⟩
  · exact Or.inl items
  · rw [same]
    exact Or.inr (dead_of_full full (by rw [Scanned, inside]; decide))

/-- The string of a member whose name is written. -/
theorem jsonString_wrote {pair : List Char × List Char} {keyed : HeaplessString N} (ready : Ready output)
    (named : Name pair.1) (items : keyed.items = output.items ++ key pair.1) :
    Wrote output pair (jsonString keyed pair.2) := by
  have atKey : scan (.start, 0) keyed.items = some (.start, 1) := by
    rw [items, scan_append, ready]
    exact scan_key named 1
  unfold jsonString
  simp only [writeStr_eq]
  rcases pushOk_quote keyed with ⟨_, opened⟩ | ⟨full, same⟩
  case inr =>
    rw [same]
    have dead := dead_of_full full (by rw [Scanned, atKey]; decide)
    exact .dead (dead.later ((prefix_writePieces _ _).trans (prefix_pushOk _ _)))
  generalize pushOk keyed ['"'] = quoted at opened
  have within : ∀ pieces : List (List Char),
      (∀ piece ∈ pieces, ∃ character, piece ∈ JsonWriter.pieces character) →
        scan (.start, 0) (quoted.items ++ pieces.flatten) = some (.text, 1) := fun pieces each => by
    rw [opened, scan_append, scan_append, atKey]
    exact scan_pieces each 1
  have each : ∀ piece ∈ pair.2.flatMap JsonWriter.pieces,
      ∃ character, piece ∈ JsonWriter.pieces character := fun piece member =>
    let ⟨character, _, inside⟩ := List.mem_flatMap.mp member
    ⟨character, inside⟩
  by_cases fits : utf8Len quoted.items + utf8Len (pair.2.flatMap JsonWriter.pieces).flatten ≤ N
  · have written := (HeaplessString.writePieces_fits fits).2
    generalize (quoted.writePieces (pair.2.flatMap JsonWriter.pieces)).1 = filled at written ⊢
    rcases closes_or_dead (written ▸ within _ each) with closed | dead
    · have all := closed.trans (by rw [written, opened, items])
      have bounded := HeaplessString.utf8Len_le (pushOk filled ['"'])
      refine .whole ?_ (all.trans (by simp [memberText, escaped]))
      rw [all] at bounded
      simpa [memberText, escaped, Nat.add_assoc] using bounded
    · exact .dead dead
  · obtain ⟨_, before, piece, after, split, written, over_⟩ :=
      HeaplessString.writePieces_cut (Nat.lt_of_not_le fits)
    have some_ : ∀ piece ∈ before, ∃ character, piece ∈ JsonWriter.pieces character :=
      fun piece member => each piece (split ▸ List.mem_append_left _ member)
    rcases closes_or_dead (written ▸ within _ some_) with closed | dead
    · have all := closed.trans (by rw [written, opened, items])
      have one := utf8Len_quote
      refine .closed before piece after split (all.trans (by simp)) ?_ ?_
      · rw [closed, written, utf8Len_append, utf8Len_append, one]
        omega
      · rw [Ready, closed, written, scan_append, within before some_]
        rfl
    · exact .dead dead

theorem writeMember_wrote {pair : List Char × List Char} (ready : Ready output) (named : Name pair.1) :
    Wrote output pair (writeMember output pair) := by
  unfold writeMember
  by_cases room : utf8Len output.items + utf8Len (key pair.1) ≤ N
  · exact jsonString_wrote ready named (pushOk_fits room)
  · rw [pushOk_refused (Nat.lt_of_not_le room)]
    exact .dead (dead_jsonString ready _)

/-! ## What a record must be like -/

/-- The rest of a record is written whole behind so many bytes. -/
def FitsWhole (N len : ℕ) (pairs : List (List Char × List Char)) (line : Option UInt32) : Prop :=
  len + utf8Len (pairs.flatMap memberText) + utf8Len (lineText line) + 1 ≤ N

/-- There is no room for the name of the line number, but for the brace. -/
def DropsLine (N len : ℕ) (pairs : List (List Char × List Char)) (line : Option UInt32) : Prop :=
  line.isSome = true ∧ len + utf8Len (pairs.flatMap memberText) + 1 ≤ N ∧
    N < len + utf8Len (pairs.flatMap memberText) + 8

/-- The last string is cut before a character of three or four bytes, with room
left for a quote and the brace. -/
def CutsWide (N len : ℕ) (pairs : List (List Char × List Char)) : Prop :=
  ∃ earlier name before character after, pairs = earlier ++ [(name, before ++ character :: after)] ∧
    let start := len + utf8Len (earlier.flatMap memberText) + utf8Len (key name) + 1 +
      utf8Len (escaped before)
    start + 2 ≤ N ∧ N < start + character.utf8Size

theorem piece_size {character : Char} {piece : List Char} (member : piece ∈ JsonWriter.pieces character) :
    utf8Len piece ≤ 4 := by
  rcases Nat.lt_or_ge 2 (utf8Len piece) with wide | narrow
  · rw [(wide_piece member wide).1]
    simpa using character.utf8Size_le_four
  · omega

/-- A piece of a text is one of the pieces of some character. -/
theorem pieces_split {before after : List (List Char)} {piece : List Char}
    (split : value.flatMap JsonWriter.pieces = before ++ piece :: after) :
    ∃ earlier character later front back, value = earlier ++ character :: later ∧
      JsonWriter.pieces character = front ++ piece :: back ∧
      before = earlier.flatMap JsonWriter.pieces ++ front := by
  induction value generalizing before with
  | nil => simp at split
  | cons character rest ih =>
    rw [List.flatMap_cons] at split
    rcases List.append_eq_append_iff.mp split with ⟨more, rfl, later⟩ | ⟨more, here, later⟩
    · obtain ⟨earlier, other, after_, front, back, rfl, inside, rfl⟩ := ih later
      exact ⟨character :: earlier, other, after_, front, back, rfl, inside, by simp⟩
    · rcases more with _ | ⟨head, back⟩
      · obtain ⟨earlier, other, after_, front, back, rfl, inside, none_⟩ := @ih [] later.symm
        refine ⟨character :: earlier, other, after_, front, back, rfl, inside, ?_⟩
        rw [List.flatMap_cons, here, List.append_assoc, ← none_]
        simp
      · obtain ⟨rfl, _⟩ := List.cons.inj later
        exact ⟨[], character, rest, before, back, rfl, here, rfl⟩

/-- A wide piece is a character on its own. -/
theorem wide_split {before after : List (List Char)} {piece : List Char}
    (split : value.flatMap JsonWriter.pieces = before ++ piece :: after) (wide : 2 < utf8Len piece) :
    ∃ earlier character later, value = earlier ++ character :: later ∧
      utf8Len piece = character.utf8Size ∧ before.flatten = escaped earlier := by
  obtain ⟨earlier, character, later, front, back, whole, inside, rfl⟩ := pieces_split split
  have member : piece ∈ JsonWriter.pieces character := by simp [inside]
  obtain ⟨rfl, alone⟩ := wide_piece member wide
  rw [alone] at inside
  have nothing : front = [] := by
    rcases front with _ | ⟨head, tail⟩
    · rfl
    · simp at inside
  exact ⟨earlier, character, later, whole, by simp, by simp [nothing, escaped]⟩

/-- A brace is refused only by a full buffer. -/
theorem pushOk_brace (scanned : Scanned (pushOk output ['\x7d']).items)
    (unfinished : ¬Scanned output.items) :
    utf8Len output.items + 1 ≤ N ∧ (pushOk output ['\x7d']).items = output.items ++ ['\x7d'] := by
  have one := utf8Len_brace
  by_cases room : utf8Len output.items + utf8Len ['\x7d'] ≤ N
  · exact ⟨by omega, pushOk_fits room⟩
  · rw [pushOk_refused (Nat.lt_of_not_le room)] at scanned
    exact absurd scanned unfinished

theorem lineKey_name : Name "line".toList := by decide

theorem scan_lineText (line : UInt32) (depth : ℕ) :
    scan (.done, depth) (lineText (some line)) = some (.done, depth) := by
  obtain ⟨some_, ordinary⟩ := number_ordinary (number_toDigits line.toNat)
  rw [lineText, scan_append, scan_key lineKey_name]
  exact scan_ordinary some_ ordinary (Or.inl rfl) depth

/-- The line number is written whole, or its name was refused. -/
theorem line_written {line : UInt32} {lined : HeaplessString N} (ready : Ready output)
    (written : lined = (output.writePieces [key "line".toList, Nat.toDigits 10 line.toNat]).1)
    (scanned : Scanned (pushOk lined ['\x7d']).items) :
    lined.items = output.items ++ lineText (some line) ∨
      lined.items = output.items ∧ N < utf8Len output.items + 8 := by
  by_cases fits : utf8Len output.items +
      utf8Len [key "line".toList, Nat.toDigits 10 line.toNat].flatten ≤ N
  · rw [written, (HeaplessString.writePieces_fits fits).2]
    exact Or.inl (by simp [lineText])
  · obtain ⟨_, before, piece, after, split, items, over_⟩ :=
      HeaplessString.writePieces_cut (Nat.lt_of_not_le fits)
    rw [← written] at items
    rcases before with _ | ⟨first, before⟩
    · obtain ⟨rfl, _⟩ := List.cons.inj split
      have eight := utf8Len_lineKey
      rw [eight] at over_
      exact Or.inr ⟨by simpa using items, by simpa using over_⟩
    · -- the digits were refused: the brace stands right behind the colon
      obtain ⟨rfl, rest⟩ := List.cons.inj split
      have nothing : before = [] := by
        rcases before with _ | ⟨second, before⟩
        · rfl
        · simp at rest
      have atColon : scan (.start, 0) lined.items = some (.start, 1) := by
        rw [items, nothing, scan_append, ready]
        simpa using scan_key lineKey_name 1
      obtain ⟨_, closed⟩ := pushOk_brace scanned (by rw [Scanned, atColon]; decide)
      rw [closed, Scanned, scan_append, atColon] at scanned
      cases scanned

theorem finish_scanned {line : Option UInt32} (ready : Ready output)
    (scanned : Scanned (finish output line).items) :
    FitsWhole N (utf8Len output.items) [] line ∨ DropsLine N (utf8Len output.items) [] line := by
  cases line with
  | none =>
    obtain ⟨room, _⟩ := pushOk_brace scanned ready.unfinished
    exact Or.inl (by simpa [FitsWhole, lineText] using room)
  | some line =>
    simp only [finish] at scanned
    generalize written : (output.writePieces [key "line".toList, Nat.toDigits 10 line.toNat]).1 = lined
      at scanned
    rcases line_written ready written.symm scanned with all | ⟨same, full⟩
    · have atEnd : scan (.start, 0) lined.items = some (.done, 1) := by
        rw [all, scan_append, ready]
        exact scan_lineText line 1
      obtain ⟨room, _⟩ := pushOk_brace scanned (by rw [Scanned, atEnd]; decide)
      rw [all, utf8Len_append] at room
      exact Or.inl (by simpa [FitsWhole] using room)
    · obtain ⟨room, _⟩ := pushOk_brace scanned (by rw [same]; exact ready.unfinished)
      rw [same] at room
      exact Or.inr ⟨rfl, by simpa using room, by simpa using full⟩

theorem Wrote.ready {pair : List Char × List Char} (ready : Ready output) (named : Name pair.1)
    (items : longer.items = output.items ++ memberText pair) : Ready longer := by
  rw [Ready, items, scan_append, ready]
  exact scan_memberText named 1

/-- Behind a string that was cut and closed there is no room for a name. -/
theorem dead_after_closed {piece : List Char} {character : Char} (ready : Ready output)
    (full : N + 1 < utf8Len output.items + utf8Len piece) (member : piece ∈ JsonWriter.pieces character)
    (pair : List Char × List Char) : Dead (writeMember output pair) := by
  have narrow := piece_size member
  have four : 4 ≤ utf8Len (key pair.1) := by
    have marks : utf8Len ['"', ':'] = 2 ∧ Char.utf8Size ',' = 1 ∧ Char.utf8Size '"' = 1 := by decide
    rw [key, utf8Len_cons, utf8Len_cons, utf8Len_append]
    omega
  rw [writeMember, pushOk_refused (by omega)]
  exact dead_jsonString ready _

theorem Dead.not_finished (dead : Dead output) (pairs : List (List Char × List Char))
    (line : Option UInt32) : ¬Scanned (finish (pairs.foldl writeMember output) line).items :=
  (dead.later ((prefix_writeMembers output pairs).trans (prefix_finish _ line))).not_scanned

/-- A record the scanner reads is written whole, or cut in one of the two ways
that leave no trace. -/
theorem fate_of_scanned {pairs : List (List Char × List Char)} {line : Option UInt32}
    (ready : Ready output) (named : ∀ pair ∈ pairs, Name pair.1)
    (scanned : Scanned (finish (pairs.foldl writeMember output) line).items) :
    FitsWhole N (utf8Len output.items) pairs line ∨ DropsLine N (utf8Len output.items) pairs line ∨
      CutsWide N (utf8Len output.items) pairs := by
  induction pairs generalizing output with
  | nil => exact (finish_scanned ready scanned).imp_right Or.inl
  | cons pair rest ih =>
    obtain ⟨name, others⟩ := List.forall_mem_cons.mp named
    rw [List.foldl_cons] at scanned
    have wrote := writeMember_wrote ready name
    generalize writeMember output pair = longer at wrote scanned
    cases wrote with
    | whole fits items =>
      have fate := ih (Wrote.ready ready name items) others scanned
      rw [items, utf8Len_append] at fate
      refine fate.imp ?_ (Or.imp ?_ ?_)
      · simp only [FitsWhole, List.flatMap_cons, utf8Len_append]
        omega
      · rintro ⟨given, room, full⟩
        refine ⟨given, ?_, ?_⟩ <;> rw [List.flatMap_cons, utf8Len_append] <;> omega
      · rintro ⟨earlier, last, before, character, after, rfl, room, wide⟩
        refine ⟨pair :: earlier, last, before, character, after, rfl, ?_⟩
        simp only [List.flatMap_cons, utf8Len_append]
        omega
    | closed before piece after split items full closed =>
      obtain ⟨character, _, member⟩ := List.mem_flatMap.mp
        (show piece ∈ pair.2.flatMap JsonWriter.pieces by simp [split])
      rcases rest with _ | ⟨next, rest⟩
      · have room : utf8Len longer.items + 1 ≤ N := by
          rcases finish_scanned closed scanned with fits | ⟨_, room, _⟩
          · simp only [FitsWhole] at fits
            omega
          · simpa using room
        obtain ⟨earlier, wide, later, value, size, flat⟩ := wide_split split (by omega)
        have one := utf8Len_quote
        have quote := utf8Size_quote
        rw [items, flat] at room full
        simp only [utf8Len_append, utf8Len_cons, utf8Len_nil] at room full
        refine Or.inr (Or.inr ⟨[], pair.1, earlier, wide, later, by rw [← value]; rfl, ?_⟩)
        simp only [List.flatMap_nil, utf8Len_nil]
        omega
      · exact absurd scanned ((dead_after_closed closed full member next).not_finished rest line)
    | dead dead => exact absurd scanned (dead.not_finished rest line)

/-! ## What such a record is -/

/-- A member with room for what its string writes. -/
theorem writeMember_room {pair : List Char × List Char} {written : List Char}
    (room : utf8Len output.items + utf8Len (key pair.1) + 1 + utf8Len written + 1 ≤ N)
    (string : ∀ quoted : HeaplessString N, quoted.items = output.items ++ key pair.1 ++ ['"'] →
      (quoted.writePieces (pair.2.flatMap JsonWriter.pieces)).1.items = quoted.items ++ written) :
    (writeMember output pair).items = output.items ++ (key pair.1 ++ '"' :: (written ++ ['"'])) := by
  have one := utf8Len_quote
  have keyed : (pushOk output (key pair.1)).items = output.items ++ key pair.1 := pushOk_fits (by omega)
  have quoted : (pushOk (pushOk output (key pair.1)) ['"']).items = output.items ++ key pair.1 ++ ['"'] := by
    rw [pushOk_fits (by rw [keyed, utf8Len_append]; omega), keyed]
  simp only [writeMember, jsonString, writeStr_eq]
  have filled := string _ quoted
  rw [quoted] at filled
  rw [pushOk_fits (by simp only [filled, utf8Len_append]; omega), filled]
  simp

theorem writeMember_fits {pair : List Char × List Char}
    (fits : utf8Len output.items + utf8Len (memberText pair) ≤ N) :
    (writeMember output pair).items = output.items ++ memberText pair := by
  have one := utf8Len_quote
  have quote := utf8Size_quote
  simp only [memberText, utf8Len_append, utf8Len_cons, utf8Len_nil] at fits
  refine writeMember_room (by omega) fun quoted items => (HeaplessString.writePieces_fits ?_).2
  rw [items, utf8Len_append, utf8Len_append]
  simp only [escaped] at fits
  omega

theorem writeMembers_fits {pairs : List (List Char × List Char)}
    (fits : utf8Len output.items + utf8Len (pairs.flatMap memberText) ≤ N) :
    (pairs.foldl writeMember output).items = output.items ++ pairs.flatMap memberText := by
  induction pairs generalizing output with
  | nil => simp
  | cons pair rest ih =>
    rw [List.flatMap_cons, utf8Len_append] at fits
    have first : (writeMember output pair).items = output.items ++ memberText pair :=
      writeMember_fits (by omega)
    rw [List.foldl_cons, ih (by rw [first, utf8Len_append]; omega), first, List.flatMap_cons,
      List.append_assoc]

theorem finish_fits {line : Option UInt32} (fits : FitsWhole N (utf8Len output.items) [] line) :
    (finish output line).items = output.items ++ (lineText line ++ ['\x7d']) := by
  have one := utf8Len_brace
  simp only [FitsWhole, List.flatMap_nil, utf8Len_nil] at fits
  cases line with
  | none =>
    have room : utf8Len output.items + utf8Len ['\x7d'] ≤ N := by omega
    exact pushOk_fits room
  | some line =>
    have room : utf8Len output.items +
        utf8Len [key "line".toList, Nat.toDigits 10 line.toNat].flatten ≤ N := by
      simp only [lineText, utf8Len_append] at fits
      simp only [List.flatten_cons, List.flatten_nil, utf8Len_append, utf8Len_nil]
      omega
    have written := (HeaplessString.writePieces_fits room).2
    simp only [finish]
    generalize (output.writePieces [key "line".toList, Nat.toDigits 10 line.toNat]).1 = lined at written
    have all : lined.items = output.items ++ lineText (some line) := by simpa [lineText] using written
    rw [pushOk_fits (by rw [all, utf8Len_append]; omega), all, List.append_assoc]

/-- With no room for the name of the line number, the brace follows. -/
theorem finish_short (line : Option UInt32) (room : utf8Len output.items + 1 ≤ N)
    (short : N < utf8Len output.items + 8) : (finish output line).items = output.items ++ ['\x7d'] := by
  have one := utf8Len_brace
  have eight := utf8Len_lineKey
  have brace : utf8Len output.items + utf8Len ['\x7d'] ≤ N := by omega
  cases line with
  | none => exact pushOk_fits brace
  | some line =>
    have refused : output.pushStr (key "line".toList) = none :=
      HeaplessString.pushStr_refused (by omega)
    simp only [finish, HeaplessString.writePieces, refused]
    exact pushOk_fits brace

theorem pieces_wide (character : Char) (wide : 2 < character.utf8Size) :
    JsonWriter.pieces character = [[character]] := by
  rcases pieces_cases character with ⟨letter, _, known⟩ | ⟨control, _⟩ | ⟨_, same⟩
  · have narrow : ∀ pair ∈ shortEscapes, pair.2.utf8Size = 1 := by decide
    exact absurd wide (by rw [narrow _ known]; decide)
  · have ascii : character.val ≤ 127 := UInt32.le_iff_toNat_le.mpr (by
      simp only [Char.toNat] at control
      have : (127 : UInt32).toNat = 127 := by decide
      omega)
    exact absurd wide (by rw [Char.utf8Size_eq_one_iff.mpr ascii]; decide)
  · exact same

/-- A character that is refused ends the string it stands in. -/
theorem writePieces_wide {quoted : HeaplessString N} {before after : List Char} {character : Char}
    (room : utf8Len quoted.items + utf8Len (escaped before) + 2 ≤ N)
    (wide : N < utf8Len quoted.items + utf8Len (escaped before) + character.utf8Size) :
    (quoted.writePieces ((before ++ character :: after).flatMap JsonWriter.pieces)).1.items =
      quoted.items ++ escaped before := by
  have alone := pieces_wide character (by omega)
  obtain ⟨whole, items⟩ := HeaplessString.writePieces_fits
    (show utf8Len quoted.items + utf8Len (before.flatMap JsonWriter.pieces).flatten ≤ N by
      simp only [escaped] at room
      omega)
  rw [List.flatMap_append, HeaplessString.writePieces_append, List.flatMap_cons, alone]
  generalize quoted.writePieces (before.flatMap JsonWriter.pieces) = result at whole items
  obtain ⟨filled, flag⟩ := result
  dsimp only at whole items
  subst whole
  have refused : filled.pushStr [character] = none := by
    refine HeaplessString.pushStr_refused ?_
    rw [items, utf8Len_append, utf8Len_cons, utf8Len_nil]
    simp only [escaped] at wide
    omega
  simp only [List.cons_append, List.nil_append, HeaplessString.writePieces, refused]
  exact items

/-- A member cut before a wide character is the member of what came before. -/
theorem writeMember_wide {before after : List Char} {character : Char}
    (room : utf8Len output.items + utf8Len (key name) + 1 + utf8Len (escaped before) + 2 ≤ N)
    (wide : N < utf8Len output.items + utf8Len (key name) + 1 + utf8Len (escaped before) +
      character.utf8Size) :
    (writeMember output (name, before ++ character :: after)).items =
      output.items ++ memberText (name, before) := by
  have one := utf8Len_quote
  refine @writeMember_room N output (name, before ++ character :: after) (escaped before)
    (by dsimp only; omega) fun quoted items => ?_
  have len : utf8Len quoted.items = utf8Len output.items + utf8Len (key name) + 1 := by
    rw [items, utf8Len_append, utf8Len_append, one]
  exact writePieces_wide (by omega) (by omega)

/-- A member without the comma. -/
def bareMember (pair : List Char × List Char) : List Char :=
  '"' :: (pair.1 ++ '"' :: ':' :: '"' :: (escaped pair.2 ++ ['"']))

theorem memberText_eq (pair : List Char × List Char) : memberText pair = ',' :: bareMember pair := by
  simp [memberText, key, bareMember]

def jsonMember (pair : List Char × List Char) : List Char × Json := (pair.1, .string pair.2)

theorem member_bare {pair : List Char × List Char} (named : Name pair.1) :
    Member (bareMember pair) (jsonMember pair) := by
  have string := (Value.string (body_escaped pair.2)).document
  exact .mk spaces_nil (.plain named) spaces_nil string

theorem members_flatMap {pairs : List (List Char × List Char)} (named : ∀ pair ∈ pairs, Name pair.1)
    {text : List Char} {before : List (List Char × Json)} (members : Members text before) :
    Members (text ++ pairs.flatMap memberText) (before ++ pairs.map jsonMember) := by
  induction pairs generalizing text before with
  | nil => simpa using members
  | cons pair rest ih =>
    obtain ⟨name, others⟩ := List.forall_mem_cons.mp named
    have more := ih others (Members.append (.one (member_bare name)) members)
    simpa [memberText_eq] using more

def jsonLine : Option UInt32 → List (List Char × Json)
  | none => []
  | some line => [("line".toList, .number (Nat.toDigits 10 line.toNat))]

theorem members_line (line : Option UInt32) {text : List Char} {before : List (List Char × Json)}
    (members : Members text before) : Members (text ++ lineText line) (before ++ jsonLine line) := by
  cases line with
  | none => simpa [lineText, jsonLine] using members
  | some line =>
    have number := (Value.number (number_toDigits line.toNat)).document
    have member := Member.mk spaces_nil (.plain lineKey_name) spaces_nil number
    have more := Members.append (.one member) members
    simpa [lineText, key, jsonLine] using more

/-- The members of a record as JSON, those of the header first. -/
def jsonMembers (level : Level) (pairs : List (List Char × List Char)) (line : Option UInt32) :
    List (List Char × Json) :=
  jsonMember ("app_name".toList, structuredLogAppName) ::
    ((headerMembers level).map jsonMember ++ pairs.map jsonMember ++ jsonLine line)

theorem headerMembers_named (level : Level) : ∀ pair ∈ headerMembers level, Name pair.1 := by
  cases level <;> decide

theorem document_of_members (level : Level) {pairs : List (List Char × List Char)}
    (named : ∀ pair ∈ pairs, Name pair.1) (line : Option UInt32) :
    Document (headerText level ++ (pairs.flatMap memberText ++ (lineText line ++ ['\x7d'])))
      (.object (jsonMembers level pairs line)) := by
  have app : Name "app_name".toList := by decide
  have first : Members (bareMember ("app_name".toList, structuredLogAppName))
      [jsonMember ("app_name".toList, structuredLogAppName)] := .one (member_bare app)
  have all := members_line line (members_flatMap named (members_flatMap (headerMembers_named level) first))
  have object := (Value.object all).document
  simpa [headerText, memberText_eq, jsonMembers] using object

/-! ## Which records are forwarded -/

def NoBreak (text : List Char) : Prop := ∀ character ∈ text, character ≠ '\n' ∧ character ≠ '\r'

instance (text : List Char) : Decidable (NoBreak text) := List.decidableBAll _ text

theorem noBreak_append {first second : List Char} (left : NoBreak first) (right : NoBreak second) :
    NoBreak (first ++ second) := List.forall_mem_append.mpr ⟨left, right⟩

theorem noBreak_cons {character : Char} {rest : List Char} (first : character ≠ '\n' ∧ character ≠ '\r')
    (others : NoBreak rest) : NoBreak (character :: rest) := List.forall_mem_cons.mpr ⟨first, others⟩

theorem noBreak_of_plain (plain : ∀ character ∈ text, Plain character) : NoBreak text := by
  intro character member
  have lower := (plain character member).1
  constructor
  · rintro rfl
    revert lower
    decide
  · rintro rfl
    revert lower
    decide

theorem noBreak_escaped (value : List Char) : NoBreak (escaped value) := by
  intro character member
  obtain ⟨piece, inside, member⟩ := List.mem_flatten.mp member
  obtain ⟨source, _, pieces⟩ := List.mem_flatMap.mp inside
  exact piece_no_break pieces character member

theorem noBreak_memberText {pair : List Char × List Char} (named : Name pair.1) :
    NoBreak (memberText pair) :=
  noBreak_append (noBreak_cons (by decide) (noBreak_cons (by decide)
      (noBreak_append (noBreak_of_plain named) (by decide))))
    (noBreak_cons (by decide) (noBreak_append (noBreak_escaped pair.2) (by decide)))

theorem noBreak_lineText (line : Option UInt32) : NoBreak (lineText line) := by
  cases line with
  | none => decide
  | some line =>
    refine noBreak_append (by decide) ?_
    intro character member
    have digit := Nat.isDigit_of_mem_toDigits (by decide) (by decide) member
    constructor
    · rintro rfl
      cases digit
    · rintro rfl
      cases digit

theorem noBreak_headerText (level : Level) : NoBreak (headerText level) := by
  cases level <;> decide +kernel

theorem ready_header (level : Level) : Ready (header level) := by
  rw [Ready, header_items]
  cases level <;> decide

/-- One line of JSON whose `message` is a prefix of the record's message. -/
def Forwardable (record : Record) (text : List Char) : Prop :=
  NoBreak text ∧ ∃ pairs, Document text (.object pairs) ∧
    ∃ message, pairs.lookup "message".toList = some (.string message) ∧ message <+: record.message

theorem members_named (record : Record) : ∀ pair ∈ members record, Name pair.1 := by
  have names : ∀ name ∈ ["component".toList, "message".toList, "_msg".toList, "target".toList,
      "module_path".toList, "file".toList], Name name := by decide
  intro pair member
  refine names pair.1 ?_
  simp only [members, List.mem_cons, List.mem_append, List.mem_map] at member
  rcases member with rfl | rfl | rfl | rfl | ⟨_, _, rfl⟩ | ⟨_, _, rfl⟩ <;> simp

/-- Members that begin as the record's do, written whole. -/
theorem forwardable_of_items {record : Record} {level : Level} {pairs : List (List Char × List Char)}
    {component : List Char} {rest : List (List Char × List Char)} (line : Option UInt32)
    (named : ∀ pair ∈ pairs, Name pair.1)
    (begins : pairs = ("component".toList, component) :: ("message".toList, record.message) :: rest) :
    Forwardable record
      (headerText level ++ (pairs.flatMap memberText ++ (lineText line ++ ['\x7d']))) := by
  refine ⟨?_, _, document_of_members level named line, record.message, ?_, List.prefix_rfl⟩
  · refine noBreak_append (noBreak_headerText level) (noBreak_append ?_
      (noBreak_append (noBreak_lineText line) (by decide)))
    intro character member
    obtain ⟨pair, inside, member⟩ := List.mem_flatMap.mp member
    exact noBreak_memberText (named pair inside) character member
  · rw [begins]
    rfl

theorem forwardable_of_whole {record : Record}
    (fits : FitsWhole structuredLogMessageCapacity (utf8Len (headerText record.level)) (members record)
      record.line) : Forwardable record (formatStructuredLogMessage record).items := by
  simp only [FitsWhole] at fits
  have written : ((members record).foldl writeMember (header record.level)).items =
      headerText record.level ++ (members record).flatMap memberText := by
    rw [writeMembers_fits (by rw [header_items]; omega), header_items]
  rw [format_eq, finish_fits, written, List.append_assoc]
  · exact forwardable_of_items record.line (members_named record) rfl
  · rw [written, FitsWhole, utf8Len_append, List.flatMap_nil, utf8Len_nil]
    omega

theorem forwardable_of_dropped {record : Record}
    (drops : DropsLine structuredLogMessageCapacity (utf8Len (headerText record.level)) (members record)
      record.line) : Forwardable record (formatStructuredLogMessage record).items := by
  obtain ⟨_, room, short⟩ := drops
  have written : ((members record).foldl writeMember (header record.level)).items =
      headerText record.level ++ (members record).flatMap memberText := by
    rw [writeMembers_fits (by rw [header_items]; omega), header_items]
  rw [format_eq, finish_short, written, List.append_assoc]
  · exact forwardable_of_items none (members_named record) rfl
  · rw [written, utf8Len_append]
    omega
  · rw [written, utf8Len_append]
    omega

/-- The members a cut leaves whole begin as the record's do. -/
theorem members_begin {record : Record} {earlier : List (List Char × List Char)}
    {last : List Char × List Char} (split : members record = earlier ++ [last]) :
    ∃ rest, earlier = ("component".toList, component record.target) ::
      ("message".toList, record.message) :: ("_msg".toList, record.message) :: rest := by
  rcases earlier with _ | ⟨first, _ | ⟨second, _ | ⟨third, rest⟩⟩⟩
  · simp [members] at split
  · simp [members] at split
  · simp [members] at split
  · simp only [members, List.cons_append, List.cons.injEq] at split
    exact ⟨rest, by rw [← split.1, ← split.2.1, ← split.2.2.1]⟩

theorem forwardable_of_cut {record : Record}
    (cut : CutsWide structuredLogMessageCapacity (utf8Len (headerText record.level)) (members record)) :
    Forwardable record (formatStructuredLogMessage record).items := by
  obtain ⟨earlier, name, before, character, after, split, room, wide⟩ := cut
  have named := members_named record
  rw [split, List.forall_mem_append, List.forall_mem_singleton] at named
  have four := character.utf8Size_le_four
  have one := utf8Len_quote
  have quote := utf8Size_quote
  have written : (earlier.foldl writeMember (header record.level)).items =
      headerText record.level ++ earlier.flatMap memberText := by
    rw [writeMembers_fits (by rw [header_items]; omega), header_items]
  have last : ((members record).foldl writeMember (header record.level)).items =
      headerText record.level ++ (earlier ++ [(name, before)]).flatMap memberText := by
    rw [split, List.foldl_append, List.foldl_cons, List.foldl_nil, writeMember_wide, written]
    · simp
    · rw [written, utf8Len_append]
      omega
    · rw [written, utf8Len_append]
      omega
  have len : utf8Len (headerText record.level ++ (earlier ++ [(name, before)]).flatMap memberText) =
      utf8Len (headerText record.level) + utf8Len (earlier.flatMap memberText) + utf8Len (key name) + 1 +
        utf8Len (escaped before) + 1 := by
    simp only [List.flatMap_append, List.flatMap_cons, List.flatMap_nil, memberText, utf8Len_append,
      utf8Len_cons, utf8Len_nil, List.append_nil]
    omega
  obtain ⟨rest, begins⟩ := members_begin split
  have begins' : earlier ++ [(name, before)] = ("component".toList, component record.target) ::
      ("message".toList, record.message) :: ("_msg".toList, record.message) :: (rest ++ [(name, before)]) := by
    rw [begins]
    rfl
  rw [format_eq, finish_short, last, List.append_assoc]
  · exact forwardable_of_items none
      (List.forall_mem_append.mpr ⟨named.1, List.forall_mem_singleton.mpr named.2⟩) begins'
  · rw [last, len]
    omega
  · rw [last, len]
    omega

theorem fate_of_forwardable {record : Record}
    (forwardable : Forwardable record (formatStructuredLogMessage record).items) :
    FitsWhole structuredLogMessageCapacity (utf8Len (headerText record.level)) (members record)
        record.line ∨
      DropsLine structuredLogMessageCapacity (utf8Len (headerText record.level)) (members record)
        record.line ∨
      CutsWide structuredLogMessageCapacity (utf8Len (headerText record.level)) (members record) := by
  obtain ⟨_, pairs, document, _⟩ := forwardable
  have scanned := scan_document document (Or.inl rfl) 0
  rw [format_eq] at scanned
  rw [← header_items]
  exact fate_of_scanned (ready_header record.level) (members_named record) scanned

/-- A structured record is forwarded exactly if it fits the buffer, or if it is
cut in a way the reader cannot see: the line number is left out, or the end of
the last string. -/
theorem structured_log_forwardable_iff (record : Record) :
    Forwardable record (formatStructuredLogMessage record).items ↔
      FitsWhole structuredLogMessageCapacity (utf8Len (headerText record.level)) (members record)
          record.line ∨
        DropsLine structuredLogMessageCapacity (utf8Len (headerText record.level)) (members record)
          record.line ∨
        CutsWide structuredLogMessageCapacity (utf8Len (headerText record.level)) (members record) := by
  constructor
  · exact fate_of_forwardable
  · rintro (fits | drops | cut)
    · exact forwardable_of_whole fits
    · exact forwardable_of_dropped drops
    · exact forwardable_of_cut cut

theorem utf8Len_le_escaped (value : List Char) : utf8Len value ≤ utf8Len (escaped value) := by
  induction value with
  | nil => exact Nat.zero_le _
  | cons character rest ih =>
    have first : character.utf8Size ≤ utf8Len (JsonWriter.pieces character).flatten := by
      rcases Nat.lt_or_ge 2 character.utf8Size with wide | narrow
      · simp [pieces_wide character wide]
      · have two : utf8Len ['\\', 'u'] = 2 ∧ Char.utf8Size '\\' = 1 := by decide
        rcases pieces_cases character with ⟨letter, same, _⟩ | ⟨_, same⟩ | ⟨_, same⟩
        · have positive := letter.utf8Size_pos
          rw [same, List.flatten_singleton, utf8Len_cons, utf8Len_cons]
          omega
        · rw [same, List.flatten_cons, utf8Len_append]
          omega
        · simp [same]
    unfold escaped at ih ⊢
    rw [List.flatMap_cons, List.flatten_append, utf8Len_append, utf8Len_cons]
    omega

/-- A message is written twice, so more than half the buffer is too much. -/
theorem long_message_not_forwardable {record : Record}
    (long : structuredLogMessageCapacity < 2 * utf8Len (escaped record.message)) :
    ¬Forwardable record (formatStructuredLogMessage record).items := by
  intro forwardable
  rcases fate_of_forwardable forwardable with fits | ⟨_, room, _⟩ | cut
  · simp only [FitsWhole, members, List.flatMap_cons, memberText, utf8Len_append, utf8Len_cons] at fits
    omega
  · simp only [members, List.flatMap_cons, memberText, utf8Len_append, utf8Len_cons] at room
    omega
  · obtain ⟨earlier, name, before, character, after, split, room, _⟩ := cut
    obtain ⟨rest, rfl⟩ := members_begin split
    simp only [List.flatMap_cons, memberText, utf8Len_append, utf8Len_cons] at room
    omega

/-- A panic message as long as the panic store keeps is more than the buffer
can hold twice, and its record is no JSON. -/
theorem long_panic_not_forwardable :
    ∃ message, utf8Len message ≤ panicMessageCapacity ∧
      ¬Forwardable (previousPanic message) (formatStructuredLogMessage (previousPanic message)).items := by
  have one : Char.utf8Size 'a' = 1 := by decide
  have size : utf8Len (List.replicate panicMessageCapacity 'a') = panicMessageCapacity := by
    simp [utf8Len, one]
  refine ⟨List.replicate panicMessageCapacity 'a', Nat.le_of_eq size, long_message_not_forwardable ?_⟩
  have whole : utf8Len (previousPanic (List.replicate panicMessageCapacity 'a')).message =
      24 + panicMessageCapacity := by
    simp only [Record.message, previousPanic, List.flatten_cons, List.flatten_nil, List.append_nil,
      utf8Len_append, size]
    rfl
  have escapes := utf8Len_le_escaped (previousPanic (List.replicate panicMessageCapacity 'a')).message
  simp only [structuredLogMessageCapacity, panicMessageCapacity] at *
  omega

end EnergyDisplay.Logging

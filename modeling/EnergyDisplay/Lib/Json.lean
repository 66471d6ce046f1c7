import Mathlib.Data.List.Basic
import Mathlib.Data.Nat.Init

/-! JSON texts (RFC 8259), as a grammar that says which value a text is, and a
scanner that every text passes: what the scanner refuses is no JSON. -/
namespace EnergyDisplay.JsonText

inductive Json where
  | null
  | bool (value : Bool)
  | number (text : List Char)
  | string (value : List Char)
  | array (items : List Json)
  | object (members : List (List Char × Json))

def isSpace (character : Char) : Bool :=
  character == ' ' || character == '\t' || character == '\n' || character == '\r'

def Spaces (text : List Char) : Prop := ∀ character ∈ text, isSpace character = true

/-! ## Strings -/

/-- A character that stands for itself in a string. -/
def Plain (character : Char) : Prop :=
  0x20 ≤ character.toNat ∧ character ≠ '"' ∧ character ≠ '\\'

instance (character : Char) : Decidable (Plain character) :=
  inferInstanceAs (Decidable (_ ∧ _ ∧ _))

/-- The letters after a backslash that stand for one character. -/
def shortEscapes : List (Char × Char) := [
  ('"', '"'), ('\\', '\\'), ('/', '/'), ('b', '\x08'), ('f', '\x0c'), ('n', '\n'), ('r', '\r'),
  ('t', '\t')]

def hexValue (digit : Char) : Option ℕ :=
  if '0' ≤ digit ∧ digit ≤ '9' then some (digit.toNat - '0'.toNat)
  else if 'a' ≤ digit ∧ digit ≤ 'f' then some (digit.toNat - 'a'.toNat + 10)
  else if 'A' ≤ digit ∧ digit ≤ 'F' then some (digit.toNat - 'A'.toNat + 10)
  else none

/-- Four hexadecimal digits. -/
def codeUnit : List Char → Option ℕ
  | [first, second, third, fourth] => do
    return ((← hexValue first) * 4096 + (← hexValue second) * 256 + (← hexValue third) * 16 +
      (← hexValue fourth))
  | _ => none

/-- How one character is written in a string. -/
inductive Written : List Char → Char → Prop where
  | plain {character : Char} (plain : Plain character) : Written [character] character
  | short {letter character : Char} (known : (letter, character) ∈ shortEscapes) :
      Written ['\\', letter] character
  | unit {digits : List Char} {code : ℕ} (digitsOf : codeUnit digits = some code)
      (scalar : code.isValidChar) : Written ('\\' :: 'u' :: digits) (Char.ofNat code)
  | pair {high low : List Char} {upper lower : ℕ} (highOf : codeUnit high = some (0xd800 + upper))
      (lowOf : codeUnit low = some (0xdc00 + lower)) (upperLt : upper < 0x400)
      (lowerLt : lower < 0x400) :
      Written ('\\' :: 'u' :: (high ++ '\\' :: 'u' :: low))
        (Char.ofNat (0x10000 + 0x400 * upper + lower))

/-- What stands between the quotes of a string. -/
inductive Body : List Char → List Char → Prop where
  | nil : Body [] []
  | cons {text rest value : List Char} {character : Char} (first : Written text character)
      (others : Body rest value) : Body (text ++ rest) (character :: value)

theorem Body.plain {text : List Char} (plain : ∀ character ∈ text, Plain character) : Body text text := by
  induction text with
  | nil => exact .nil
  | cons character rest ih =>
    obtain ⟨first, others⟩ := List.forall_mem_cons.mp plain
    exact .cons (.plain first) (ih others)

/-! ### Reading a string -/

/-- The four digits of a code. -/
def readUnit (text : List Char) : Option (ℕ × List Char) := (codeUnit (text.take 4)).map (·, text.drop 4)

/-- The other half of a pair. -/
def readLow (high : ℕ) (text : List Char) : Option (Char × List Char) :=
  if text.take 2 = ['\\', 'u'] then do
    let (low, rest) ← readUnit (text.drop 2)
    if 0xd800 ≤ high ∧ high < 0xdc00 ∧ 0xdc00 ≤ low ∧ low < 0xe000 then
      return (Char.ofNat (0x10000 + 0x400 * (high - 0xd800) + (low - 0xdc00)), rest)
    else none
  else none

/-- What follows a backslash. -/
def readEscape : List Char → Option (Char × List Char)
  | [] => none
  | letter :: rest =>
    if letter = 'u' then do
      let (code, rest) ← readUnit rest
      if code.isValidChar then return (Char.ofNat code, rest) else readLow code rest
    else (shortEscapes.lookup letter).map (·, rest)

/-- One character of a string, and what is left. -/
def readCharacter : List Char → Option (Char × List Char)
  | [] => none
  | character :: rest =>
    if Plain character then some (character, rest)
    else if character = '\\' then readEscape rest
    else none

/-- Read characters to the end; each takes one character of the text at least. -/
def unescapeWithin : ℕ → List Char → Option (List Char)
  | _, [] => some []
  | 0, _ => none
  | fuel + 1, text => do
    let (character, rest) ← readCharacter text
    return character :: (← unescapeWithin fuel rest)

/-- What stands between the quotes of a string, decoded. -/
def unescape (text : List Char) : Option (List Char) := unescapeWithin text.length text

theorem readUnit_append {digits : List Char} {code : ℕ} (digitsOf : codeUnit digits = some code)
    (rest : List Char) : readUnit (digits ++ rest) = some (code, rest) := by
  have four : digits.length = 4 := by
    unfold codeUnit at digitsOf
    split at digitsOf
    · rfl
    · cases digitsOf
  rw [readUnit, ← four, List.take_left, List.drop_left, digitsOf]
  rfl

theorem lookup_shortEscapes : ∀ pair ∈ shortEscapes, pair.1 ≠ 'u' ∧ shortEscapes.lookup pair.1 = some pair.2 := by
  decide

/-- No way to write a character begins another. -/
theorem readCharacter_written {text : List Char} {character : Char} (written : Written text character)
    (rest : List Char) : readCharacter (text ++ rest) = some (character, rest) := by
  have backslash : ¬ Plain '\\' := by decide
  cases written with
  | plain plain => simp [readCharacter, plain]
  | @short letter _ known =>
    obtain ⟨noUnit, found⟩ := lookup_shortEscapes _ known
    dsimp only at noUnit found
    simp [readCharacter, backslash, readEscape, noUnit, found]
  | unit digitsOf scalar =>
    simp [readCharacter, backslash, readEscape, readUnit_append digitsOf, scalar]
  | @pair high low upper lower highOf lowOf upperLt lowerLt =>
    have surrogate : ¬ (0xd800 + upper).isValidChar := by
      unfold Nat.isValidChar
      omega
    have next := readUnit_append highOf ('\\' :: 'u' :: (low ++ rest))
    simp only [List.cons_append, List.append_assoc, readCharacter, backslash, readEscape, next, if_false, if_true]
    simp [surrogate, readLow, readUnit_append lowOf]
    omega

/-- Reading gives the value the grammar has for a text, so it has one only. -/
theorem unescape_body {text value : List Char} (body : Body text value) : unescape text = some value := by
  have within : ∀ fuel, text.length ≤ fuel → unescapeWithin fuel text = some value := by
    induction body with
    | nil => simp [unescapeWithin]
    | @cons text rest value character first others ih =>
      intro fuel enough
      have some_ : text ≠ [] := by cases first <;> simp
      cases fuel with
      | zero => simp_all
      | succ fuel =>
        have positive := List.length_pos_of_ne_nil some_
        rw [List.length_append] at enough
        have more := ih fuel (by omega)
        have reads := readCharacter_written first rest
        cases both : text ++ rest with
        | nil => simp_all
        | cons next left =>
          rw [both] at reads
          simp [unescapeWithin, reads, more]
  exact within text.length (Nat.le_refl _)

/-- The quotes and backslashes that no backslash escapes. -/
def bareMarks : List Char → List Char
  | [] => []
  | [character] => if character = '"' ∨ character = '\\' then [character] else []
  | character :: next :: rest =>
    if character = '\\' then bareMarks rest
    else if character = '"' then character :: bareMarks (next :: rest)
    else bareMarks (next :: rest)

theorem bareMarks_append {text : List Char} (unmarked : ∀ character ∈ text, character ≠ '"' ∧ character ≠ '\\')
    (rest : List Char) : bareMarks (text ++ rest) = bareMarks rest := by
  induction text with
  | nil => rfl
  | cons character text ih =>
    obtain ⟨⟨quote, backslash⟩, others⟩ := List.forall_mem_cons.mp unmarked
    rw [← ih others, List.cons_append]
    cases text ++ rest <;> simp [bareMarks, quote, backslash]

/-! ## Numbers -/

def Digits (text : List Char) : Prop := text ≠ [] ∧ ∀ character ∈ text, character.isDigit = true

/-- A number before its fraction: no zero leads others. -/
def Whole (text : List Char) : Prop := Digits text ∧ (text.head? = some '0' → text = ['0'])

def Fraction (text : List Char) : Prop := text = [] ∨ ∃ digits, text = '.' :: digits ∧ Digits digits

def Exponent (text : List Char) : Prop :=
  text = [] ∨ ∃ letter sign digits, text = letter :: (sign ++ digits) ∧
    (letter = 'e' ∨ letter = 'E') ∧ (sign = [] ∨ sign = ['+'] ∨ sign = ['-']) ∧ Digits digits

def Number (text : List Char) : Prop :=
  ∃ sign whole fraction exponent, text = sign ++ whole ++ fraction ++ exponent ∧
    (sign = [] ∨ sign = ['-']) ∧ Whole whole ∧ Fraction fraction ∧ Exponent exponent

/-- The characters of numbers. -/
def isNumberCharacter (character : Char) : Bool :=
  character.isDigit || ['+', '-', '.', 'e', 'E'].contains character

theorem number_characters {text : List Char} (number : Number text) :
    text ≠ [] ∧ ∀ character ∈ text, isNumberCharacter character = true := by
  obtain ⟨sign, whole, fraction, exponent, rfl, signed, ⟨⟨some_, digits⟩, _⟩, fractional, scaled⟩ := number
  refine ⟨by simp [some_], ?_⟩
  have ofDigits {text : List Char} (digits : ∀ character ∈ text, character.isDigit = true) :
      ∀ character ∈ text, isNumberCharacter character = true :=
    fun character member => by simp [isNumberCharacter, digits character member]
  simp only [List.forall_mem_append]
  refine ⟨⟨⟨?_, ofDigits digits⟩, ?_⟩, ?_⟩
  · rcases signed with rfl | rfl <;> simp [isNumberCharacter]
  · rcases fractional with rfl | ⟨digits, rfl, _, all⟩
    · simp
    · exact List.forall_mem_cons.mpr ⟨by simp [isNumberCharacter], ofDigits all⟩
  · rcases scaled with rfl | ⟨letter, sign, digits, rfl, letter_, signed, _, all⟩
    · simp
    · refine List.forall_mem_cons.mpr ⟨?_, List.forall_mem_append.mpr ⟨?_, ofDigits all⟩⟩
      · rcases letter_ with rfl | rfl <;> simp [isNumberCharacter]
      · rcases signed with rfl | rfl | rfl <;> simp [isNumberCharacter]

theorem toDigits_head (n : ℕ) (positive : 0 < n) : (Nat.toDigits 10 n).head? ≠ some '0' := by
  induction n using Nat.strongRecOn with
  | _ n ih =>
    rcases Nat.lt_or_ge n 10 with one | more
    · have table : ∀ digit < 10, 0 < digit → [digit.digitChar].head? ≠ some '0' := by decide
      rw [Nat.toDigits_of_lt_base one]
      exact table n one positive
    · have shorter := ih (n / 10) (by omega) (by omega)
      rw [Nat.toDigits_of_base_le (by decide) more, List.head?_append_of_ne_nil _ Nat.toDigits_ne_nil]
      exact shorter

theorem whole_toDigits (n : ℕ) : Whole (Nat.toDigits 10 n) := by
  refine ⟨⟨Nat.toDigits_ne_nil, fun character => Nat.isDigit_of_mem_toDigits (by decide) (by decide)⟩, ?_⟩
  intro zero
  rcases Nat.eq_zero_or_pos n with rfl | positive
  · exact Nat.toDigits_zero 10
  · exact absurd zero (toDigits_head n positive)

/-- Natural numbers in decimal are numbers. -/
theorem number_toDigits (n : ℕ) : Number (Nat.toDigits 10 n) :=
  ⟨[], Nat.toDigits 10 n, [], [], by simp, Or.inl rfl, whole_toDigits n, Or.inl rfl, Or.inl rfl⟩

/-! ## Values -/

mutual

inductive Value : List Char → Json → Prop where
  | null : Value ['n', 'u', 'l', 'l'] .null
  | true : Value ['t', 'r', 'u', 'e'] (.bool true)
  | false : Value ['f', 'a', 'l', 's', 'e'] (.bool false)
  | number {text : List Char} (number : Number text) : Value text (.number text)
  | string {text value : List Char} (body : Body text value) :
      Value ('"' :: (text ++ ['"'])) (.string value)
  | emptyArray {spaces : List Char} (blank : Spaces spaces) : Value ('[' :: (spaces ++ [']'])) (.array [])
  | array {text : List Char} {items : List Json} (elements : Elements text items) :
      Value ('[' :: (text ++ [']'])) (.array items)
  | emptyObject {spaces : List Char} (blank : Spaces spaces) :
      Value ('\x7b' :: (spaces ++ ['\x7d'])) (.object [])
  | object {text : List Char} {members : List (List Char × Json)} (inside : Members text members) :
      Value ('\x7b' :: (text ++ ['\x7d'])) (.object members)

/-- A value between spaces. -/
inductive Document : List Char → Json → Prop where
  | mk {before text after : List Char} {json : Json} (left : Spaces before) (value : Value text json)
      (right : Spaces after) : Document (before ++ (text ++ after)) json

inductive Elements : List Char → List Json → Prop where
  | one {text : List Char} {json : Json} (element : Document text json) : Elements text [json]
  | cons {text rest : List Char} {json : Json} {items : List Json} (element : Document text json)
      (others : Elements rest items) : Elements (text ++ ',' :: rest) (json :: items)

inductive Member : List Char → List Char × Json → Prop where
  | mk {before name after text value : List Char} {json : Json} (left : Spaces before)
      (body : Body name value) (right : Spaces after) (element : Document text json) :
      Member (before ++ '"' :: (name ++ '"' :: (after ++ ':' :: text))) (value, json)

inductive Members : List Char → List (List Char × Json) → Prop where
  | one {text : List Char} {pair : List Char × Json} (member : Member text pair) : Members text [pair]
  | cons {text rest : List Char} {pair : List Char × Json} {pairs : List (List Char × Json)}
      (member : Member text pair) (others : Members rest pairs) :
      Members (text ++ ',' :: rest) (pair :: pairs)

end

theorem spaces_nil : Spaces [] := by simp [Spaces]

/-- A value with no spaces around it. -/
theorem Value.document {text : List Char} {json : Json} (value : Value text json) : Document text json := by
  simpa using Document.mk spaces_nil value spaces_nil

/-- The members of two lists, with a comma between. -/
theorem Members.append {second : List Char} {others : List (List Char × Json)}
    (right : Members second others) :
    ∀ {first : List Char} {pairs : List (List Char × Json)}, Members first pairs →
      Members (first ++ ',' :: second) (pairs ++ others)
  | _, _, .one member => .cons member right
  | _, _, .cons member rest => by
    rw [List.append_assoc, List.cons_append, List.cons_append]
    exact .cons member (Members.append right rest)

/-! ## Scanning

A scanner that only looks at what may follow what. It accepts more than JSON:
a bracket may be closed by a brace, and any word is a value. -/

/-- What has been read last: a comma, a colon or nothing; an opening bracket; a
value; something inside a string; a backslash inside a string. -/
inductive Mode where
  | start
  | opened
  | done
  | text
  | escape
  deriving DecidableEq

/-- The mode, and how many brackets are open. -/
abbrev State := Mode × ℕ

/-- Outside a string: `fresh` says that no value was read since the last comma
or bracket. -/
def outside (fresh : Bool) (character : Char) : State → Option State
  | (mode, depth) =>
    if isSpace character then some (mode, depth)
    else if character = '"' then if fresh then some (.text, depth) else none
    else if character = '[' ∨ character = '\x7b' then if fresh then some (.opened, depth + 1) else none
    else if character = ']' ∨ character = '\x7d' then
      if mode = .start ∨ depth = 0 then none else some (.done, depth - 1)
    else if character = ',' ∨ character = ':' then if fresh then none else some (.start, depth)
    else some (.done, depth)

def scanChar : State → Char → Option State
  | (.text, depth), character =>
    if character = '"' then some (.done, depth)
    else if character = '\\' then some (.escape, depth)
    else some (.text, depth)
  | (.escape, depth), _ => some (.text, depth)
  | (.done, depth), character => outside false character (.done, depth)
  | (mode, depth), character => outside true character (mode, depth)

def scan : State → List Char → Option State
  | state, [] => some state
  | state, character :: rest => (scanChar state character).bind fun next => scan next rest

theorem scan_append (state : State) (first second : List Char) :
    scan state (first ++ second) = (scan state first).bind fun next => scan next second := by
  induction first generalizing state with
  | nil => rfl
  | cons character rest ih =>
    simp only [List.cons_append, scan]
    cases scanChar state character with
    | none => rfl
    | some next => exact ih next

/-- Before a value. -/
def Fresh (mode : Mode) : Prop := mode = .start ∨ mode = .opened

theorem scan_spaces {spaces : List Char} (blank : Spaces spaces) {mode : Mode} (outside_ : mode ≠ .text)
    (noEscape : mode ≠ .escape) (depth : ℕ) : scan (mode, depth) spaces = some (mode, depth) := by
  induction spaces with
  | nil => rfl
  | cons character rest ih =>
    obtain ⟨first, others⟩ := List.forall_mem_cons.mp blank
    have stays : scanChar (mode, depth) character = some (mode, depth) := by
      cases mode <;> simp_all [scanChar, outside]
    rw [scan, stays]
    exact ih others

/-- Neither a quote nor a backslash. -/
theorem scan_inside {text : List Char} (inside : ∀ character ∈ text, character ≠ '"' ∧ character ≠ '\\')
    (depth : ℕ) : scan (.text, depth) text = some (.text, depth) := by
  induction text with
  | nil => rfl
  | cons character rest ih =>
    obtain ⟨⟨quote, backslash⟩, others⟩ := List.forall_mem_cons.mp inside
    have stays : scanChar (.text, depth) character = some (.text, depth) := by
      simp [scanChar, quote, backslash]
    rw [scan, stays]
    exact ih others

theorem hexValue_inside {digit : Char} {value : ℕ} (hex : hexValue digit = some value) :
    digit ≠ '"' ∧ digit ≠ '\\' := by
  constructor
  · rintro rfl
    cases hex
  · rintro rfl
    cases hex

theorem codeUnit_inside {digits : List Char} {code : ℕ} (digitsOf : codeUnit digits = some code) :
    ∀ character ∈ digits, character ≠ '"' ∧ character ≠ '\\' := by
  unfold codeUnit at digitsOf
  split at digitsOf
  · simp only [Option.bind_eq_bind, Option.bind_eq_some_iff] at digitsOf
    obtain ⟨_, first, _, second, _, third, _, fourth, _⟩ := digitsOf
    simp [hexValue_inside first, hexValue_inside second, hexValue_inside third, hexValue_inside fourth]
  · cases digitsOf

theorem scan_unit {digits : List Char} {code : ℕ} (digitsOf : codeUnit digits = some code) (depth : ℕ) :
    scan (.text, depth) ('\\' :: 'u' :: digits) = some (.text, depth) :=
  scan_inside (codeUnit_inside digitsOf) depth

theorem scan_written {text : List Char} {character : Char} (written : Written text character)
    (depth : ℕ) : scan (.text, depth) text = some (.text, depth) := by
  cases written with
  | plain plain =>
    obtain ⟨_, quote, backslash⟩ := plain
    exact scan_inside (by simp [quote, backslash]) depth
  | short known => rfl
  | unit digitsOf scalar => exact scan_unit digitsOf depth
  | pair highOf lowOf upperLt lowerLt =>
    rw [← List.cons_append, ← List.cons_append, scan_append, scan_unit highOf]
    exact scan_unit lowOf depth

theorem scan_body {text value : List Char} (body : Body text value) (depth : ℕ) :
    scan (.text, depth) text = some (.text, depth) := by
  induction body with
  | nil => rfl
  | cons written _ ih =>
    rw [scan_append, scan_written written]
    exact ih

/-- The characters of numbers and names. -/
def Ordinary (character : Char) : Prop :=
  character ∉ [' ', '\t', '\n', '\r', '"', '[', '\x7b', ']', '\x7d', ',', ':']

theorem scan_ordinary {text : List Char} (some_ : text ≠ [])
    (ordinary : ∀ character ∈ text, Ordinary character) {mode : Mode}
    (fresh : mode = .start ∨ mode = .opened ∨ mode = .done) (depth : ℕ) :
    scan (mode, depth) text = some (.done, depth) := by
  induction text generalizing mode with
  | nil => exact absurd rfl some_
  | cons character rest ih =>
    obtain ⟨first, others⟩ := List.forall_mem_cons.mp ordinary
    have reads : scanChar (mode, depth) character = some (.done, depth) := by
      simp only [Ordinary, List.mem_cons, List.not_mem_nil, or_false, not_or] at first
      rcases fresh with rfl | rfl | rfl <;> simp [scanChar, outside, isSpace, first]
    rw [scan, reads, Option.bind_some]
    cases rest with
    | nil => rfl
    | cons next rest => exact ih (by simp) others (Or.inr (Or.inr rfl))

theorem number_ordinary {text : List Char} (number : Number text) :
    text ≠ [] ∧ ∀ character ∈ text, Ordinary character := by
  obtain ⟨some_, characters⟩ := number_characters number
  refine ⟨some_, fun character member mark => ?_⟩
  have noNumber : ∀ mark ∈ [' ', '\t', '\n', '\r', '"', '[', '\x7b', ']', '\x7d', ',', ':'],
      isNumberCharacter mark = false := by simp [isNumberCharacter]
  have number := characters character member
  rw [noNumber character mark] at number
  cases number

theorem scan_quoted {text value : List Char} (body : Body text value) {mode : Mode} (fresh : Fresh mode)
    (depth : ℕ) (rest : List Char) :
    scan (mode, depth) ('"' :: (text ++ '"' :: rest)) = scan (.done, depth) rest := by
  have opens : scanChar (mode, depth) '"' = some (.text, depth) := by
    rcases fresh with rfl | rfl <;> rfl
  rw [scan, opens, Option.bind_some, scan_append, scan_body body]
  rfl

/-- What is between brackets may be left blank. -/
theorem scan_bracketed {text : List Char} {opening closing : Char} {mode inner : Mode}
    (opens : opening = '[' ∨ opening = '\x7b') (closes : closing = ']' ∨ closing = '\x7d')
    (fresh : Fresh mode) {depth : ℕ} (inside : scan (.opened, depth + 1) text = some (inner, depth + 1))
    (complete : inner = .opened ∨ inner = .done) :
    scan (mode, depth) (opening :: (text ++ [closing])) = some (.done, depth) := by
  have enters : scanChar (mode, depth) opening = some (.opened, depth + 1) := by
    rcases fresh with rfl | rfl <;> rcases opens with rfl | rfl <;> rfl
  have leaves : scanChar (inner, depth + 1) closing = some (.done, depth) := by
    rcases complete with rfl | rfl <;> rcases closes with rfl | rfl <;> rfl
  rw [scan, enters, Option.bind_some, scan_append, inside]
  simp [scan, leaves]

theorem scan_separator {separator : Char} (known : separator = ',' ∨ separator = ':') (depth : ℕ)
    (rest : List Char) : scan (.done, depth) (separator :: rest) = scan (.start, depth) rest := by
  rcases known with rfl | rfl <;> rfl

theorem Fresh.ne {mode : Mode} (fresh : Fresh mode) : mode ≠ .text ∧ mode ≠ .escape := by
  rcases fresh with rfl | rfl <;> exact ⟨by decide, by decide⟩

theorem Fresh.reads {mode : Mode} (fresh : Fresh mode) : mode = .start ∨ mode = .opened ∨ mode = .done :=
  fresh.imp_right Or.inl

mutual

/-- The scanner passes every value, and ends as deep as it began. -/
theorem scan_value : ∀ {text : List Char} {json : Json}, Value text json → ∀ {mode : Mode},
    Fresh mode → ∀ depth, scan (mode, depth) text = some (.done, depth)
  | _, _, .null, _, fresh, depth => scan_ordinary (by simp) (by simp [Ordinary]) fresh.reads depth
  | _, _, .true, _, fresh, depth => scan_ordinary (by simp) (by simp [Ordinary]) fresh.reads depth
  | _, _, .false, _, fresh, depth => scan_ordinary (by simp) (by simp [Ordinary]) fresh.reads depth
  | _, _, .number number, _, fresh, depth =>
    scan_ordinary (number_ordinary number).1 (number_ordinary number).2 fresh.reads depth
  | _, _, .string body, _, fresh, depth => scan_quoted body fresh depth []
  | _, _, .emptyArray blank, _, fresh, depth =>
    scan_bracketed (Or.inl rfl) (Or.inl rfl) fresh (scan_spaces blank (by simp) (by simp) _) (Or.inl rfl)
  | _, _, .array elements, _, fresh, depth =>
    scan_bracketed (Or.inl rfl) (Or.inl rfl) fresh (scan_elements elements (Or.inr rfl) _) (Or.inr rfl)
  | _, _, .emptyObject blank, _, fresh, depth =>
    scan_bracketed (Or.inr rfl) (Or.inr rfl) fresh (scan_spaces blank (by simp) (by simp) _) (Or.inl rfl)
  | _, _, .object members, _, fresh, depth =>
    scan_bracketed (Or.inr rfl) (Or.inr rfl) fresh (scan_members members (Or.inr rfl) _) (Or.inr rfl)

theorem scan_document : ∀ {text : List Char} {json : Json}, Document text json → ∀ {mode : Mode},
    Fresh mode → ∀ depth, scan (mode, depth) text = some (.done, depth)
  | _, _, .mk left value right, _, fresh, depth => by
    rw [scan_append, scan_spaces left fresh.ne.1 fresh.ne.2, Option.bind_some, scan_append,
      scan_value value fresh depth]
    exact scan_spaces right (by simp) (by simp) depth

theorem scan_elements : ∀ {text : List Char} {items : List Json}, Elements text items → ∀ {mode : Mode},
    Fresh mode → ∀ depth, scan (mode, depth) text = some (.done, depth)
  | _, _, .one element, _, fresh, depth => scan_document element fresh depth
  | _, _, .cons element others, _, fresh, depth => by
    rw [scan_append, scan_document element fresh depth, Option.bind_some, scan_separator (Or.inl rfl)]
    exact scan_elements others (Or.inl rfl) depth

theorem scan_member : ∀ {text : List Char} {pair : List Char × Json}, Member text pair →
    ∀ {mode : Mode}, Fresh mode → ∀ depth, scan (mode, depth) text = some (.done, depth)
  | _, _, .mk left body right element, _, fresh, depth => by
    rw [scan_append, scan_spaces left fresh.ne.1 fresh.ne.2, Option.bind_some, scan_quoted body fresh,
      scan_append, scan_spaces right (by simp) (by simp), Option.bind_some, scan_separator (Or.inr rfl)]
    exact scan_document element (Or.inl rfl) depth

theorem scan_members : ∀ {text : List Char} {pairs : List (List Char × Json)}, Members text pairs →
    ∀ {mode : Mode}, Fresh mode → ∀ depth, scan (mode, depth) text = some (.done, depth)
  | _, _, .one member, _, fresh, depth => scan_member member fresh depth
  | _, _, .cons member others, _, fresh, depth => by
    rw [scan_append, scan_member member fresh depth, Option.bind_some, scan_separator (Or.inl rfl)]
    exact scan_members others (Or.inl rfl) depth

end

end EnergyDisplay.JsonText

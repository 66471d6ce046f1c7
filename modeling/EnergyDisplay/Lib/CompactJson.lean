import EnergyDisplay.Lib.Json

/-! JSON written without spaces, and a reader that takes it back. The reader is
a recursive descent with fuel, which the length of the text is enough of: every
step takes a character at least. -/
namespace EnergyDisplay.JsonText

/-! ## Writing -/

mutual

/-- A value without spaces. Strings stand as they are, so they must be plain. -/
def compact : Json → List Char
  | .null => ['n', 'u', 'l', 'l']
  | .bool true => ['t', 'r', 'u', 'e']
  | .bool false => ['f', 'a', 'l', 's', 'e']
  | .number text => text
  | .string value => '"' :: (value ++ ['"'])
  | .array items => '[' :: (compactItems items ++ [']'])
  | .object members => '\x7b' :: (compactMembers members ++ ['\x7d'])

def compactItems : List Json → List Char
  | [] => []
  | [item] => compact item
  | item :: next :: rest => compact item ++ ',' :: compactItems (next :: rest)

def compactMembers : List (List Char × Json) → List Char
  | [] => []
  | [(name, json)] => '"' :: (name ++ '"' :: ':' :: compact json)
  | (name, json) :: next :: rest =>
    '"' :: (name ++ '"' :: ':' :: (compact json ++ ',' :: compactMembers (next :: rest)))

end

mutual

/-- Numbers are numbers, and strings need no escapes. -/
def Json.Simple : Json → Prop
  | .null | .bool _ => True
  | .number text => Number text
  | .string value => ∀ character ∈ value, Plain character
  | .array items => SimpleItems items
  | .object members => SimpleMembers members

def SimpleItems : List Json → Prop
  | [] => True
  | item :: rest => item.Simple ∧ SimpleItems rest

def SimpleMembers : List (List Char × Json) → Prop
  | [] => True
  | (name, json) :: rest => (∀ character ∈ name, Plain character) ∧ json.Simple ∧ SimpleMembers rest

end

theorem simpleItems_iff {items : List Json} : SimpleItems items ↔ ∀ item ∈ items, item.Simple := by
  induction items with
  | nil => simp [SimpleItems]
  | cons item rest ih => simp [SimpleItems, ih]

mutual

/-- What is written is the value it is written for. -/
theorem compact_value : ∀ {json : Json}, json.Simple → Value (compact json) json
  | .null, _ => .null
  | .bool true, _ => .true
  | .bool false, _ => .false
  | .number _, simple => .number simple
  | .string _, simple => .string (Body.plain simple)
  | .array [], _ => .emptyArray spaces_nil
  | .array (_ :: _), simple => .array (compact_elements simple (by simp))
  | .object [], _ => .emptyObject spaces_nil
  | .object (_ :: _), simple => .object (compact_members simple (by simp))

theorem compact_elements : ∀ {items : List Json}, SimpleItems items → items ≠ [] →
    Elements (compactItems items) items
  | [], _, some_ => absurd rfl some_
  | [_], simple, _ => .one (compact_value simple.1).document
  | _ :: _ :: _, simple, _ => .cons (compact_value simple.1).document (compact_elements simple.2 (by simp))

theorem compact_members : ∀ {members : List (List Char × Json)}, SimpleMembers members → members ≠ [] →
    Members (compactMembers members) members
  | [], _, some_ => absurd rfl some_
  | [(_, _)], simple, _ =>
    .one (.mk spaces_nil (Body.plain simple.1) spaces_nil (compact_value simple.2.1).document)
  | (_, _) :: _ :: _, simple, _ => by
    have member := Member.mk spaces_nil (Body.plain simple.1) spaces_nil (compact_value simple.2.1).document
    have members := Members.cons member (compact_members simple.2.2 (by simp))
    simpa [compactMembers] using members

end

/-! ## Reading -/

/-- A string up to its closing quote. A backslash is refused. -/
def readString : List Char → Option (List Char × List Char)
  | [] => none
  | character :: rest =>
    if character = '"' then some ([], rest)
    else if character = '\\' then none
    else (readString rest).map fun (value, rest) => (character :: value, rest)

def readNumber (text : List Char) : Option (Json × List Char) :=
  if text.takeWhile isNumberCharacter = [] then none
  else some (.number (text.takeWhile isNumberCharacter), text.dropWhile isNumberCharacter)

mutual

/-- A value, and what follows it. -/
def readValue : ℕ → List Char → Option (Json × List Char)
  | 0, _ => none
  | fuel + 1, text =>
    match text with
    | 'n' :: 'u' :: 'l' :: 'l' :: rest => some (.null, rest)
    | 't' :: 'r' :: 'u' :: 'e' :: rest => some (.bool true, rest)
    | 'f' :: 'a' :: 'l' :: 's' :: 'e' :: rest => some (.bool false, rest)
    | '"' :: rest => (readString rest).map fun (value, rest) => (.string value, rest)
    | '[' :: ']' :: rest => some (.array [], rest)
    | '[' :: rest => (readItems fuel rest).map fun (items, rest) => (.array items, rest)
    | '\x7b' :: '\x7d' :: rest => some (.object [], rest)
    | '\x7b' :: rest => (readMembers fuel rest).map fun (members, rest) => (.object members, rest)
    | text => readNumber text

/-- Items up to the closing bracket. -/
def readItems : ℕ → List Char → Option (List Json × List Char)
  | 0, _ => none
  | fuel + 1, text => do
    let (item, rest) ← readValue fuel text
    match rest with
    | ',' :: rest => (readItems fuel rest).map fun (items, rest) => (item :: items, rest)
    | ']' :: rest => return ([item], rest)
    | _ => none

/-- Members up to the closing brace. -/
def readMembers : ℕ → List Char → Option (List (List Char × Json) × List Char)
  | 0, _ => none
  | fuel + 1, text =>
    match text with
    | '"' :: rest => do
      let (name, rest) ← readString rest
      match rest with
      | ':' :: rest => do
        let (json, rest) ← readValue fuel rest
        match rest with
        | ',' :: rest => (readMembers fuel rest).map fun (members, rest) => ((name, json) :: members, rest)
        | '\x7d' :: rest => return ([(name, json)], rest)
        | _ => none
      | _ => none
    | _ => none

end

/-- A value at the beginning of a text, and how many characters it takes. -/
def read (text : List Char) : Option (Json × ℕ) :=
  (readValue (text.length + 1) text).map fun (json, rest) => (json, text.length - rest.length)

/-- What may follow a number, so that it ends. -/
def EndsNumber (rest : List Char) : Prop := ∀ character ∈ rest.head?, isNumberCharacter character = false

theorem readString_plain {text : List Char} (plain : ∀ character ∈ text, Plain character) (rest : List Char) :
    readString (text ++ '"' :: rest) = some (text, rest) := by
  induction text with
  | nil => simp [readString]
  | cons character text ih =>
    obtain ⟨⟨_, quote, backslash⟩, others⟩ := List.forall_mem_cons.mp plain
    simp [readString, quote, backslash, ih others]

theorem readNumber_append {text rest : List Char} (number : Number text) (ends : EndsNumber rest) :
    readNumber (text ++ rest) = some (.number text, rest) := by
  obtain ⟨some_, characters⟩ := number_characters number
  have stops : rest.takeWhile isNumberCharacter = [] ∧ rest.dropWhile isNumberCharacter = rest := by
    cases rest with
    | nil => exact ⟨rfl, rfl⟩
    | cons character rest =>
      have other : isNumberCharacter character = false := ends character rfl
      simp [other]
  have taken : (text ++ rest).takeWhile isNumberCharacter = text := by
    rw [List.takeWhile_append_of_pos characters, stops.1, List.append_nil]
  have dropped : (text ++ rest).dropWhile isNumberCharacter = rest := by
    rw [List.dropWhile_append_of_pos characters, stops.2]
  rw [readNumber, taken, dropped, if_neg some_]

/-- A number begins like nothing else. -/
theorem readValue_number {text : List Char} (number : Number text) (fuel : ℕ) (rest : List Char) :
    readValue (fuel + 1) (text ++ rest) = readNumber (text ++ rest) := by
  obtain ⟨some_, characters⟩ := number_characters number
  cases text with
  | nil => exact absurd rfl some_
  | cons first text =>
    have digit : isNumberCharacter first = true := characters first List.mem_cons_self
    rw [List.cons_append, readValue]
    all_goals
      rintro others same
      rw [(List.cons.inj same).1] at digit
      exact absurd digit (by decide)

theorem readValue_array {text : List Char} (opens : text.head? ≠ some ']') (fuel : ℕ) :
    readValue (fuel + 1) ('[' :: text) = (readItems fuel text).map fun (items, rest) => (.array items, rest) := by
  rw [readValue]
  rintro rest rfl
  exact opens rfl

theorem readValue_object {text : List Char} (opens : text.head? ≠ some '\x7d') (fuel : ℕ) :
    readValue (fuel + 1) ('\x7b' :: text) =
      (readMembers fuel text).map fun (members, rest) => (.object members, rest) := by
  rw [readValue]
  rintro rest rfl
  exact opens rfl

/-- No value begins with the end of another. -/
theorem compact_head {json : Json} (simple : json.Simple) (rest : List Char) :
    (compact json ++ rest).head? ≠ some ']' := by
  cases json with
  | null => simp [compact]
  | bool value => cases value <;> simp [compact]
  | number text =>
    obtain ⟨some_, characters⟩ := number_characters simple
    cases text with
    | nil => exact absurd rfl some_
    | cons first text =>
      have digit : isNumberCharacter first = true := characters first List.mem_cons_self
      have closing : isNumberCharacter ']' = false := by decide
      rintro begins
      rw [compact, List.cons_append, List.head?_cons, Option.some.injEq] at begins
      rw [begins, closing] at digit
      cases digit
  | string value => simp [compact]
  | array items => simp [compact]
  | object members => simp [compact]

mutual

/-- Fuel for every character is enough to read a value back. -/
theorem readValue_compact : ∀ {json : Json}, json.Simple → ∀ {fuel : ℕ} {rest : List Char},
    (compact json).length ≤ fuel → EndsNumber rest →
      readValue (fuel + 1) (compact json ++ rest) = some (json, rest)
  | .null, _, _, _, _, _ => rfl
  | .bool true, _, _, _, _, _ => rfl
  | .bool false, _, _, _, _, _ => rfl
  | .number _, simple, fuel, rest, _, ends =>
    (readValue_number simple fuel rest).trans (readNumber_append simple ends)
  | .string _, simple, _, rest, _, _ => by
    simp [compact, readValue, readString_plain simple]
  | .array [], _, _, _, _, _ => rfl
  | .array (item :: items), simple, fuel, rest, enough, _ => by
    simp only [compact, List.length_cons, List.length_append, List.length_nil] at enough
    obtain ⟨fuel, rfl⟩ : ∃ less, fuel = less + 1 := ⟨fuel - 1, by omega⟩
    have opens : (compactItems (item :: items) ++ ']' :: rest).head? ≠ some ']' := by
      cases items with
      | nil => exact compact_head simple.1 _
      | cons next items =>
        rw [compactItems, List.append_assoc]
        exact compact_head simple.1 _
    rw [compact, List.cons_append, List.append_assoc, List.singleton_append, readValue_array opens,
      readItems_compact simple (by simp) (by omega)]
    rfl
  | .object [], _, _, _, _, _ => rfl
  | .object ((name, json) :: members), simple, fuel, rest, enough, _ => by
    simp only [compact, List.length_cons, List.length_append, List.length_nil] at enough
    obtain ⟨fuel, rfl⟩ : ∃ less, fuel = less + 1 := ⟨fuel - 1, by omega⟩
    have inside :
        readMembers (fuel + 1) (compactMembers ((name, json) :: members) ++ '\x7d' :: rest) = some (_, rest) :=
      readMembers_compact simple (by simp) (by omega)
    have opens : (compactMembers ((name, json) :: members) ++ '\x7d' :: rest).head? ≠ some '\x7d' := by
      cases members <;> simp [compactMembers]
    rw [compact, List.cons_append, List.append_assoc, List.singleton_append, readValue_object opens, inside]
    rfl

theorem readItems_compact : ∀ {items : List Json}, SimpleItems items → items ≠ [] →
    ∀ {fuel : ℕ} {rest : List Char}, (compactItems items).length < fuel →
      readItems (fuel + 1) (compactItems items ++ ']' :: rest) = some (items, rest)
  | [], _, some_, _, _, _ => absurd rfl some_
  | [item], simple, _, fuel, rest, enough => by
    simp only [compactItems] at enough ⊢
    obtain ⟨fuel, rfl⟩ : ∃ less, fuel = less + 1 := ⟨fuel - 1, by omega⟩
    have ends : EndsNumber (']' :: rest) := by simp [EndsNumber, isNumberCharacter]
    simp [readItems, readValue_compact simple.1 (show (compact item).length ≤ fuel by omega) ends]
  | item :: next :: items, simple, _, fuel, rest, enough => by
    simp only [compactItems, List.length_append, List.length_cons] at enough
    obtain ⟨fuel, rfl⟩ : ∃ less, fuel = less + 1 := ⟨fuel - 1, by omega⟩
    have ends : EndsNumber (',' :: (compactItems (next :: items) ++ ']' :: rest)) := by
      simp [EndsNumber, isNumberCharacter]
    have others : readItems (fuel + 1) (compactItems (next :: items) ++ ']' :: rest) = some (_, rest) :=
      readItems_compact simple.2 (by simp) (by omega)
    rw [compactItems, List.append_assoc, List.cons_append, readItems,
      readValue_compact simple.1 (show (compact item).length ≤ fuel by omega) ends]
    simp [others]

theorem readMembers_compact : ∀ {members : List (List Char × Json)}, SimpleMembers members → members ≠ [] →
    ∀ {fuel : ℕ} {rest : List Char}, (compactMembers members).length < fuel →
      readMembers (fuel + 1) (compactMembers members ++ '\x7d' :: rest) = some (members, rest)
  | [], _, some_, _, _, _ => absurd rfl some_
  | [(name, json)], simple, _, fuel, rest, enough => by
    simp only [compactMembers, List.length_cons, List.length_append] at enough
    obtain ⟨fuel, rfl⟩ : ∃ less, fuel = less + 1 := ⟨fuel - 1, by omega⟩
    have ends : EndsNumber ('\x7d' :: rest) := by simp [EndsNumber, isNumberCharacter]
    have value := readValue_compact simple.2.1 (show (compact json).length ≤ fuel by omega) ends
    simp [compactMembers, readMembers, readString_plain simple.1, value]
  | (name, json) :: next :: members, simple, _, fuel, rest, enough => by
    simp only [compactMembers, List.length_cons, List.length_append] at enough
    obtain ⟨fuel, rfl⟩ : ∃ less, fuel = less + 1 := ⟨fuel - 1, by omega⟩
    have ends : EndsNumber (',' :: (compactMembers (next :: members) ++ '\x7d' :: rest)) := by
      simp [EndsNumber, isNumberCharacter]
    have value := readValue_compact simple.2.1 (show (compact json).length ≤ fuel by omega) ends
    have others : readMembers (fuel + 1) (compactMembers (next :: members) ++ '\x7d' :: rest) = some (_, rest) :=
      readMembers_compact simple.2.2 (by simp) (by omega)
    simp only [compactMembers, List.cons_append, List.append_assoc]
    rw [readMembers]
    simp [readString_plain simple.1, value, others]

end

/-- What is written is read back as a whole. -/
theorem read_compact {json : Json} (simple : json.Simple) :
    read (compact json) = some (json, (compact json).length) := by
  have whole : readValue ((compact json).length + 1) (compact json ++ []) = some (json, []) :=
    readValue_compact simple (Nat.le_refl _) (by simp [EndsNumber])
  rw [List.append_nil] at whole
  simp [read, whole]

end EnergyDisplay.JsonText

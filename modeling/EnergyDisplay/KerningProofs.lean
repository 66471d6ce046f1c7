import EnergyDisplay.FontTables
import EnergyDisplay.Lib.BinarySearch
import Mathlib.Data.UInt

/-! The kerning tables against direct shaping. The build script stores a pair
only where it is set closer or wider than its left character alone, and the
renderer falls back on that character where a binary search finds nothing; no
text can tell this from shaping every two of its characters. -/
namespace EnergyDisplay.Font

open BinarySearch

/-! ## The lookups of the renderer -/

section Lookups

variable {F : Type} (font : BitmapFont F)

/-- `glyph`, as a binary search. -/
def BitmapFont.searchGlyph (character : Char) : Option (BitmapGlyph F) :=
  (binarySearchByKey font.glyphs BitmapGlyph.character character).map fun index => font.glyphs[index]

/-- `pair_advance`, as a binary search. -/
def BitmapFont.searchPairAdvance (left right : Char) : Option F :=
  (binarySearchByKey font.pairs PairAdvance.key (pairKey left right)).map fun index =>
    font.pairs[index].advance

theorem searchGlyph_eq (character : Char) : font.searchGlyph character = font.glyph character :=
  binarySearchByKey_eq_find font.glyphs_sorted character

theorem searchPairAdvance_eq (left right : Char) :
    font.searchPairAdvance left right = font.pairAdvance left right := by
  rw [BitmapFont.pairAdvance, ← binarySearchByKey_eq_find font.pairs_sorted, Option.map_map]
  rfl

end Lookups

/-! ## Direct shaping -/

variable {G : Type}

/-- How far apart two characters are set: as the pair is shaped, if that leaves
two glyphs with the left one as it is alone, and as the left one alone if not. -/
def directAdvance (system : FontSystem G) (size : G) (left right : Char) : Option G :=
  (system.shape [left] size).head?.map fun solo =>
    match system.shape [left, right] size with
    | [first, _] => if first.glyphId = solo.glyphId then first.advance else solo.advance
    | _ => solo.advance

/-- The advances of a text; its last character stands alone. -/
def directAdvances (system : FontSystem G) (size : G) : List Char → List (Option G)
  | [] => []
  | [character] => [(system.shape [character] size).head?.map ShapedGlyph.advance]
  | left :: right :: rest =>
    directAdvance system size left right :: directAdvances system size (right :: rest)

/-! ## What the tables hold -/

theorem pairKey_inj {left right left' right' : Char} :
    pairKey left right = pairKey left' right' ↔ left = left' ∧ right = right' := by
  constructor
  · intro same
    by_contra different
    rcases lt_trichotomy left left' with less | rfl | greater
    · exact (pairKey_lt (Or.inl less)).ne same
    · rcases lt_trichotomy right right' with less | rfl | greater
      · exact (pairKey_lt (Or.inr ⟨rfl, less⟩)).ne same
      · exact different ⟨rfl, rfl⟩
      · exact (pairKey_lt (Or.inr ⟨rfl, greater⟩)).ne same.symm
    · exact (pairKey_lt (Or.inl greater)).ne same.symm
  · rintro ⟨rfl, rfl⟩
    rfl

variable {system : FontSystem G} {size : G} {glyphs : List (ShapedGlyph G × BitmapGlyph G)}
  {left : ShapedGlyph G × BitmapGlyph G} {right : Char}

/-- Every two characters have the entry that they generate, or none. -/
theorem generatePairs_find (sorted : (glyphs.map (·.2.character)).Pairwise (· < ·)) (member : left ∈ glyphs)
    (known : right ∈ glyphs.map (·.2.character)) :
    ((generatePairs system size glyphs).find? fun pair => pair.key == pairKey left.2.character right) =
      generatePair system size left right := by
  cases generated : generatePair system size left right with
  | some pair =>
    refine find_of_mem (generatePairs_sorted sorted) ?_ (generatePair_key generated)
    exact List.mem_flatMap.mpr ⟨left, member, List.mem_filterMap.mpr ⟨right, known, generated⟩⟩
  | none =>
    refine List.find?_eq_none.mpr fun pair inside same => ?_
    obtain ⟨left', member', stored⟩ := List.mem_flatMap.mp inside
    obtain ⟨right', _, generated'⟩ := List.mem_filterMap.mp stored
    obtain ⟨first, rfl⟩ := pairKey_inj.mp ((generatePair_key generated').symm.trans (beq_iff_eq.mp same))
    have distinct : (glyphs.map (·.2.character)).Nodup := sorted.imp fun less => less.ne
    obtain rfl : left' = left := List.inj_on_of_nodup_map distinct member' member first
    rw [generated] at generated'
    cases generated'

/-- A stored pair and a left character alone are what direct shaping gives. -/
theorem generatePair_advance (lossless : Function.Injective system.toBits)
    (shaped : (system.shape [left.2.character] size).head? = some left.1)
    (solo : left.2.advance = left.1.advance) :
    directAdvance system size left.2.character right =
      some (((generatePair system size left right).map PairAdvance.advance).getD left.2.advance) := by
  rw [directAdvance, generatePair, shaped, Option.map_some, solo]
  rcases system.shape [left.2.character, right] size with _ | ⟨first, _ | ⟨second, _ | ⟨third, more⟩⟩⟩
  case cons.cons.nil =>
    by_cases same : first.glyphId = left.1.glyphId
    · by_cases bits : system.toBits first.advance = system.toBits left.1.advance
      · simp [same, lossless bits]
      · simp [same, bits]
    · simp [same]
  all_goals rfl

variable [Zero G] [BEq G]

/-- Each glyph is the one its character is shaped to alone. -/
theorem generateGlyphs_shaped {characters : List Char} {bitmapData data : List UInt8}
    (generated : generateGlyphs system size characters bitmapData = some (glyphs, data)) :
    ∀ left ∈ glyphs, (system.shape [left.2.character] size).head? = some left.1 ∧
      left.2.advance = left.1.advance := by
  induction characters generalizing bitmapData glyphs data with
  | nil =>
    cases generated
    simp
  | cons character rest ih =>
    simp only [generateGlyphs, Option.bind_eq_bind, Option.bind_eq_some_iff] at generated
    obtain ⟨⟨⟨glyph, bitmaps⟩, more⟩, first, ⟨others, all⟩, remaining, result⟩ := generated
    cases result
    exact List.forall_mem_cons.mpr ⟨⟨(generateGlyph_eq_some first).1, rfl⟩, ih remaining⟩

/-- The font of a table. -/
def FontTable.font (table : FontTable G) (baseline : Int) : BitmapFont G := { table with baseline := baseline }

/-! ## The fonts -/

variable {characters : List Char} {distinct : characters.Nodup} {bitmapData data : List UInt8}
  {table : FontTable G}

/-- Each character has the glyph it is shaped to alone, and with every other the
advance of direct shaping. -/
theorem generateFont_lookups (lossless : Function.Injective system.toBits)
    (generated : generateFont system size characters distinct true bitmapData = some (table, data))
    (baseline : Int) {left : Char} (known : left ∈ characters) :
    ∃ glyph, (table.font baseline).glyph left = some glyph ∧
      (system.shape [left] size).head?.map ShapedGlyph.advance = some glyph.advance ∧
      ∀ right ∈ characters, directAdvance system size left right =
        some (((table.font baseline).pairAdvance left right).getD glyph.advance) := by
  obtain ⟨glyphs, collected, sorted, glyphs_eq, pairs_eq⟩ := generateFont_eq_some generated
  have all : glyphs.map (·.2.character) = characters.insertionSort (· ≤ ·) :=
    generateGlyphs_characters collected
  have inside : ∀ character ∈ characters, character ∈ glyphs.map (·.2.character) := by
    intro character member
    rw [all]
    exact (List.mem_insertionSort (· ≤ ·)).mpr member
  obtain ⟨entry, member, rfl⟩ := List.mem_map.mp (inside left known)
  obtain ⟨shaped, solo⟩ := generateGlyphs_shaped collected entry member
  refine ⟨entry.2, ?_, by rw [shaped, solo]; rfl, fun right known' => ?_⟩
  · refine find_of_mem (table.font baseline).glyphs_sorted ?_ rfl
    show entry.2 ∈ table.glyphs
    rw [glyphs_eq]
    exact List.mem_map_of_mem member
  · have found : (table.pairs.find? fun pair => pair.key == pairKey entry.2.character right) =
        generatePair system size entry right := by
      rw [pairs_eq]
      exact generatePairs_find sorted member (inside right known')
    rw [BitmapFont.pairAdvance, FontTable.font, found]
    exact generatePair_advance lossless shaped solo

/-- **The compressed kerning table reproduces direct shaping.** Whatever the
shaping does, in a font generated of distinct characters the search finds a
glyph for each of them, and for any two of them the advance it finds for the
pair, or else the glyph's own, is the one of direct shaping. -/
theorem kerning_table_reproduces_shaping (system : FontSystem G)
    (lossless : Function.Injective system.toBits) (size : G) (characters : List Char)
    (distinct : characters.Nodup) (bitmapData data : List UInt8) (table : FontTable G)
    (generated : generateFont system size characters distinct true bitmapData = some (table, data))
    (baseline : Int) (left right : Char) (known : left ∈ characters) (known' : right ∈ characters) :
    ∃ glyph, (table.font baseline).searchGlyph left = some glyph ∧
      directAdvance system size left right =
        some (((table.font baseline).searchPairAdvance left right).getD glyph.advance) := by
  obtain ⟨glyph, found, _, paired⟩ := generateFont_lookups lossless generated baseline known
  refine ⟨glyph, (searchGlyph_eq _ _).trans found, ?_⟩
  rw [searchPairAdvance_eq]
  exact paired right known'

/-- Advances as the bits of an `f32`: half a pixel less between "b" and "a", and
one glyph for "ab". -/
def kerned : FontSystem UInt32 where
  shape text _ :=
    let solo (character : Char) : ShapedGlyph UInt32 :=
      { fontId := 0, glyphId := character.toNat, fontWeight := 900, advance := 0x41000000
        xOffset := 0, yOffset := 0 }
    match text with
    | ['a', 'b'] => [{ solo 'a' with glyphId := 7 }]
    | ['b', 'a'] => [{ solo 'b' with advance := 0x40f00000 }, solo 'a']
    | _ => text.map solo
  image _ _ _ := some blank
  lineY _ _ := some 13
  toBits := id

theorem kerned_pair_reproduced :
    ∃ table data, generateFont kerned 0x41900000 ['b', 'a'] (by decide) true [] = some (table, data) ∧
      ∃ glyph, (table.font 13).searchGlyph 'b' = some glyph ∧
        directAdvance kerned 0x41900000 'b' 'a' =
          some (((table.font 13).searchPairAdvance 'b' 'a').getD glyph.advance) :=
  ⟨_, _, rfl, kerning_table_reproduces_shaping kerned Function.injective_id 0x41900000 ['b', 'a'] (by decide)
    [] _ _ rfl 13 'b' 'a' (by decide) (by decide)⟩

/-- A text of the font's characters is laid out with the advances of direct
shaping. -/
theorem layoutGlyphs_shaped (lossless : Function.Injective system.toBits)
    (generated : generateFont system size characters distinct true bitmapData = some (table, data))
    (baseline : Int) (text : List Char) (known : text ⊆ characters) {before glyphs : Vec (SourceGlyph G)}
    (laid : layoutGlyphs (table.font baseline) text before = some glyphs) :
    glyphs.items.map (fun source => some source.advance) =
      before.items.map (fun source => some source.advance) ++ directAdvances system size text := by
  induction text generalizing before with
  | nil =>
    cases laid
    rw [directAdvances, List.append_nil]
  | cons character chars ih =>
    obtain ⟨here, others⟩ := List.cons_subset.mp known
    obtain ⟨glyph, found, solo, paired⟩ := generateFont_lookups lossless generated baseline here
    simp only [layoutGlyphs, found, Option.bind_eq_bind, Option.bind_eq_some_iff] at laid
    obtain ⟨longer, pushed, rest⟩ := laid
    rw [ih others rest, Heapless.extend_items pushed, List.map_append, List.append_assoc]
    cases chars with
    | nil => simp [directAdvances, solo]
    | cons next chars => simp [directAdvances, paired next (others List.mem_cons_self)]

end EnergyDisplay.Font

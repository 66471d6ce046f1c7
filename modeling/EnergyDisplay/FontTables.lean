import EnergyDisplay.GlyphBitmaps
import Mathlib.Data.Char
import Mathlib.Data.List.Sort

/-! The font tables that `crates/dashboard-core/build.rs` writes: for each size
the glyphs in the order of their characters, and the pairs that are set closer
or wider than their left glyph alone. Shaping and rasterizing are a library's,
and come in as arguments; a build that panics is a `none`. The generated fonts
carry the order that binary search relies on. -/
namespace EnergyDisplay.Font

structure ShapedGlyph (G : Type) where
  fontId : ℕ
  glyphId : ℕ
  fontWeight : ℕ
  advance : G
  xOffset : G
  yOffset : G

/-- The text family as `cosmic_text` and `swash` have it: the glyphs a text is
shaped to at a size, the image of a glyph some quarters of a pixel to the right,
and the line a text stands on. -/
structure FontSystem (G : Type) where
  shape : List Char → G → List (ShapedGlyph G)
  image : ShapedGlyph G → G → Fin 4 → Option SwashImage
  lineY : List Char → G → Option Int
  toBits : G → UInt32

/-- The tables of one size. -/
structure FontTable (G : Type) where
  glyphs : List (BitmapGlyph G)
  pairs : List (PairAdvance G)
  glyphs_sorted : (glyphs.map BitmapGlyph.character).Pairwise (· < ·)
  pairs_sorted : (pairs.map PairAdvance.key).Pairwise (· < ·)

/-- An entry of `TEXT_FONTS`. -/
structure SizedFont (G : Type) extends BitmapFont G where
  sizeBits : UInt32

def textChars : List Char := " %-.0123456789:?CNOPWabcdefghijklmnopqrstuvwxyz°↑↓".toList

def textSizes {G : Type} [IntCast G] : List G := [(18 : Int), (23 : Int), (29 : Int), (32 : Int), (43 : Int)]

variable {G : Type} [Zero G] [BEq G] (system : FontSystem G) (size : G)

/-- The bitmaps of a glyph, one for each quarter of a pixel. -/
def quarterBitmaps (glyph : ShapedGlyph G) (bitmapData : List UInt8) :
    Option ((Fin 4 → Bitmap) × List UInt8) := do
  let (first, bitmapData) ← thresholdBitmap (← system.image glyph size 0) bitmapData
  let (second, bitmapData) ← thresholdBitmap (← system.image glyph size 1) bitmapData
  let (third, bitmapData) ← thresholdBitmap (← system.image glyph size 2) bitmapData
  let (fourth, bitmapData) ← thresholdBitmap (← system.image glyph size 3) bitmapData
  return ([first, second, third, fourth].get, bitmapData)

def generateGlyph (character : Char) (bitmapData : List UInt8) :
    Option ((ShapedGlyph G × (Fin 4 → Bitmap)) × List UInt8) := do
  let glyph ← (system.shape [character] size).head?
  if glyph.xOffset != 0 || glyph.yOffset != 0 then none
  let (bitmaps, bitmapData) ← quarterBitmaps system size glyph bitmapData
  return ((glyph, bitmaps), bitmapData)

/-- The characters with the glyphs they are shaped to. -/
def generateGlyphs : List Char → List UInt8 →
    Option (List (ShapedGlyph G × BitmapGlyph G) × List UInt8)
  | [], bitmapData => some ([], bitmapData)
  | character :: characters, bitmapData => do
    let ((glyph, bitmaps), bitmapData) ← generateGlyph system size character bitmapData
    let (glyphs, bitmapData) ← generateGlyphs characters bitmapData
    return ((glyph, { character := character, advance := glyph.advance, bitmaps := bitmaps }) :: glyphs, bitmapData)

/-- What a pair adds to the table. -/
def generatePair (left : ShapedGlyph G × BitmapGlyph G) (right : Char) : Option (PairAdvance G) :=
  match system.shape [left.2.character, right] size with
  | [first, _] =>
    if first.glyphId != left.1.glyphId then none
    else if system.toBits first.advance != system.toBits left.1.advance then
      some { key := pairKey left.2.character right, advance := first.advance }
    else none
  | _ => none

def generatePairs (glyphs : List (ShapedGlyph G × BitmapGlyph G)) : List (PairAdvance G) :=
  glyphs.flatMap fun left => (glyphs.map (·.2.character)).filterMap (generatePair system size left)

/-! ## Order of the tables -/

variable {system size}

theorem generateGlyph_eq_some {character : Char} {bitmapData data : List UInt8} {glyph : ShapedGlyph G}
    {bitmaps : Fin 4 → Bitmap}
    (generated : generateGlyph system size character bitmapData = some ((glyph, bitmaps), data)) :
    (system.shape [character] size).head? = some glyph ∧
      quarterBitmaps system size glyph bitmapData = some (bitmaps, data) := by
  simp only [generateGlyph, Option.bind_eq_bind, Option.bind_eq_some_iff] at generated
  obtain ⟨shaped, head, rest⟩ := generated
  split at rest
  · cases rest
  · obtain ⟨_, quarters, result⟩ := Option.bind_eq_some_iff.mp rest
    cases result
    exact ⟨head, quarters⟩

theorem generateGlyphs_characters {characters : List Char} {bitmapData data : List UInt8}
    {glyphs : List (ShapedGlyph G × BitmapGlyph G)}
    (generated : generateGlyphs system size characters bitmapData = some (glyphs, data)) :
    glyphs.map (·.2.character) = characters := by
  induction characters generalizing bitmapData glyphs data with
  | nil =>
    cases generated
    rfl
  | cons character rest ih =>
    simp only [generateGlyphs, Option.bind_eq_bind, Option.bind_eq_some_iff] at generated
    obtain ⟨⟨⟨glyph, bitmaps⟩, more⟩, _, ⟨others, all⟩, remaining, result⟩ := generated
    cases result
    exact congrArg (character :: ·) (ih remaining)

theorem pairKey_eq (left right : Char) : pairKey left right = left.toNat * 2 ^ 32 + right.toNat := by
  have small : right.toNat < 2 ^ 32 := right.val.toNat_lt
  rw [pairKey, Nat.shiftLeft_eq, Nat.mul_comm, Nat.two_pow_add_eq_or_of_lt small]

/-- Keys are in the order of the left characters, and of the right ones for the
same left. -/
theorem pairKey_lt {left right left' right' : Char} (less : left < left' ∨ left = left' ∧ right < right') :
    pairKey left right < pairKey left' right' := by
  rw [pairKey_eq, pairKey_eq]
  have small : right.toNat < 2 ^ 32 := right.val.toNat_lt
  rcases less with less | ⟨rfl, less⟩
  · have codes : left.toNat < left'.toNat := less
    omega
  · have codes : right.toNat < right'.toNat := less
    omega

omit [Zero G] [BEq G] in
theorem generatePair_key {left : ShapedGlyph G × BitmapGlyph G} {right : Char} {pair : PairAdvance G}
    (generated : generatePair system size left right = some pair) :
    pair.key = pairKey left.2.character right := by
  unfold generatePair at generated
  split at generated
  case h_2 => cases generated
  split at generated
  · cases generated
  split at generated
  · cases generated
    rfl
  · cases generated

omit [Zero G] [BEq G] in
/-- The nested loops over sorted characters give sorted keys. -/
theorem generatePairs_sorted {glyphs : List (ShapedGlyph G × BitmapGlyph G)}
    (sorted : (glyphs.map (·.2.character)).Pairwise (· < ·)) :
    ((generatePairs system size glyphs).map PairAdvance.key).Pairwise (· < ·) := by
  rw [generatePairs, List.pairwise_map, List.pairwise_flatMap]
  constructor
  · intro left _
    refine List.pairwise_filterMap.mpr (sorted.imp ?_)
    intro right right' less pair generated pair' generated'
    rw [generatePair_key generated, generatePair_key generated']
    exact pairKey_lt (Or.inr ⟨rfl, less⟩)
  · refine (List.pairwise_map.mp sorted).imp ?_
    intro left left' less pair member pair' member'
    obtain ⟨right, _, generated⟩ := List.mem_filterMap.mp member
    obtain ⟨right', _, generated'⟩ := List.mem_filterMap.mp member'
    rw [generatePair_key generated, generatePair_key generated']
    exact pairKey_lt (Or.inl less)

theorem sorted_strictly {characters : List Char} (distinct : characters.Nodup) :
    (characters.insertionSort (· ≤ ·)).Pairwise (· < ·) :=
  (List.pairwise_insertionSort (· ≤ ·) characters).imp₂ (fun _ _ => lt_of_le_of_ne)
    ((List.perm_insertionSort (· ≤ ·) characters).nodup_iff.mpr distinct)

/-! ## The fonts -/

variable (system size)

/-- `generate_font`; `sort_unstable` has one result, since no two characters are
the same. -/
def generateFont (characters : List Char) (distinct : characters.Nodup) (kerned : Bool)
    (bitmapData : List UInt8) : Option (FontTable G × List UInt8) :=
  match generated : generateGlyphs system size (characters.insertionSort (· ≤ ·)) bitmapData with
  | none => none
  | some (glyphs, bitmapData) =>
    have sorted : (glyphs.map (·.2.character)).Pairwise (· < ·) := by
      rw [generateGlyphs_characters generated]
      exact sorted_strictly distinct
    some
      ({ glyphs := glyphs.map (·.2)
         pairs := if kerned then generatePairs system size glyphs else []
         glyphs_sorted := by rwa [List.map_map]
         pairs_sorted := by
          split
          · exact generatePairs_sorted sorted
          · exact .nil },
        bitmapData)

variable {system size} in
/-- What a generated table holds. -/
theorem generateFont_eq_some {characters : List Char} {distinct : characters.Nodup} {kerned : Bool}
    {bitmapData data : List UInt8} {table : FontTable G}
    (generated : generateFont system size characters distinct kerned bitmapData = some (table, data)) :
    ∃ glyphs, generateGlyphs system size (characters.insertionSort (· ≤ ·)) bitmapData = some (glyphs, data) ∧
      (glyphs.map (·.2.character)).Pairwise (· < ·) ∧ table.glyphs = glyphs.map (·.2) ∧
      table.pairs = if kerned then generatePairs system size glyphs else [] := by
  unfold generateFont at generated
  split at generated
  case h_1 => cases generated
  case h_2 glyphs more collected =>
    cases generated
    refine ⟨glyphs, collected, ?_, rfl, rfl⟩
    rw [generateGlyphs_characters collected]
    exact sorted_strictly distinct

theorem textChars_nodup : textChars.Nodup := by decide

/-- The entries of `TEXT_FONTS`, for these sizes. -/
def generateTextFonts : List G → List UInt8 → Option (List (SizedFont G) × List UInt8)
  | [], bitmapData => some ([], bitmapData)
  | size :: sizes, bitmapData => do
    let (table, bitmapData) ← generateFont system size textChars textChars_nodup true bitmapData
    let baseline ← system.lineY "0".toList size
    let (fonts, bitmapData) ← generateTextFonts sizes bitmapData
    return ({ table with sizeBits := system.toBits size, baseline := baseline } :: fonts, bitmapData)

def textFonts [IntCast G] : Option (List (SizedFont G)) :=
  (generateTextFonts system textSizes []).map (·.1)

/-- What `draw` lays out of a text: nothing without a font of the size. -/
def layoutText [IntCast G] [Add G] [LE G] [LT G] [DecidableLE G] [DecidableLT G] (toBits : G → UInt32)
    (fonts : List (SizedFont G)) (text : List Char) (width : ℕ) (fontSize : G) :
    Option (Vec (SourceGlyph G) × Vec (Line G)) := do
  let font ← fonts.find? fun font => font.sizeBits == toBits fontSize
  layout text font.toBitmapFont ((width : Int) : G)

end EnergyDisplay.Font

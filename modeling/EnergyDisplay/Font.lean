import EnergyDisplay.Lib.Heapless
import Mathlib.Data.UInt

/-! The text renderer of `crates/dashboard-core/src/font.rs`: the generated
font tables, the lookup of glyphs and kerning pairs, and `layout`, which cuts a
text into words and the words into lines.

`F` stands for `f32`. The tables come out of the build script sorted and
without duplicates, so a binary search finds the entry of a key if there is
one. -/
namespace EnergyDisplay.Font

structure Bitmap where
  left : Int
  top : Int
  width : UInt8
  height : UInt8
  dataStart : UInt32
  deriving DecidableEq

instance subpixelBins_ne_zero : NeZero 4 := ⟨by decide⟩

structure BitmapGlyph (F : Type) where
  character : Char
  advance : F
  bitmaps : Fin 4 → Bitmap

structure PairAdvance (F : Type) where
  key : ℕ
  advance : F

structure BitmapFont (F : Type) where
  baseline : Int
  glyphs : List (BitmapGlyph F)
  pairs : List (PairAdvance F)
  glyphs_sorted : (glyphs.map BitmapGlyph.character).Pairwise (· < ·)
  pairs_sorted : (pairs.map PairAdvance.key).Pairwise (· < ·)

structure SourceGlyph (F : Type) where
  character : Char
  glyph : BitmapGlyph F
  advance : F

structure Word (F : Type) where
  start : ℕ
  stop : ℕ
  width : F
  blank : Bool

structure Line (F : Type) where
  start : ℕ
  stop : ℕ
  width : F

def maxLayoutGlyphs : ℕ := 64

abbrev Vec (α : Type) := HeaplessVec α maxLayoutGlyphs

variable {F : Type}

def BitmapFont.glyph (font : BitmapFont F) (character : Char) : Option (BitmapGlyph F) :=
  font.glyphs.find? fun glyph => glyph.character == character

/-- The code points of both characters in one `u64`. -/
def pairKey (left right : Char) : ℕ := left.toNat <<< 32 ||| right.toNat

def BitmapFont.pairAdvance (font : BitmapFont F) (left right : Char) : Option F :=
  (font.pairs.find? fun pair => pair.key == pairKey left right).map PairAdvance.advance

/-- The glyphs of the text; characters without one are left out, and a pair is
looked up with the character that follows in the text. -/
def layoutGlyphs (font : BitmapFont F) :
    List Char → Vec (SourceGlyph F) → Option (Vec (SourceGlyph F))
  | [], glyphs => some glyphs
  | character :: chars, glyphs =>
    match font.glyph character with
    | none => layoutGlyphs font chars glyphs
    | some glyph => do
      let advance := (chars.head?.bind (font.pairAdvance character)).getD glyph.advance
      let glyphs ← glyphs.push { character := character, glyph := glyph, advance := advance }
      layoutGlyphs font chars glyphs

variable [Zero F] [Add F] [LE F] [LT F] [DecidableLE F] [DecidableLT F]

/-- The glyphs with the indices from `start` to before `stop`. -/
def slice (glyphs : List (SourceGlyph F)) (start stop : ℕ) : List (SourceGlyph F) :=
  (glyphs.drop start).take (stop - start)

def advances (glyphs : List (SourceGlyph F)) : F :=
  glyphs.foldl (fun width glyph => width + glyph.advance) 0

/-- The end of the word at `start`, which is not blank: the inner loop. -/
def wordEnd (glyphs : List (SourceGlyph F)) (start : ℕ) : ℕ :=
  start + 1 + ((glyphs.drop (start + 1)).takeWhile fun glyph => glyph.character != ' ').length

/-- The word at `start`; a blank is a word of its own. -/
def wordAt (glyphs : List (SourceGlyph F)) (start : ℕ) (inside : start < glyphs.length) : Word F :=
  let blank := glyphs[start].character == ' '
  let stop := if blank then start + 1 else wordEnd glyphs start
  { start := start, stop := stop, width := advances (slice glyphs start stop), blank := blank }

def layoutWords (glyphs : List (SourceGlyph F)) (start : ℕ) (words : Vec (Word F)) :
    Option (Vec (Word F)) :=
  if inside : start < glyphs.length then
    match words.push (wordAt glyphs start inside) with
    | some words => layoutWords glyphs (wordAt glyphs start inside).stop words
    | none => none
  else some words
termination_by glyphs.length - start
decreasing_by
  simp only [wordAt, wordEnd]
  split <;> omega

/-- The lines so far and the line that is open. -/
structure Wrap (F : Type) where
  lines : Vec (Line F)
  rangeStart : ℕ
  rangeWidth : F
  widthBeforeLastBlank : F

/-- Close the open line at `stop`. -/
def Wrap.close (wrap : Wrap F) (stop : ℕ) (width : F) : Option (Wrap F) :=
  (wrap.lines.push { start := wrap.rangeStart, stop := stop, width := width }).map fun lines =>
    { wrap with lines := lines }

/-- One glyph of a word that is too wide for a line. -/
def wrapGlyph (maxWidth : F) (wrap : Wrap F) (glyph : SourceGlyph F × ℕ) : Option (Wrap F) :=
  let (source, glyphIndex) := glyph
  if wrap.rangeWidth + source.advance ≤ maxWidth then
    some { wrap with rangeWidth := wrap.rangeWidth + source.advance }
  else
    let closed :=
      if wrap.rangeStart < glyphIndex then wrap.close glyphIndex wrap.rangeWidth else some wrap
    closed.map fun wrap => { wrap with rangeStart := glyphIndex, rangeWidth := source.advance }

/-- Close the open line before a word that is too wide for a line. -/
def Wrap.closeBefore (wrap : Wrap F) (word : Word F) : Option (Wrap F) :=
  if 0 < wrap.rangeWidth then
    (wrap.close word.start wrap.rangeWidth).map fun wrap =>
      { wrap with rangeStart := word.start, rangeWidth := 0 }
  else some wrap

/-- Where the open line ends before a word, and its width: a blank just before
the word is left out. -/
def Wrap.lineEnd (wrap : Wrap F) (previous : Option (Word F)) (word : Word F) : ℕ × F :=
  match previous with
  | some previous =>
    if previous.blank then (previous.start, wrap.widthBeforeLastBlank)
    else (word.start, wrap.rangeWidth)
  | none => (word.start, wrap.rangeWidth)

/-- Close the open line before a word that fits on the next. -/
def Wrap.closeAtBlank (wrap : Wrap F) (previous : Option (Word F)) (word : Word F) : Option (Wrap F) :=
  if 0 < wrap.rangeWidth then
    let (stop, width) := wrap.lineEnd previous word
    if wrap.rangeStart < stop then wrap.close stop width else some wrap
  else some wrap

def wrapWord (glyphs : List (SourceGlyph F)) (maxWidth : F) (previous : Option (Word F))
    (wrap : Wrap F) (word : Word F) : Option (Wrap F) :=
  if wrap.rangeWidth + word.width ≤ maxWidth ∨ (word.blank = true ∧ wrap.rangeWidth ≤ maxWidth) then
    some
      { wrap with
        widthBeforeLastBlank := if word.blank then wrap.rangeWidth else wrap.widthBeforeLastBlank
        rangeWidth := wrap.rangeWidth + word.width }
  else if maxWidth < word.width then
    (wrap.closeBefore word).bind fun wrap =>
      ((slice glyphs word.start word.stop).zipIdx word.start).foldlM (wrapGlyph maxWidth) wrap
  else
    (wrap.closeAtBlank previous word).map fun wrap =>
      { wrap with
        rangeStart := word.start
        rangeWidth := if word.blank then 0 else word.width }

def wrapWords (glyphs : List (SourceGlyph F)) (maxWidth : F) :
    Option (Word F) → Wrap F → List (Word F) → Option (Wrap F)
  | _, wrap, [] => some wrap
  | previous, wrap, word :: words =>
    (wrapWord glyphs maxWidth previous wrap word).bind fun wrap =>
      wrapWords glyphs maxWidth (some word) wrap words

/-- Close what is open after the last word. -/
def Wrap.finish (wrap : Wrap F) (glyphs : List (SourceGlyph F)) : Option (Wrap F) :=
  if wrap.rangeStart < glyphs.length ∧ 0 < wrap.rangeWidth then
    wrap.close glyphs.length wrap.rangeWidth
  else some wrap

def layout (text : List Char) (font : BitmapFont F) (maxWidth : F) :
    Option (Vec (SourceGlyph F) × Vec (Line F)) := do
  let glyphs ← layoutGlyphs font text .empty
  let words ← layoutWords glyphs.items 0 .empty
  let wrap ← wrapWords glyphs.items maxWidth none
    { lines := .empty, rangeStart := 0, rangeWidth := 0, widthBeforeLastBlank := 0 } words.items
  let wrap ← wrap.finish glyphs.items
  return (glyphs, wrap.lines)

end EnergyDisplay.Font

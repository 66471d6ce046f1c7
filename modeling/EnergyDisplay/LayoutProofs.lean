import EnergyDisplay.Font
import EnergyDisplay.Lib.Spans
import Mathlib.Algebra.Order.BigOperators.Group.List
import Mathlib.Algebra.Order.Ring.Rat
import Mathlib.Tactic.Linarith

/-! Word wrapping keeps all ink. The three cases of the wrapping loop share one
invariant: the lines closed so far cover all ink before the open line, and the
open line has a width as soon as it holds ink. A line takes at least one glyph,
so there is always room for the next; only the glyphs can be too many. -/
namespace EnergyDisplay.Font

open Spans

/-- All advances of a font are positive. -/
structure BitmapFont.Positive (font : BitmapFont ℚ) : Prop where
  glyphs : ∀ glyph ∈ font.glyphs, 0 < glyph.advance
  pairs : ∀ pair ∈ font.pairs, 0 < pair.advance

/-- The characters of a text that the font has a glyph for. -/
def BitmapFont.supported {F : Type} (font : BitmapFont F) (text : List Char) : List Char :=
  text.filter fun character => (font.glyph character).isSome

/-- The glyph at this index is not a space. -/
def Ink (glyphs : List (SourceGlyph ℚ)) (index : ℕ) : Prop :=
  ∃ glyph, glyphs[index]? = some glyph ∧ glyph.character ≠ ' '

def Line.range (line : Line ℚ) : Span := ⟨line.start, line.stop⟩

/-! ## Ranges of glyphs, whatever their advances -/

section Ranges

variable {F : Type} {glyphs : List (SourceGlyph F)} {start stop : ℕ}

theorem wordEnd_bounds (inside : start < glyphs.length) :
    start < wordEnd glyphs start ∧ wordEnd glyphs start ≤ glyphs.length := by
  have shorter : ((glyphs.drop (start + 1)).takeWhile fun glyph => glyph.character != ' ').Sublist
      (glyphs.drop (start + 1)) := List.takeWhile_sublist _
  have bound := shorter.length_le
  rw [List.length_drop] at bound
  unfold wordEnd
  omega

theorem wordAt_bounds [Zero F] [Add F] (inside : start < glyphs.length) :
    start < (wordAt glyphs start inside).stop ∧ (wordAt glyphs start inside).stop ≤ glyphs.length := by
  unfold wordAt
  dsimp only
  split
  · omega
  · exact wordEnd_bounds inside

theorem slice_length (start : ℕ) (inside : stop ≤ glyphs.length) :
    (slice glyphs start stop).length = stop - start := by
  simp only [slice, List.length_take, List.length_drop]
  omega

end Ranges

variable {font : BitmapFont ℚ} {text : List Char} {maxWidth : ℚ} {glyphs : List (SourceGlyph ℚ)}

/-! ## Glyphs -/

/-- What holds of all advances of a font holds of a glyph with the advance of its
pair, or else its own. -/
theorem advance_forall (good : ℚ → Prop) (glyphs : ∀ glyph ∈ font.glyphs, good glyph.advance)
    (pairs : ∀ pair ∈ font.pairs, good pair.advance) {character : Char} {glyph : BitmapGlyph ℚ}
    (found : font.glyph character = some glyph) (next : Option Char) :
    good ((next.bind (font.pairAdvance character)).getD glyph.advance) := by
  cases paired : next.bind (font.pairAdvance character) with
  | none => exact glyphs glyph (List.mem_of_find?_eq_some found)
  | some advance =>
    obtain ⟨right, _, found⟩ := Option.bind_eq_some_iff.mp paired
    obtain ⟨pair, member, rfl⟩ := Option.map_eq_some_iff.mp found
    exact pairs pair (List.mem_of_find?_eq_some member)

theorem layoutGlyphs_forall (good : ℚ → Prop) (glyphs : ∀ glyph ∈ font.glyphs, good glyph.advance)
    (pairs : ∀ pair ∈ font.pairs, good pair.advance) (text : List Char) {before after : Vec (SourceGlyph ℚ)}
    (all : ∀ source ∈ before.items, good source.advance) (collected : layoutGlyphs font text before = some after) :
    ∀ source ∈ after.items, good source.advance := by
  induction text generalizing before with
  | nil =>
    cases collected
    exact all
  | cons character chars ih =>
    cases found : font.glyph character with
    | none => exact ih all (by simpa only [layoutGlyphs, found] using collected)
    | some glyph =>
      simp only [layoutGlyphs, found] at collected
      obtain ⟨longer, pushed, rest⟩ := Option.bind_eq_some_iff.mp collected
      refine ih ?_ rest
      rw [Heapless.extend_items pushed]
      exact List.forall_mem_append.mpr
        ⟨all, List.forall_mem_singleton.mpr (advance_forall good glyphs pairs found chars.head?)⟩

/-- The supported characters become glyphs, unless there are too many. -/
theorem layoutGlyphs_spec (positive : font.Positive) (text : List Char) (before : Vec (SourceGlyph ℚ))
    (moving : ∀ source ∈ before.items, 0 < source.advance) :
    if before.items.length + (font.supported text).length ≤ maxLayoutGlyphs then
      ∃ glyphs, layoutGlyphs font text before = some glyphs ∧
        glyphs.items.map SourceGlyph.character =
          before.items.map SourceGlyph.character ++ font.supported text ∧
        ∀ source ∈ glyphs.items, 0 < source.advance
    else layoutGlyphs font text before = none := by
  induction text generalizing before with
  | nil =>
    have fits := HeaplessVec.length_le before
    simpa [BitmapFont.supported, fits, layoutGlyphs] using moving
  | cons character chars ih =>
    cases found : font.glyph character with
    | none =>
      have same : font.supported (character :: chars) = font.supported chars := by
        simp [BitmapFont.supported, found]
      rw [same]
      simpa only [layoutGlyphs, found] using ih before moving
    | some glyph =>
      have more : font.supported (character :: chars) = character :: font.supported chars := by
        simp [BitmapFont.supported, found]
      rw [more]
      by_cases room : before.items.length < maxLayoutGlyphs
      · let source : SourceGlyph ℚ :=
          { character := character
            glyph := glyph
            advance := (chars.head?.bind (font.pairAdvance character)).getD glyph.advance }
        have moves : 0 < source.advance := advance_forall (0 < ·) positive.glyphs positive.pairs found chars.head?
        obtain ⟨longer, pushed, items⟩ := HeaplessVec.push_room source room
        have step : layoutGlyphs font (character :: chars) before = layoutGlyphs font chars longer := by
          simpa [layoutGlyphs, found] using congrArg (·.bind (layoutGlyphs font chars)) pushed
        have next := ih longer (by
          rw [items]
          exact List.forall_mem_append.mpr ⟨moving, by simpa using moves⟩)
        rw [step]
        rw [items] at next
        simpa [Nat.add_assoc, Nat.add_comm 1] using next
      · have full : before.items.length = maxLayoutGlyphs :=
          Nat.le_antisymm (HeaplessVec.length_le before) (Nat.le_of_not_lt room)
        rw [if_neg (by rw [full, List.length_cons]; omega)]
        simp [layoutGlyphs, found, HeaplessVec.push_full _ full]

theorem layoutGlyphs_characters (positive : font.Positive) {text : List Char} {glyphs : Vec (SourceGlyph ℚ)}
    (collected : layoutGlyphs font text .empty = some glyphs) :
    glyphs.items.map SourceGlyph.character = font.supported text := by
  have spec := layoutGlyphs_spec positive text .empty (by simp)
  split at spec
  case isFalse => cases collected.symm.trans spec
  case isTrue =>
    obtain ⟨_, succeeds, characters, _⟩ := spec
    cases collected.symm.trans succeeds
    simpa using characters

/-! ## Words -/

/-- A word of the glyphs: as wide as what it holds, and if blank without ink. -/
structure IsWord (glyphs : List (SourceGlyph ℚ)) (word : Word ℚ) : Prop where
  forward : word.start < word.stop
  inside : word.stop ≤ glyphs.length
  width : word.width = advances (slice glyphs word.start word.stop)
  blank : word.blank = true → ∀ index, word.start ≤ index → index < word.stop → ¬ Ink glyphs index

/-- Words from `start` to the end of the glyphs, one after the other. -/
def WordsFrom (glyphs : List (SourceGlyph ℚ)) : ℕ → List (Word ℚ) → Prop
  | start, [] => start = glyphs.length
  | start, word :: words => word.start = start ∧ IsWord glyphs word ∧ WordsFrom glyphs word.stop words

/-- A blank word is the space at its start. -/
theorem wordAt_blank {start index : ℕ} (inside : start < glyphs.length)
    (blank : (wordAt glyphs start inside).blank = true) (lower : start ≤ index)
    (upper : index < (wordAt glyphs start inside).stop) : ¬ Ink glyphs index := by
  have space : (glyphs[start].character == ' ') = true := blank
  have short : (wordAt glyphs start inside).stop = start + 1 := by simp [wordAt, space]
  rintro ⟨glyph, found, notSpace⟩
  obtain rfl : index = start := by omega
  rw [List.getElem?_eq_getElem inside] at found
  cases found
  simp [notSpace] at space

/-- The words partition the glyphs, and there is room for all of them. -/
theorem layoutWords_spec (few : glyphs.length ≤ maxLayoutGlyphs) (start : ℕ) (before : Vec (Word ℚ))
    (inside : start ≤ glyphs.length) (room : before.items.length ≤ start) :
    ∃ words new, layoutWords glyphs start before = some words ∧ words.items = before.items ++ new ∧
      WordsFrom glyphs start new := by
  induction remaining : glyphs.length - start using Nat.strong_induction_on generalizing start before with
  | _ remaining ih =>
    unfold layoutWords
    split
    case isFalse outside => exact ⟨before, [], rfl, by simp, by simp only [WordsFrom]; omega⟩
    case isTrue more =>
      obtain ⟨forward, bounded⟩ := wordAt_bounds more
      obtain ⟨longer, pushed, items⟩ := HeaplessVec.push_room (wordAt glyphs start more)
        (show before.items.length < maxLayoutGlyphs by omega)
      obtain ⟨words, new, succeeds, content, rest⟩ := ih _ (by omega) (wordAt glyphs start more).stop
        longer bounded (by rw [items]; simp; omega) rfl
      refine ⟨words, wordAt glyphs start more :: new, ?_, by simp [content, items], rfl,
        ⟨forward, bounded, rfl, fun blank index => wordAt_blank more blank⟩, rest⟩
      rw [pushed]
      exact succeeds

/-! ## Widths -/

theorem advances_eq_sum (glyphs : List (SourceGlyph ℚ)) :
    advances glyphs = (glyphs.map SourceGlyph.advance).sum := by
  have general : ∀ width : ℚ, glyphs.foldl (fun width glyph => width + glyph.advance) width =
      width + (glyphs.map SourceGlyph.advance).sum := by
    induction glyphs with
    | nil => simp
    | cons glyph rest ih =>
      intro width
      rw [List.foldl_cons, ih, List.map_cons, List.sum_cons, add_assoc]
  rw [advances, general, zero_add]

theorem advances_nonneg (moving : ∀ source ∈ glyphs, 0 < source.advance) : 0 ≤ advances glyphs := by
  rw [advances_eq_sum]
  refine List.sum_nonneg ?_
  intro advance member
  obtain ⟨source, inside, rfl⟩ := List.mem_map.mp member
  exact (moving source inside).le

theorem advances_pos (moving : ∀ source ∈ glyphs, 0 < source.advance) (filled : glyphs ≠ []) :
    0 < advances glyphs := by
  cases glyphs with
  | nil => exact absurd rfl filled
  | cons glyph rest =>
    have first := moving glyph List.mem_cons_self
    have others := advances_nonneg fun source member => moving source (List.mem_cons_of_mem _ member)
    rw [advances_eq_sum] at others ⊢
    rw [List.map_cons, List.sum_cons]
    linarith

theorem slice_moving {start stop : ℕ} (moving : ∀ source ∈ glyphs, 0 < source.advance) :
    ∀ source ∈ slice glyphs start stop, 0 < source.advance := fun source member =>
  moving source (List.mem_of_mem_drop (List.mem_of_mem_take member))

/-! ## Lines -/

/-- The invariant of the wrapping loop, with the glyphs before `cursor` taken:
closed lines cover the ink before the open line, which has a width if it holds
ink, and holds something if it has a width. -/
structure Wrap.Open (glyphs : List (SourceGlyph ℚ)) (cursor : ℕ) (wrap : Wrap ℚ) : Prop where
  covers : Covers Line.range (Ink glyphs) wrap.lines.items wrap.rangeStart
  reached : wrap.rangeStart ≤ cursor
  inked : ∀ index, wrap.rangeStart ≤ index → index < cursor → Ink glyphs index → 0 < wrap.rangeWidth
  filled : 0 < wrap.rangeWidth → wrap.rangeStart < cursor
  nonneg : 0 ≤ wrap.rangeWidth

variable {wrap : Wrap ℚ} {cursor start stop : ℕ}

/-- Closing a line that holds something succeeds: lines do not run out. -/
theorem Wrap.Open.close (open_ : wrap.Open glyphs cursor) (few : glyphs.length ≤ maxLayoutGlyphs)
    (filled : wrap.rangeStart < stop) (inside : stop ≤ glyphs.length) (width : ℚ) :
    ∃ lines, wrap.close stop width = some { wrap with lines := lines } ∧
      lines.items = wrap.lines.items ++ [{ start := wrap.rangeStart, stop := stop, width := width }] := by
  have count := open_.covers.length_le
  obtain ⟨lines, pushed, items⟩ := HeaplessVec.push_room
    ({ start := wrap.rangeStart, stop := stop, width := width } : Line ℚ)
    (show wrap.lines.items.length < maxLayoutGlyphs by omega)
  exact ⟨lines, by simp [Wrap.close, pushed], items⟩

/-- A glyph of a word that is too wide goes on the open line, or opens the next. -/
theorem wrapGlyph_open (maxWidth : ℚ) (open_ : wrap.Open glyphs cursor)
    (few : glyphs.length ≤ maxLayoutGlyphs)
    (inside : cursor < glyphs.length) {source : SourceGlyph ℚ} (moves : 0 < source.advance) :
    ∃ next, wrapGlyph maxWidth wrap (source, cursor) = some next ∧ next.Open glyphs (cursor + 1) := by
  by_cases fits : wrap.rangeWidth + source.advance ≤ maxWidth
  · have wider : 0 < wrap.rangeWidth + source.advance := by linarith [open_.nonneg]
    refine ⟨{ wrap with rangeWidth := wrap.rangeWidth + source.advance }, by simp [wrapGlyph, fits], ?_⟩
    exact ⟨open_.covers, Nat.le_succ_of_le open_.reached, fun _ _ _ _ => wider,
      fun _ => Nat.lt_succ_of_le open_.reached, wider.le⟩
  · by_cases holds : wrap.rangeStart < cursor
    · obtain ⟨lines, closed, items⟩ := open_.close few holds inside.le wrap.rangeWidth
      refine ⟨{ wrap with lines := lines, rangeStart := cursor, rangeWidth := source.advance }, ?_, ?_⟩
      · simp [wrapGlyph, fits, holds, closed]
      · refine ⟨?_, Nat.le_succ cursor, fun _ _ _ _ => moves, fun _ => Nat.lt_succ_self cursor, moves.le⟩
        rw [items]
        exact open_.covers.push rfl holds le_rfl (fun index lower upper => absurd upper (not_lt.mpr lower))
    · have here : wrap.rangeStart = cursor := Nat.le_antisymm open_.reached (Nat.le_of_not_lt holds)
      refine ⟨{ wrap with rangeStart := cursor, rangeWidth := source.advance }, ?_, ?_⟩
      · simp [wrapGlyph, fits, holds]
      · refine ⟨?_, Nat.le_succ cursor, fun _ _ _ _ => moves, fun _ => Nat.lt_succ_self cursor, moves.le⟩
        rw [← here]
        exact open_.covers

/-- The inner loop: all glyphs of a word that is too wide. -/
theorem wrapGlyphs_open (few : glyphs.length ≤ maxLayoutGlyphs) (sources : List (SourceGlyph ℚ))
    (moving : ∀ source ∈ sources, 0 < source.advance) (inside : cursor + sources.length ≤ glyphs.length)
    (open_ : wrap.Open glyphs cursor) :
    ∃ next, (sources.zipIdx cursor).foldlM (wrapGlyph maxWidth) wrap = some next ∧
      next.Open glyphs (cursor + sources.length) := by
  induction sources generalizing wrap cursor with
  | nil => exact ⟨wrap, rfl, open_⟩
  | cons source rest ih =>
    rw [List.length_cons] at inside
    obtain ⟨moves, others⟩ := List.forall_mem_cons.mp moving
    obtain ⟨next, taken, open'⟩ := wrapGlyph_open maxWidth open_ few (by omega) moves
    obtain ⟨final, taken', open''⟩ := ih others (by omega) open'
    refine ⟨final, ?_, by rw [List.length_cons]; simpa [Nat.add_assoc, Nat.add_comm 1] using open''⟩
    rw [List.zipIdx_cons, List.foldlM_cons, taken]
    exact taken'

/-- What the loop knows of the word before the one at `start`. -/
def Follows (glyphs : List (SourceGlyph ℚ)) (start : ℕ) : Option (Word ℚ) → Prop
  | some previous => previous.start ≤ start ∧
    (previous.blank = true → ∀ index, previous.start ≤ index → index < start → ¬ Ink glyphs index)
  | none => True

theorem IsWord.width_pos {word : Word ℚ} (isWord : IsWord glyphs word)
    (moving : ∀ source ∈ glyphs, 0 < source.advance) : 0 < word.width := by
  rw [isWord.width]
  refine advances_pos (slice_moving moving) ?_
  intro nothing
  have length := slice_length word.start isWord.inside
  rw [nothing, List.length_nil] at length
  have := isWord.forward
  omega

/-- A word with a width opens a line of its own; so does a blank one, without
its width. -/
theorem IsWord.open_line {word : Word ℚ} (isWord : IsWord glyphs word)
    (moving : ∀ source ∈ glyphs, 0 < source.advance)
    (covers : Covers Line.range (Ink glyphs) wrap.lines.items word.start) :
    { wrap with
      rangeStart := word.start
      rangeWidth := if word.blank then 0 else word.width : Wrap ℚ }.Open glyphs word.stop := by
  have wide := isWord.width_pos moving
  cases blank : word.blank with
  | true => exact ⟨covers, isWord.forward.le, fun index lower upper ink =>
      absurd ink (isWord.blank blank index lower upper), fun _ => isWord.forward, le_rfl⟩
  | false => exact ⟨covers, isWord.forward.le, fun _ _ _ _ => wide, fun _ => isWord.forward, wide.le⟩

/-- Before a word too wide for a line, whatever holds something is closed. -/
theorem closeBefore_open {word : Word ℚ} (open_ : wrap.Open glyphs word.start)
    (few : glyphs.length ≤ maxLayoutGlyphs) (isWord : IsWord glyphs word) :
    ∃ next, wrap.closeBefore word = some next ∧ next.Open glyphs word.start := by
  unfold Wrap.closeBefore
  split
  case isFalse => exact ⟨wrap, rfl, open_⟩
  case isTrue wide =>
    have holds := open_.filled wide
    obtain ⟨lines, closed, items⟩ := open_.close few holds
      (isWord.forward.le.trans isWord.inside) wrap.rangeWidth
    refine ⟨{ wrap with lines := lines, rangeStart := word.start, rangeWidth := 0 }, by simp [closed], ?_⟩
    refine ⟨?_, le_rfl, fun index lower upper => absurd upper (not_lt.mpr lower),
      fun positive => absurd positive (lt_irrefl 0), le_rfl⟩
    rw [items]
    exact open_.covers.push rfl holds le_rfl fun index lower upper => absurd upper (not_lt.mpr lower)

/-- The open line ends at the word, or at a blank with no ink behind it. -/
theorem lineEnd_gap {previous : Option (Word ℚ)} {word : Word ℚ} (wrap : Wrap ℚ)
    (follows : Follows glyphs word.start previous) :
    (wrap.lineEnd previous word).1 ≤ word.start ∧
      ∀ index, (wrap.lineEnd previous word).1 ≤ index → index < word.start → ¬ Ink glyphs index := by
  have here : word.start ≤ word.start ∧
      ∀ index, word.start ≤ index → index < word.start → ¬ Ink glyphs index :=
    ⟨le_rfl, fun index lower upper => absurd upper (not_lt.mpr lower)⟩
  cases previous with
  | none => exact here
  | some previous =>
    cases blank : previous.blank with
    | true => simpa [Wrap.lineEnd, blank] using And.intro follows.1 (follows.2 blank)
    | false => simpa [Wrap.lineEnd, blank] using here

/-- Before a word for the next line, the open line is closed at the blank in
front of the word; what it leaves out is that blank. -/
theorem closeAtBlank_covers {previous : Option (Word ℚ)} {word : Word ℚ}
    (open_ : wrap.Open glyphs word.start) (few : glyphs.length ≤ maxLayoutGlyphs)
    (isWord : IsWord glyphs word) (follows : Follows glyphs word.start previous) :
    ∃ next, wrap.closeAtBlank previous word = some next ∧
      Covers Line.range (Ink glyphs) next.lines.items word.start := by
  have inside := isWord.forward.le.trans isWord.inside
  unfold Wrap.closeAtBlank
  split
  case isFalse narrow =>
    exact ⟨wrap, rfl, open_.covers.skip open_.reached fun index lower upper ink =>
      narrow (open_.inked index lower upper ink)⟩
  case isTrue wide =>
    have gap := lineEnd_gap wrap follows
    dsimp only
    split
    case isFalse empty =>
      exact ⟨wrap, rfl, open_.covers.skip open_.reached fun index lower upper =>
        gap.2 index ((Nat.le_of_not_lt empty).trans lower) upper⟩
    case isTrue holds =>
      obtain ⟨lines, closed, items⟩ := open_.close few holds (gap.1.trans inside)
        (wrap.lineEnd previous word).2
      refine ⟨_, closed, ?_⟩
      rw [items]
      exact open_.covers.push rfl holds gap.1 gap.2

/-- Step lemma: one word more. -/
theorem wrapWord_open {previous : Option (Word ℚ)} {word : Word ℚ} (maxWidth : ℚ)
    (open_ : wrap.Open glyphs word.start) (few : glyphs.length ≤ maxLayoutGlyphs)
    (moving : ∀ source ∈ glyphs, 0 < source.advance) (isWord : IsWord glyphs word)
    (follows : Follows glyphs word.start previous) :
    ∃ next, wrapWord glyphs maxWidth previous wrap word = some next ∧ next.Open glyphs word.stop := by
  have forward := isWord.forward.le
  unfold wrapWord
  split
  case isTrue fits =>
    -- The word goes on the open line.
    have wide := isWord.width_pos moving
    have wider : 0 < wrap.rangeWidth + word.width := by linarith [open_.nonneg]
    refine ⟨_, rfl, open_.covers, open_.reached.trans forward, fun _ _ _ _ => wider, fun _ => ?_, wider.le⟩
    exact open_.reached.trans_lt isWord.forward
  case isFalse =>
    split
    case isTrue tooWide =>
      obtain ⟨closed, succeeds, open'⟩ := closeBefore_open open_ few isWord
      have length := slice_length word.start isWord.inside
      obtain ⟨next, succeeds', open''⟩ := wrapGlyphs_open few (slice glyphs word.start word.stop)
        (slice_moving moving) (by rw [length]; have := isWord.inside; omega) open'
      rw [length, Nat.add_sub_cancel' forward] at open''
      exact ⟨next, by rw [succeeds]; exact succeeds', open''⟩
    case isFalse =>
      obtain ⟨closed, succeeds, covers⟩ := closeAtBlank_covers open_ few isWord follows
      exact ⟨_, by rw [succeeds]; rfl, isWord.open_line moving covers⟩

/-- Run lemma: all words. -/
theorem wrapWords_open (few : glyphs.length ≤ maxLayoutGlyphs)
    (moving : ∀ source ∈ glyphs, 0 < source.advance) (maxWidth : ℚ) (words : List (Word ℚ))
    (from_ : WordsFrom glyphs cursor words) {previous : Option (Word ℚ)}
    (follows : Follows glyphs cursor previous) (open_ : wrap.Open glyphs cursor) :
    ∃ next, wrapWords glyphs maxWidth previous wrap words = some next ∧ next.Open glyphs glyphs.length := by
  induction words generalizing wrap cursor previous with
  | nil =>
    obtain rfl : cursor = glyphs.length := from_
    exact ⟨wrap, rfl, open_⟩
  | cons word words ih =>
    obtain ⟨rfl, isWord, rest⟩ := from_
    obtain ⟨next, succeeds, open'⟩ := wrapWord_open maxWidth open_ few moving isWord follows
    have follows' : Follows glyphs word.stop (some word) := ⟨isWord.forward.le, isWord.blank⟩
    obtain ⟨final, succeeds', open''⟩ := ih rest follows' open'
    exact ⟨final, by rw [wrapWords, succeeds]; exact succeeds', open''⟩

/-- Closing what is left covers the whole text. -/
theorem finish_covers (few : glyphs.length ≤ maxLayoutGlyphs) (open_ : wrap.Open glyphs glyphs.length) :
    ∃ final, wrap.finish glyphs = some final ∧
      Covers Line.range (Ink glyphs) final.lines.items glyphs.length := by
  unfold Wrap.finish
  split
  case isTrue left =>
    obtain ⟨lines, closed, items⟩ := open_.close few left.1 le_rfl wrap.rangeWidth
    refine ⟨_, closed, ?_⟩
    rw [items]
    exact open_.covers.push rfl left.1 le_rfl fun index lower upper => absurd upper (not_lt.mpr lower)
  case isFalse nothing =>
    refine ⟨wrap, rfl, open_.covers.skip open_.reached fun index lower upper ink => nothing ?_⟩
    exact ⟨lower.trans_lt upper, open_.inked index lower upper ink⟩

/-- **Word wrapping loses, duplicates and reorders no ink.** With positive
advances and at any width, `layout` fails exactly for texts with more than 64
characters that have a glyph. Otherwise its glyphs are those characters in
order, and its lines are non-empty, increasing and disjoint ranges of them with
every glyph that is not a space in exactly one. -/
theorem layout_keeps_ink (text : List Char) (font : BitmapFont ℚ) (maxWidth : ℚ)
    (positive : font.Positive) :
    (layout text font maxWidth = none ↔ maxLayoutGlyphs < (font.supported text).length) ∧
      ∀ glyphs lines, layout text font maxWidth = some (glyphs, lines) →
        glyphs.items.map SourceGlyph.character = font.supported text ∧
        (∀ line ∈ lines.items, line.start < line.stop ∧ line.stop ≤ glyphs.items.length) ∧
        lines.items.Pairwise (fun first second => first.stop ≤ second.start) ∧
        ∀ index glyph, glyphs.items[index]? = some glyph → glyph.character ≠ ' ' →
          ∃! line, line ∈ lines.items ∧ line.start ≤ index ∧ index < line.stop := by
  have collected := layoutGlyphs_spec positive text .empty (by simp)
  simp only [Heapless.empty_items, List.length_nil, Nat.zero_add, List.map_nil, List.nil_append] at collected
  split at collected
  case isFalse many =>
    have fails : layout text font maxWidth = none := by simp [layout, collected]
    rw [fails]
    exact ⟨by simpa using many, by simp⟩
  case isTrue few =>
    obtain ⟨glyphs, succeeds, characters, moving⟩ := collected
    have room := HeaplessVec.length_le glyphs
    obtain ⟨words, new, cut, items, from_⟩ := layoutWords_spec room 0 .empty (Nat.zero_le _) (by simp)
    rw [Heapless.empty_items, List.nil_append] at items
    have fresh : Wrap.Open glyphs.items 0
        { lines := .empty, rangeStart := 0, rangeWidth := 0, widthBeforeLastBlank := 0 } :=
      ⟨covers_nil, le_rfl, by simp, by simp, le_rfl⟩
    have first : Follows glyphs.items 0 none := trivial
    obtain ⟨wrapped, laid, open_⟩ :=
      wrapWords_open room moving maxWidth words.items (items ▸ from_) first fresh
    obtain ⟨final, closed, covers⟩ := finish_covers room open_
    have result : layout text font maxWidth = some (glyphs, final.lines) := by
      simp [layout, succeeds, cut, laid, closed]
    rw [result]
    refine ⟨by simpa using few, ?_⟩
    rintro _ _ ⟨⟩
    refine ⟨characters, fun line member => ⟨covers.nonempty line member, covers.bounded line member⟩,
      covers.ordered, fun index glyph found notSpace => ?_⟩
    obtain ⟨inside, _⟩ := List.getElem?_eq_some_iff.mp found
    obtain ⟨line, member, contains⟩ := covers.covered index inside ⟨glyph, found, notSpace⟩
    exact ⟨line, ⟨member, contains⟩, fun other both =>
      covers.unique both.1 member both.2 contains⟩

/-- A font of two characters, each five wide. -/
def twoCharacters : BitmapFont ℚ where
  baseline := 10
  glyphs := [' ', 'a'].map fun character =>
    { character := character, advance := 5, bitmaps := fun _ => ⟨0, 0, 0, 0, 0⟩ }
  pairs := []
  glyphs_sorted := by simp
  pairs_sorted := by simp

theorem twoCharacters_positive : twoCharacters.Positive :=
  ⟨by simp [twoCharacters], by simp [twoCharacters]⟩

/-- Two words of two letters on lines with room for three glyphs. -/
theorem two_words_keep_ink :
    (layout "aa aa".toList twoCharacters 15 = none ↔
        maxLayoutGlyphs < (twoCharacters.supported "aa aa".toList).length) ∧
      ∀ glyphs lines, layout "aa aa".toList twoCharacters 15 = some (glyphs, lines) →
        glyphs.items.map SourceGlyph.character = twoCharacters.supported "aa aa".toList ∧
        (∀ line ∈ lines.items, line.start < line.stop ∧ line.stop ≤ glyphs.items.length) ∧
        lines.items.Pairwise (fun first second => first.stop ≤ second.start) ∧
        ∀ index glyph, glyphs.items[index]? = some glyph → glyph.character ≠ ' ' →
          ∃! line, line ∈ lines.items ∧ line.start ≤ index ∧ index < line.stop :=
  layout_keeps_ink "aa aa".toList twoCharacters 15 twoCharacters_positive

example : (layout "aa aa".toList twoCharacters 15).map (fun laid => laid.2.items.map Line.range) =
    some [⟨0, 2⟩, ⟨3, 5⟩] := by
  decide +kernel

end EnergyDisplay.Font

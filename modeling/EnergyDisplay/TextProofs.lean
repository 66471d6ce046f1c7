import EnergyDisplay.ExactFloats
import EnergyDisplay.LayoutProofs
import EnergyDisplay.RendererProofs

/-! No text of the dashboard is lost: every generated font has a glyph for each
character of the repertoire, and laying out at most 64 of them never runs out of
room, whatever the advances add up to. That needs no more of the floats than
that zero is not below zero: a line is closed only where it holds a glyph, since
an open line without one is zero wide. -/
namespace EnergyDisplay.Font

variable {G : Type}

/-! ## Room for the lines -/

section Room

variable {glyphs : List (SourceGlyph G)} {font : BitmapFont G}

/-- Supported characters become glyphs, as long as there is room. -/
theorem layoutGlyphs_supported (text : List Char) (before : Vec (SourceGlyph G))
    (supported : ∀ character ∈ text, (font.glyph character).isSome = true)
    (room : before.items.length + text.length ≤ maxLayoutGlyphs) :
    ∃ glyphs, layoutGlyphs font text before = some glyphs ∧
      glyphs.items.map SourceGlyph.character = before.items.map SourceGlyph.character ++ text := by
  induction text generalizing before with
  | nil => exact ⟨before, rfl, by simp⟩
  | cons character chars ih =>
    obtain ⟨here, others⟩ := List.forall_mem_cons.mp supported
    obtain ⟨glyph, found⟩ := Option.isSome_iff_exists.mp here
    rw [List.length_cons] at room
    let source : SourceGlyph G :=
      { character := character
        glyph := glyph
        advance := (chars.head?.bind (font.pairAdvance character)).getD glyph.advance }
    obtain ⟨longer, pushed, items⟩ := HeaplessVec.push_room source
      (show before.items.length < maxLayoutGlyphs by omega)
    obtain ⟨all, succeeds, characters⟩ :=
        ih longer others (by rw [items, List.length_append, List.length_singleton]; omega)
    refine ⟨all, ?_, ?_⟩
    · simpa [layoutGlyphs, found] using (congrArg (·.bind (layoutGlyphs font chars)) pushed).trans succeeds
    · rw [characters, items]
      simp [source]

/-- Words from `start` to `stop`, none of them empty. -/
def Consecutive (stop : ℕ) : ℕ → List (Word G) → Prop
  | start, [] => start = stop
  | start, word :: words =>
    word.start = start ∧ start < word.stop ∧ word.stop ≤ stop ∧ Consecutive stop word.stop words

theorem layoutWords_consecutive [Zero G] [Add G] (few : glyphs.length ≤ maxLayoutGlyphs) (start : ℕ)
    (before : Vec (Word G))
    (inside : start ≤ glyphs.length) (room : before.items.length ≤ start) :
    ∃ words new, layoutWords glyphs start before = some words ∧ words.items = before.items ++ new ∧
      Consecutive glyphs.length start new := by
  induction remaining : glyphs.length - start using Nat.strong_induction_on generalizing start before with
  | _ remaining ih =>
    unfold layoutWords
    split
    case isFalse outside => exact ⟨before, [], rfl, by simp, by simp only [Consecutive]; omega⟩
    case isTrue more =>
      obtain ⟨forward, bounded⟩ := wordAt_bounds more
      obtain ⟨longer, pushed, items⟩ := HeaplessVec.push_room (wordAt glyphs start more)
        (show before.items.length < maxLayoutGlyphs by omega)
      obtain ⟨words, new, succeeds, content, rest⟩ := ih _ (by omega) (wordAt glyphs start more).stop
        longer bounded (by rw [items]; simp; omega) rfl
      refine ⟨words, wordAt glyphs start more :: new, ?_, by simp [content, items], rfl, forward, bounded, rest⟩
      rw [pushed]
      exact succeeds

variable [Zero G] [LT G] {wrap : Wrap G} {cursor start stop : ℕ} {maxWidth : G}

/-- With the glyphs before `cursor` taken, there are no more lines than glyphs
in front of the open line, and it is zero wide if it holds none. -/
structure Wrap.Roomy (cursor : ℕ) (wrap : Wrap G) : Prop where
  lines : wrap.lines.items.length ≤ wrap.rangeStart
  reached : wrap.rangeStart ≤ cursor
  filled : 0 < wrap.rangeWidth → wrap.rangeStart < cursor

/-- Closing a line that holds a glyph. -/
theorem Wrap.Roomy.close (roomy : wrap.Roomy cursor) (filled : wrap.rangeStart < stop)
    (inside : stop ≤ maxLayoutGlyphs) (width : G) :
    ∃ lines, wrap.close stop width = some { wrap with lines := lines } ∧ lines.items.length ≤ stop := by
  have count := roomy.lines
  obtain ⟨lines, pushed, items⟩ := HeaplessVec.push_room
    ({ start := wrap.rangeStart, stop := stop, width := width } : Line G)
    (show wrap.lines.items.length < maxLayoutGlyphs by omega)
  refine ⟨lines, by simp [Wrap.close, pushed], ?_⟩
  rw [items, List.length_append, List.length_singleton]
  omega

variable [Add G] [LE G] [DecidableLE G]

theorem wrapGlyph_roomy (roomy : wrap.Roomy cursor) (inside : cursor < maxLayoutGlyphs) (source : SourceGlyph G) :
    ∃ next, wrapGlyph maxWidth wrap (source, cursor) = some next ∧ next.Roomy (cursor + 1) := by
  have reached := roomy.reached
  unfold wrapGlyph
  dsimp only
  split
  case isTrue => exact ⟨_, rfl, roomy.lines, by simp only; omega, fun _ => Nat.lt_succ_of_le reached⟩
  case isFalse =>
    split
    case isTrue filled =>
      obtain ⟨lines, closed, count⟩ := roomy.close filled inside.le wrap.rangeWidth
      exact ⟨_, by rw [closed]; rfl, count, Nat.le_succ cursor, fun _ => Nat.lt_succ_self cursor⟩
    case isFalse =>
      exact ⟨_, rfl, roomy.lines.trans reached, Nat.le_succ cursor, fun _ => Nat.lt_succ_self cursor⟩

theorem wrapGlyphs_roomy (sources : List (SourceGlyph G)) (inside : cursor + sources.length ≤ maxLayoutGlyphs)
    (roomy : wrap.Roomy cursor) :
    ∃ next, (sources.zipIdx cursor).foldlM (wrapGlyph maxWidth) wrap = some next ∧
      next.Roomy (cursor + sources.length) := by
  induction sources generalizing wrap cursor with
  | nil => exact ⟨wrap, rfl, roomy⟩
  | cons source rest ih =>
    rw [List.length_cons] at inside
    obtain ⟨next, taken, roomy'⟩ := wrapGlyph_roomy roomy (by omega) source
    obtain ⟨final, taken', roomy''⟩ := ih (by omega) roomy'
    refine ⟨final, ?_, by rw [List.length_cons]; simpa [Nat.add_assoc, Nat.add_comm 1] using roomy''⟩
    rw [List.zipIdx_cons, List.foldlM_cons, taken]
    exact taken'

variable [DecidableLT G]

omit [Add G] [LE G] [DecidableLE G] in
theorem closeBefore_roomy (irrefl : ¬ (0 : G) < 0) {word : Word G} (roomy : wrap.Roomy word.start)
    (inside : word.start ≤ maxLayoutGlyphs) :
    ∃ next, wrap.closeBefore word = some next ∧ next.Roomy word.start := by
  unfold Wrap.closeBefore
  split
  case isTrue wide =>
    obtain ⟨lines, closed, count⟩ := roomy.close (roomy.filled wide) inside wrap.rangeWidth
    exact ⟨_, by rw [closed]; rfl, count, le_rfl, fun positive => absurd positive irrefl⟩
  case isFalse => exact ⟨wrap, rfl, roomy⟩

omit [Add G] [LE G] [DecidableLE G] in
/-- The line that ends before a word ends at the word or at the one before. -/
theorem closeAtBlank_roomy {previous : Option (Word G)} {word : Word G} (roomy : wrap.Roomy word.start)
    (inside : word.start ≤ maxLayoutGlyphs)
    (follows : ∀ before, previous = some before → before.start ≤ word.start) :
    ∃ next, wrap.closeAtBlank previous word = some next ∧ next.lines.items.length ≤ word.start := by
  have count := roomy.lines.trans roomy.reached
  have ends : (wrap.lineEnd previous word).1 ≤ word.start := by
    cases previous with
    | none => exact le_rfl
    | some before =>
      have ordered := follows before rfl
      cases blank : before.blank <;> simp [Wrap.lineEnd, blank, ordered]
  unfold Wrap.closeAtBlank
  split
  case isTrue =>
    dsimp only
    split
    case isTrue filled =>
      obtain ⟨lines, closed, count'⟩ := roomy.close filled (ends.trans inside) (wrap.lineEnd previous word).2
      exact ⟨_, closed, count'.trans ends⟩
    case isFalse => exact ⟨wrap, rfl, count⟩
  case isFalse => exact ⟨wrap, rfl, count⟩

/-- Step lemma: one word more. -/
theorem wrapWord_roomy (irrefl : ¬ (0 : G) < 0) (few : glyphs.length ≤ maxLayoutGlyphs)
    {previous : Option (Word G)} {word : Word G} (roomy : wrap.Roomy word.start) (forward : word.start < word.stop)
    (inside : word.stop ≤ glyphs.length)
    (follows : ∀ before, previous = some before → before.start ≤ word.start) :
    ∃ next, wrapWord glyphs maxWidth previous wrap word = some next ∧ next.Roomy word.stop := by
  have starts : word.start ≤ maxLayoutGlyphs := by omega
  unfold wrapWord
  split
  case isTrue =>
    have reached := roomy.reached
    exact ⟨_, rfl, roomy.lines, reached.trans forward.le, fun _ => reached.trans_lt forward⟩
  case isFalse =>
    split
    case isTrue =>
      obtain ⟨closed, succeeds, roomy'⟩ := closeBefore_roomy irrefl roomy starts
      have length := slice_length word.start inside
      obtain ⟨next, succeeds', roomy''⟩ := wrapGlyphs_roomy (slice glyphs word.start word.stop)
        (by rw [length]; omega) roomy'
      rw [length, Nat.add_sub_cancel' forward.le] at roomy''
      exact ⟨next, by rw [succeeds]; exact succeeds', roomy''⟩
    case isFalse =>
      obtain ⟨closed, succeeds, count⟩ := closeAtBlank_roomy roomy starts follows
      exact ⟨_, by rw [succeeds]; rfl, count, forward.le, fun _ => forward⟩

/-- Run lemma: all words. -/
theorem wrapWords_roomy (irrefl : ¬ (0 : G) < 0) (few : glyphs.length ≤ maxLayoutGlyphs) (maxWidth : G)
    (words : List (Word G)) (consecutive : Consecutive glyphs.length cursor words) {previous : Option (Word G)}
    (follows : ∀ before, previous = some before → before.start ≤ cursor) (roomy : wrap.Roomy cursor) :
    ∃ next, wrapWords glyphs maxWidth previous wrap words = some next ∧ next.Roomy glyphs.length := by
  induction words generalizing wrap cursor previous with
  | nil =>
    obtain rfl : cursor = glyphs.length := consecutive
    exact ⟨wrap, rfl, roomy⟩
  | cons word words ih =>
    obtain ⟨rfl, forward, inside, rest⟩ := consecutive
    obtain ⟨next, succeeds, roomy'⟩ := wrapWord_roomy irrefl few roomy forward inside follows
    have follows' : ∀ before, some word = some before → before.start ≤ word.stop := by
      rintro _ ⟨⟩
      exact forward.le
    obtain ⟨final, succeeds', roomy''⟩ := ih rest follows' roomy'
    exact ⟨final, by rw [wrapWords, succeeds]; exact succeeds', roomy''⟩

/-- A text of at most 64 supported characters is laid out, each as its glyph. -/
theorem layout_supported (irrefl : ¬ (0 : G) < 0) (font : BitmapFont G) (maxWidth : G) {text : List Char}
    (supported : ∀ character ∈ text, (font.glyph character).isSome = true) (short : text.length ≤ maxLayoutGlyphs) :
    ∃ glyphs lines, layout text font maxWidth = some (glyphs, lines) ∧
      glyphs.items.map SourceGlyph.character = text := by
  obtain ⟨glyphs, collected, characters⟩ := layoutGlyphs_supported text .empty supported (by simpa using short)
  have few := HeaplessVec.length_le glyphs
  obtain ⟨words, new, cut, items, consecutive⟩ := layoutWords_consecutive few 0 .empty (Nat.zero_le _) (by simp)
  rw [Heapless.empty_items, List.nil_append] at items
  have fresh : Wrap.Roomy 0
      ({ lines := .empty, rangeStart := 0, rangeWidth := 0, widthBeforeLastBlank := 0 } : Wrap G) :=
    ⟨le_rfl, le_rfl, fun positive => absurd positive irrefl⟩
  have first : ∀ before, (none : Option (Word G)) = some before → before.start ≤ 0 := by simp
  obtain ⟨wrapped, laid, roomy⟩ := wrapWords_roomy irrefl few maxWidth words.items (items ▸ consecutive) first fresh
  obtain ⟨final, finished⟩ : ∃ final, wrapped.finish glyphs.items = some final := by
    unfold Wrap.finish
    split
    case isTrue left =>
      obtain ⟨lines, closed, _⟩ := roomy.close left.1 few wrapped.rangeWidth
      exact ⟨_, closed⟩
    case isFalse => exact ⟨wrapped, rfl⟩
  exact ⟨glyphs, final.lines, by simp [layout, collected, cut, laid, finished], by simpa using characters⟩

end Room

/-! ## Generated fonts -/

section Fonts

variable [Zero G] [BEq G] {system : FontSystem G} {size : G}

theorem generateFont_glyph {characters : List Char} {distinct : characters.Nodup} {kerned : Bool}
    {bitmapData data : List UInt8} {table : FontTable G}
    (generated : generateFont system size characters distinct kerned bitmapData = some (table, data))
    {character : Char} (known : character ∈ characters) :
    ∃ glyph ∈ table.glyphs, glyph.character = character := by
  obtain ⟨glyphs, collected, _, glyphs_eq, _⟩ := generateFont_eq_some generated
  have all := generateGlyphs_characters collected
  have member : character ∈ glyphs.map (·.2.character) := by
    rw [all]
    exact (List.mem_insertionSort (· ≤ ·)).mpr known
  obtain ⟨glyph, inside, same⟩ := List.mem_map.mp member
  rw [glyphs_eq]
  exact ⟨glyph.2, List.mem_map_of_mem inside, same⟩

/-- There is a font for each size, and every font has the whole repertoire. -/
theorem generateTextFonts_spec {sizes : List G} {bitmapData data : List UInt8} {fonts : List (SizedFont G)}
    (generated : generateTextFonts system sizes bitmapData = some (fonts, data)) :
    (∀ size ∈ sizes, ∃ font ∈ fonts, font.sizeBits = system.toBits size) ∧
      ∀ font ∈ fonts, ∀ character ∈ textChars, (font.glyph character).isSome = true := by
  induction sizes generalizing bitmapData data fonts with
  | nil =>
    cases generated
    simp
  | cons size sizes ih =>
    simp only [generateTextFonts, Option.bind_eq_bind, Option.bind_eq_some_iff] at generated
    obtain ⟨⟨table, more⟩, first, baseline, _, ⟨others, rest⟩, remaining, result⟩ := generated
    cases result
    obtain ⟨sized, supported⟩ := ih remaining
    constructor
    · refine List.forall_mem_cons.mpr ⟨⟨_, List.mem_cons_self, rfl⟩, fun size member => ?_⟩
      obtain ⟨font, inside, same⟩ := sized size member
      exact ⟨font, List.mem_cons_of_mem _ inside, same⟩
    · refine List.forall_mem_cons.mpr ⟨fun character known => ?_, supported⟩
      obtain ⟨glyph, inside, same⟩ := generateFont_glyph first known
      exact List.find?_isSome.mpr ⟨glyph, inside, by simpa using same⟩

variable [IntCast G] [Add G] [LE G] [LT G] [DecidableLE G] [DecidableLT G]

/-- A text of the repertoire in a generated size is laid out whole. -/
theorem layoutText_whole (irrefl : ¬ (0 : G) < 0) {fonts : List (SizedFont G)}
    (built : textFonts system = some fonts)
    {text : List Char} (known : text ⊆ textChars) (short : text.length ≤ maxLayoutGlyphs)
    (sized : size ∈ (textSizes : List G)) (width : ℕ) :
    ∃ glyphs lines, layoutText system.toBits fonts text width size = some (glyphs, lines) ∧
      glyphs.items.map SourceGlyph.character = text := by
  obtain ⟨⟨fonts, data⟩, generated, rfl⟩ := Option.map_eq_some_iff.mp built
  obtain ⟨sizes, supported⟩ := generateTextFonts_spec generated
  obtain ⟨font, inside, same⟩ := sizes size sized
  have exists_ : (fonts.find? fun font => font.sizeBits == system.toBits size).isSome = true :=
    List.find?_isSome.mpr ⟨font, inside, by simpa using same⟩
  obtain ⟨found, finds⟩ := Option.isSome_iff_exists.mp exists_
  obtain ⟨glyphs, lines, laid, characters⟩ := layout_supported irrefl found.toBitmapFont ((width : Int) : G)
    (fun character member => supported found (List.mem_of_find?_eq_some finds) character (known member)) short
  exact ⟨glyphs, lines, by simp [layoutText, finds, laid], characters⟩

end Fonts

/-! ## A font without ink -/

/-- Every character is half as wide as it is high, and no pair is kerned. The
bits of a whole size are those of `f32::to_bits`. -/
def monospaced : FontSystem ℚ where
  shape text size := text.map fun character =>
    { fontId := 0, glyphId := character.toNat, fontWeight := 900, advance := size / 2, xOffset := 0, yOffset := 0 }
  image _ _ _ := some blank
  lineY _ size := some ⌊size⌋
  toBits size :=
    let whole := size.num.toNat
    UInt32.ofNat ((127 + whole.log2) * 2 ^ 23 + (whole - 2 ^ whole.log2) * 2 ^ (23 - whole.log2))

theorem monospaced_glyph (size : ℚ) (character : Char) :
    ∃ glyph, generateGlyph monospaced size character [] = some (glyph, []) := by
  obtain ⟨bitmap, threshold⟩ : ∃ bitmap, thresholdBitmap blank [] = some (bitmap, []) := ⟨⟨0, 0, 0, 0, 0⟩, rfl⟩
  simp [generateGlyph, quarterBitmaps, monospaced, threshold]

theorem monospaced_glyphs (size : ℚ) (characters : List Char) :
    ∃ glyphs, generateGlyphs monospaced size characters [] = some (glyphs, []) := by
  induction characters with
  | nil => exact ⟨[], rfl⟩
  | cons character rest ih =>
    obtain ⟨glyphs, generated⟩ := ih
    obtain ⟨glyph, first⟩ := monospaced_glyph size character
    simp [generateGlyphs, first, generated]

theorem monospaced_fonts : ∃ fonts, textFonts monospaced = some fonts := by
  have all (sizes : List ℚ) : ∃ fonts, generateTextFonts monospaced sizes [] = some (fonts, []) := by
    induction sizes with
    | nil => exact ⟨[], rfl⟩
    | cons size sizes ih =>
      obtain ⟨fonts, rest⟩ := ih
      obtain ⟨glyphs, generated⟩ := monospaced_glyphs size (textChars.insertionSort (· ≤ ·))
      have table : ∃ table, generateFont monospaced size textChars textChars_nodup true [] = some (table, []) := by
        unfold generateFont
        split
        case h_1 none_ => cases none_.symm.trans generated
        case h_2 some_ =>
          cases some_.symm.trans generated
          exact ⟨_, rfl⟩
      obtain ⟨table, first⟩ := table
      have line : monospaced.lineY "0".toList size = some ⌊size⌋ := rfl
      exact ⟨_, by simp only [generateTextFonts, first, line, rest, Option.bind_eq_bind, Option.bind_some]; rfl⟩
  obtain ⟨fonts, generated⟩ := all textSizes
  exact ⟨fonts, by rw [textFonts, generated]; rfl⟩

end EnergyDisplay.Font

namespace EnergyDisplay.Renderer

open Fallible Font

variable {F G : Type} [Zero F] [Add F] [Mul F] [Div F] [IntCast F] [LT F] [DecidableLT F] [AsInt F] [FloatCore F]
  [FloatText F] [Zero G] [Add G] [Mul G] [Div G] [IntCast G] [BEq G] [LE G] [LT G] [DecidableLE G] [DecidableLT G]
  [AsInt G] [AsF32 F G]

/-- **No text of the dashboard is lost.** Whatever a status holds and whatever
the time is, and also where the rendering panics or a loop does not end: each
text that is drawn has a font of its size, is laid out, and becomes the glyphs
of exactly its characters. -/
theorem every_text_is_shown (system : FontSystem G) (fonts : List (SizedFont G))
    (built : textFonts system = some fonts)
    (irrefl : ¬ (0 : G) < 0) (execution : Execution) (split : Bool) (status : EnergyStatus F)
    (now : Option LocalDateTime) (text : List Char) (bounds : Rectangle) (color : BinaryColor) (fontSize : G)
    (alignment : Alignment)
    (drawn : .drawn (.text text bounds color fontSize alignment) ∈ (render execution split status now []).2) :
    (∃ font ∈ fonts, font.sizeBits = system.toBits fontSize) ∧
      ∃ glyphs lines, layoutText system.toBits fonts text bounds.size.width fontSize = some (glyphs, lines) ∧
        glyphs.items.map SourceGlyph.character = text := by
  let event : Event G → Prop
    | .drawn drawing => drawing.Printable
    | .overflowed _ => True
  have prints : ∀ drawing : Drawing G, drawing.Printable → event (.drawn drawing) := fun _ printable => printable
  have all : Emits event (fun _ => True) (render execution split status now) := by
    refine render_emits prints (renderGraph_emits prints ?_ fun hour => ?_) (emits_arithmetic trivial trivial)
    · have counted (value : Int) :
          Emits event (fun _ => True) (arithmetic execution .guide .i64 value : Draw G Int) :=
        emits_arithmetic trivial trivial
      exact Emits.bind (guides_emits counted trivial (fun _ => drawDottedLine_emits prints) _ _) fun _ =>
        guides_emits counted trivial (fun _ => drawDottedLine_emits prints) _ _
    · exact drawHour_emits prints (fun _ => emits_arithmetic trivial trivial)
          fun _ => emits_arithmetic trivial trivial
  obtain ⟨known, short, sized⟩ := all.all _ drawn
  refine ⟨?_, layoutText_whole irrefl built known short sized _⟩
  obtain ⟨⟨_, data⟩, generated, rfl⟩ := Option.map_eq_some_iff.mp built
  exact (generateTextFonts_spec generated).1 fontSize sized

/-- The dashboard before anything has come in, with what it says of the time. -/
theorem first_screen_is_shown :
    ∃ fonts, textFonts monospaced = some fonts ∧
      (∀ text bounds color fontSize alignment,
        .drawn (.text text bounds color fontSize alignment) ∈
          (render ⟨true, 1⟩ true (.default : EnergyStatus ℚ) none ([] : List (Event ℚ))).2 →
        (∃ font ∈ fonts, font.sizeBits = monospaced.toBits fontSize) ∧
          ∃ glyphs lines,
            layoutText monospaced.toBits fonts text bounds.size.width fontSize = some (glyphs, lines) ∧
            glyphs.items.map SourceGlyph.character = text) ∧
      .drawn (.text "Waiting for time".toList (rectangle 8 199 384 25) black fontSizeStatus .left) ∈
        (render ⟨true, 1⟩ true (.default : EnergyStatus ℚ) none ([] : List (Event ℚ))).2 ∧
      ∃ glyphs lines,
        layoutText monospaced.toBits fonts "Waiting for time".toList 384 fontSizeStatus = some (glyphs, lines) ∧
        glyphs.items.map SourceGlyph.character = "Waiting for time".toList := by
  obtain ⟨fonts, built⟩ := monospaced_fonts
  have shown := every_text_is_shown monospaced fonts built (lt_irrefl 0) ⟨true, 1⟩ true
    (.default : EnergyStatus ℚ) none
  have drawn : .drawn (.text "Waiting for time".toList (rectangle 8 199 384 25) black fontSizeStatus .left) ∈
      (render ⟨true, 1⟩ true (.default : EnergyStatus ℚ) none ([] : List (Event ℚ))).2 := by
    decide +kernel
  exact ⟨fonts, built, shown, drawn, (shown _ _ _ _ _ drawn).2⟩

end EnergyDisplay.Renderer

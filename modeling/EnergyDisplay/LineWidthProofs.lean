import EnergyDisplay.LayoutProofs
import Mathlib.Data.List.DropRight

/-! The recorded width of a line. Every branch of the wrapping loop keeps the
running width in step with the glyphs of the open line but one: a blank that
comes when the open line is already too wide begins the next line, and is not
counted. -/
namespace EnergyDisplay.Font

variable {font : BitmapFont ℚ} {text : List Char} {maxWidth : ℚ} {glyphs : List (SourceGlyph ℚ)}

/-- The glyphs of a line without the spaces at its end. -/
def trimEnd (glyphs : List (SourceGlyph ℚ)) : List (SourceGlyph ℚ) :=
  glyphs.rdropWhile fun glyph => glyph.character == ' '

/-- The glyphs of a range fit on a line, or are one that fits on none. -/
def Fits (glyphs : List (SourceGlyph ℚ)) (maxWidth : ℚ) (start stop : ℕ) : Prop :=
  advances (trimEnd (slice glyphs start stop)) ≤ maxWidth ∨
    ∃ glyph, slice glyphs start stop = [glyph] ∧ glyph.character ≠ ' ' ∧ maxWidth < glyph.advance

/-- A line is as wide as recorded, and fits. -/
structure Line.Sound (glyphs : List (SourceGlyph ℚ)) (maxWidth : ℚ) (line : Line ℚ) : Prop where
  width : line.width = advances (slice glyphs line.start line.stop)
  fits : Fits glyphs maxWidth line.start line.stop

/-! ## Widths of ranges -/

variable {start middle stop cursor : ℕ}

theorem slice_append (glyphs : List (SourceGlyph ℚ)) (left : start ≤ middle) (right : middle ≤ stop) :
    slice glyphs start middle ++ slice glyphs middle stop = slice glyphs start stop := by
  have sum : stop - start = (middle - start) + (stop - middle) := by omega
  have next : start + (middle - start) = middle := by omega
  rw [slice, slice, slice, sum, List.take_add, List.drop_drop, next]

theorem slice_self (glyphs : List (SourceGlyph ℚ)) (start : ℕ) : slice glyphs start start = [] := by
  simp [slice]

theorem slice_one {source : SourceGlyph ℚ} (found : glyphs[start]? = some source) :
    slice glyphs start (start + 1) = [source] := by
  obtain ⟨inside, rfl⟩ := List.getElem?_eq_some_iff.mp found
  rw [slice, Nat.add_sub_cancel_left, List.drop_eq_getElem_cons inside]
  rfl

theorem advances_append (first second : List (SourceGlyph ℚ)) :
    advances (first ++ second) = advances first + advances second := by
  rw [advances_eq_sum, advances_eq_sum, advances_eq_sum, List.map_append, List.sum_append]

theorem advances_slice (glyphs : List (SourceGlyph ℚ)) (left : start ≤ middle) (right : middle ≤ stop) :
    advances (slice glyphs start stop) =
      advances (slice glyphs start middle) + advances (slice glyphs middle stop) := by
  rw [← slice_append glyphs left right, advances_append]

theorem advances_slice_pos (moving : ∀ source ∈ glyphs, 0 < source.advance) (some_ : start < stop)
    (inside : stop ≤ glyphs.length) : 0 < advances (slice glyphs start stop) := by
  refine advances_pos (slice_moving moving) ?_
  rw [← List.length_pos_iff, slice_length start inside]
  omega

theorem advances_trimEnd (moving : ∀ source ∈ glyphs, 0 < source.advance) :
    advances (trimEnd glyphs) ≤ advances glyphs := by
  obtain ⟨spaces, split⟩ : trimEnd glyphs <+: glyphs := List.rdropWhile_prefix _ _
  have rest : 0 ≤ advances spaces := advances_nonneg fun source member =>
    moving source (split ▸ List.mem_append_right _ member)
  have whole := congrArg advances split
  rw [advances_append] at whole
  linarith

/-- A range that is narrow as a whole fits. -/
theorem fits_of_le (moving : ∀ source ∈ glyphs, 0 < source.advance)
    (narrow : advances (slice glyphs start stop) ≤ maxWidth) : Fits glyphs maxWidth start stop :=
  Or.inl ((advances_trimEnd (slice_moving moving)).trans narrow)

/-- Spaces at its end do not make a line wider. -/
theorem fits_spaces (left : start ≤ middle) (right : middle ≤ stop)
    (spaces : ∀ source ∈ slice glyphs middle stop, source.character = ' ')
    (narrow : advances (trimEnd (slice glyphs start middle)) ≤ maxWidth) : Fits glyphs maxWidth start stop := by
  refine Or.inl ?_
  have trimmed : trimEnd (slice glyphs start stop) = trimEnd (slice glyphs start middle) := by
    rw [← slice_append glyphs left right, trimEnd, List.rdropWhile, List.reverse_append,
      List.dropWhile_append_of_pos (by simpa using spaces)]
    rfl
  rwa [trimmed]

/-! ## What a step does -/

variable {wrap next : Wrap ℚ} {previous : Option (Word ℚ)} {word : Word ℚ}

theorem close_eq {width : ℚ} (closed : wrap.close stop width = some next) :
    ∃ lines, next = { wrap with lines := lines } ∧
      lines.items = wrap.lines.items ++ [{ start := wrap.rangeStart, stop := stop, width := width }] := by
  obtain ⟨lines, pushed, rfl⟩ := Option.map_eq_some_iff.mp closed
  exact ⟨lines, rfl, Heapless.extend_items pushed⟩

/-- A glyph of a wide word goes on the open line, or opens the next. -/
theorem wrapGlyph_cases {source : SourceGlyph ℚ} (taken : wrapGlyph maxWidth wrap (source, cursor) = some next) :
    (wrap.rangeWidth + source.advance ≤ maxWidth ∧
        next = { wrap with rangeWidth := wrap.rangeWidth + source.advance }) ∨
      ∃ lines, next = { wrap with lines := lines, rangeStart := cursor, rangeWidth := source.advance } ∧
        ¬ wrap.rangeWidth + source.advance ≤ maxWidth ∧
        lines.items = wrap.lines.items ++
          if wrap.rangeStart < cursor then
            [{ start := wrap.rangeStart, stop := cursor, width := wrap.rangeWidth }] else [] := by
  unfold wrapGlyph at taken
  dsimp only at taken
  split at taken
  case isTrue fits =>
    cases taken
    exact Or.inl ⟨fits, rfl⟩
  case isFalse full =>
    obtain ⟨closed, closes, rfl⟩ := Option.map_eq_some_iff.mp taken
    split at closes
    case isTrue filled =>
      obtain ⟨lines, rfl, items⟩ := close_eq closes
      exact Or.inr ⟨lines, rfl, full, by rw [items, if_pos filled]⟩
    case isFalse empty =>
      cases closes
      exact Or.inr ⟨wrap.lines, rfl, full, by rw [if_neg empty, List.append_nil]⟩

/-- Before a word too wide for a line, the open line is closed if it has a width. -/
theorem closeBefore_cases (closed : wrap.closeBefore word = some next) :
    (0 < wrap.rangeWidth ∧ ∃ lines, next = { wrap with lines := lines, rangeStart := word.start, rangeWidth := 0 } ∧
        lines.items = wrap.lines.items ++
          [{ start := wrap.rangeStart, stop := word.start, width := wrap.rangeWidth }]) ∨
      ¬ 0 < wrap.rangeWidth ∧ next = wrap := by
  unfold Wrap.closeBefore at closed
  split at closed
  case isTrue wide =>
    obtain ⟨closed, closes, rfl⟩ := Option.map_eq_some_iff.mp closed
    obtain ⟨lines, rfl, items⟩ := close_eq closes
    exact Or.inl ⟨wide, lines, rfl, items⟩
  case isFalse narrow =>
    cases closed
    exact Or.inr ⟨narrow, rfl⟩

/-- The line that ends before a word for the next line. -/
def Wrap.ended (wrap : Wrap ℚ) (previous : Option (Word ℚ)) (word : Word ℚ) : List (Line ℚ) :=
  if 0 < wrap.rangeWidth ∧ wrap.rangeStart < (wrap.lineEnd previous word).1 then
    [{ start := wrap.rangeStart
       stop := (wrap.lineEnd previous word).1
       width := (wrap.lineEnd previous word).2 }]
  else []

theorem closeAtBlank_cases (closed : wrap.closeAtBlank previous word = some next) :
    ∃ lines, next = { wrap with lines := lines } ∧
      lines.items = wrap.lines.items ++ wrap.ended previous word := by
  unfold Wrap.closeAtBlank at closed
  split at closed
  case isFalse narrow =>
    cases closed
    exact ⟨wrap.lines, rfl, by simp [Wrap.ended, narrow]⟩
  case isTrue wide =>
    dsimp only at closed
    split at closed
    case isTrue filled =>
      obtain ⟨lines, rfl, items⟩ := close_eq closed
      exact ⟨lines, rfl, by simp [Wrap.ended, wide, filled, items]⟩
    case isFalse empty =>
      cases closed
      exact ⟨wrap.lines, rfl, by simp [Wrap.ended, empty]⟩

/-- The three branches of the loop. -/
theorem wrapWord_cases (taken : wrapWord glyphs maxWidth previous wrap word = some next) :
    ((wrap.rangeWidth + word.width ≤ maxWidth ∨ (word.blank = true ∧ wrap.rangeWidth ≤ maxWidth)) ∧
        next = { wrap with
          widthBeforeLastBlank := if word.blank then wrap.rangeWidth else wrap.widthBeforeLastBlank
          rangeWidth := wrap.rangeWidth + word.width }) ∨
      (maxWidth < word.width ∧ ∃ closed, wrap.closeBefore word = some closed ∧
        ((slice glyphs word.start word.stop).zipIdx word.start).foldlM (wrapGlyph maxWidth) closed = some next) ∨
      ∃ lines, next = { wrap with
          lines := lines
          rangeStart := word.start
          rangeWidth := if word.blank then 0 else word.width } ∧
        word.width ≤ maxWidth ∧ ¬ wrap.rangeWidth + word.width ≤ maxWidth ∧
        (word.blank = true → maxWidth < wrap.rangeWidth) ∧
        lines.items = wrap.lines.items ++ wrap.ended previous word := by
  unfold wrapWord at taken
  split at taken
  case isTrue fits =>
    cases taken
    exact Or.inl ⟨fits, rfl⟩
  case isFalse full =>
    obtain ⟨wide, noBlank⟩ := not_or.mp full
    split at taken
    case isTrue tooWide =>
      obtain ⟨closed, closes, runs⟩ := Option.bind_eq_some_iff.mp taken
      exact Or.inr (Or.inl ⟨tooWide, closed, closes, runs⟩)
    case isFalse narrow =>
      obtain ⟨closed, closes, rfl⟩ := Option.map_eq_some_iff.mp taken
      obtain ⟨lines, rfl, items⟩ := closeAtBlank_cases closes
      exact Or.inr (Or.inr ⟨lines, rfl, not_lt.mp narrow, wide,
        fun blank => lt_of_not_ge fun le => noBlank ⟨blank, le⟩, items⟩)

/-! ## The running width -/

/-- The running widths count the glyphs from `middle` on. -/
structure Wrap.Counts (glyphs : List (SourceGlyph ℚ)) (previous : Option (Word ℚ)) (middle cursor : ℕ)
    (wrap : Wrap ℚ) : Prop where
  start : wrap.rangeStart ≤ middle
  reached : middle ≤ cursor
  width : wrap.rangeWidth = advances (slice glyphs middle cursor)
  blank : ∀ word, previous = some word → word.blank = true → wrap.rangeStart < word.start →
    middle ≤ word.start ∧ word.start ≤ cursor ∧
      wrap.widthBeforeLastBlank = advances (slice glyphs middle word.start)

theorem Wrap.Counts.append (counts : wrap.Counts glyphs previous middle word.start) (isWord : IsWord glyphs word) :
    { wrap with
      widthBeforeLastBlank := if word.blank then wrap.rangeWidth else wrap.widthBeforeLastBlank
      rangeWidth := wrap.rangeWidth + word.width : Wrap ℚ }.Counts glyphs (some word) middle word.stop where
  start := counts.start
  reached := counts.reached.trans isWord.forward.le
  width := by
    dsimp only
    rw [counts.width, isWord.width, ← advances_slice glyphs counts.reached isWord.forward.le]
  blank := by
    rintro _ ⟨⟩ blank _
    exact ⟨counts.reached, isWord.forward.le, by rw [if_pos blank, counts.width]⟩

/-- What the line that ends before a word counts. -/
theorem Wrap.Counts.lineEnd (counts : wrap.Counts glyphs previous middle word.start)
    (filled : wrap.rangeStart < (wrap.lineEnd previous word).1) :
    middle ≤ (wrap.lineEnd previous word).1 ∧ (wrap.lineEnd previous word).1 ≤ word.start ∧
      (wrap.lineEnd previous word).2 = advances (slice glyphs middle (wrap.lineEnd previous word).1) := by
  cases previous with
  | none => exact ⟨counts.reached, le_rfl, counts.width⟩
  | some previous =>
    cases blank : previous.blank with
    | false => simpa [Wrap.lineEnd, blank] using And.intro counts.reached counts.width
    | true =>
      simp only [Wrap.lineEnd, blank, if_true] at filled ⊢
      exact counts.blank previous rfl blank filled

/-- The invariant: all lines are sound, and the open line would be. -/
structure Wrap.Sound (glyphs : List (SourceGlyph ℚ)) (maxWidth : ℚ) (previous : Option (Word ℚ)) (cursor : ℕ)
    (wrap : Wrap ℚ) : Prop where
  lines : ∀ line ∈ wrap.lines.items, line.Sound glyphs maxWidth
  counts : wrap.Counts glyphs previous wrap.rangeStart cursor
  fits : Fits glyphs maxWidth wrap.rangeStart cursor
  narrow : ∀ word, previous = some word → word.blank = true → wrap.rangeStart < word.start →
    Fits glyphs maxWidth wrap.rangeStart word.start

theorem sound_concat {lines : List (Line ℚ)} {last : Line ℚ} (sound : ∀ line ∈ lines, line.Sound glyphs maxWidth)
    (closed : last.Sound glyphs maxWidth) : ∀ line ∈ lines ++ [last], line.Sound glyphs maxWidth :=
  List.forall_mem_append.mpr ⟨sound, List.forall_mem_singleton.mpr closed⟩

/-- The open line as it stands is a sound line. -/
theorem Wrap.Sound.line (sound : wrap.Sound glyphs maxWidth previous cursor) :
    Line.Sound glyphs maxWidth { start := wrap.rangeStart, stop := cursor, width := wrap.rangeWidth } :=
  ⟨sound.counts.width, sound.fits⟩

theorem Wrap.Sound.ended (sound : wrap.Sound glyphs maxWidth previous word.start) :
    ∀ line ∈ wrap.lines.items ++ wrap.ended previous word, line.Sound glyphs maxWidth := by
  unfold Wrap.ended
  split
  case isFalse => simpa using sound.lines
  case isTrue holds =>
    obtain ⟨_, filled⟩ := holds
    refine sound_concat sound.lines ⟨(sound.counts.lineEnd filled).2.2, ?_⟩
    cases previous with
    | none => exact sound.fits
    | some previous =>
      cases blank : previous.blank with
      | false => simpa [Wrap.lineEnd, blank] using sound.fits
      | true =>
        simp only [Wrap.lineEnd, blank, if_true] at filled ⊢
        exact sound.narrow previous rfl blank filled

/-- A line that begins at a glyph. -/
theorem fits_one (nonneg : 0 ≤ maxWidth) (moving : ∀ source ∈ glyphs, 0 < source.advance)
    {source : SourceGlyph ℚ} (found : glyphs[cursor]? = some source) :
    Fits glyphs maxWidth cursor (cursor + 1) := by
  have one := slice_one found
  by_cases space : source.character = ' '
  · refine fits_spaces le_rfl (Nat.le_succ cursor) (by rw [one]; simpa using space) ?_
    rw [slice_self]
    exact nonneg
  · rcases le_or_gt source.advance maxWidth with narrow | wide
    · exact fits_of_le moving (by rw [one]; simpa [advances] using narrow)
    · exact Or.inr ⟨source, one, space, wide⟩

theorem wrapGlyph_sound (nonneg : 0 ≤ maxWidth) (moving : ∀ source ∈ glyphs, 0 < source.advance)
    {source : SourceGlyph ℚ} (found : glyphs[cursor]? = some source)
    (sound : wrap.Sound glyphs maxWidth none cursor)
    (taken : wrapGlyph maxWidth wrap (source, cursor) = some next) :
    next.Sound glyphs maxWidth none (cursor + 1) ∧
    (next.rangeStart = wrap.rangeStart ∨ next.rangeStart = cursor) := by
  have one : advances (slice glyphs cursor (cursor + 1)) = source.advance := by
    rw [slice_one found]
    simp [advances]
  have step := advances_slice glyphs sound.counts.reached (Nat.le_succ cursor)
  rw [one, ← sound.counts.width] at step
  rcases wrapGlyph_cases taken with ⟨narrow, rfl⟩ | ⟨lines, rfl, full, items⟩
  · refine ⟨⟨sound.lines, ⟨le_rfl, sound.counts.reached.trans (Nat.le_succ cursor), step.symm, by simp⟩,
      fits_of_le moving (step.trans_le narrow), by simp⟩, Or.inl rfl⟩
  · refine ⟨⟨?_, ⟨le_rfl, Nat.le_succ cursor, one.symm, by simp⟩,
      fits_one nonneg moving found, by simp⟩, Or.inr rfl⟩
    rw [items]
    split
    · exact sound_concat sound.lines sound.line
    · simpa using sound.lines

theorem prefix_drop {source : SourceGlyph ℚ} {rest : List (SourceGlyph ℚ)}
    (begins : source :: rest <+: glyphs.drop cursor) :
    glyphs[cursor]? = some source ∧ rest <+: glyphs.drop (cursor + 1) := by
  obtain ⟨others, split⟩ := begins
  have head := congrArg List.head? split
  have tail := congrArg List.tail split
  rw [List.head?_drop] at head
  rw [List.tail_drop] at tail
  exact ⟨head.symm, others, tail⟩

/-- Run lemma: the glyphs of a word that is too wide. -/
theorem wrapGlyphs_sound (nonneg : 0 ≤ maxWidth) (moving : ∀ source ∈ glyphs, 0 < source.advance)
    (sources : List (SourceGlyph ℚ)) (begins : sources <+: glyphs.drop cursor) (behind : start ≤ cursor)
    (later : start ≤ wrap.rangeStart) (sound : wrap.Sound glyphs maxWidth none cursor)
    (taken : (sources.zipIdx cursor).foldlM (wrapGlyph maxWidth) wrap = some next) :
    next.Sound glyphs maxWidth none (cursor + sources.length) ∧ start ≤ next.rangeStart := by
  induction sources generalizing wrap cursor with
  | nil =>
    cases taken
    exact ⟨sound, later⟩
  | cons source rest ih =>
    obtain ⟨found, begins⟩ := prefix_drop begins
    rw [List.zipIdx_cons, List.foldlM_cons] at taken
    obtain ⟨middle, first, others⟩ := Option.bind_eq_some_iff.mp taken
    obtain ⟨sound, moved⟩ := wrapGlyph_sound nonneg moving found sound first
    have final := ih begins (by omega) (by omega) sound others
    rwa [List.length_cons, Nat.add_comm rest.length, ← Nat.add_assoc]

/-- Without a width nothing is open. -/
theorem Wrap.Sound.empty (sound : wrap.Sound glyphs maxWidth previous cursor)
    (moving : ∀ source ∈ glyphs, 0 < source.advance) (inside : cursor ≤ glyphs.length)
    (narrow : ¬ 0 < wrap.rangeWidth) : wrap.rangeStart = cursor := by
  refine Nat.le_antisymm sound.counts.reached (Nat.le_of_not_lt fun filled => narrow ?_)
  rw [sound.counts.width]
  exact advances_slice_pos moving filled inside

theorem closeBefore_sound (nonneg : 0 ≤ maxWidth) (moving : ∀ source ∈ glyphs, 0 < source.advance)
    (inside : word.start ≤ glyphs.length) (sound : wrap.Sound glyphs maxWidth previous word.start)
    (closed : wrap.closeBefore word = some next) :
    next.Sound glyphs maxWidth none word.start ∧ next.rangeStart = word.start := by
  rcases closeBefore_cases closed with ⟨_, lines, rfl, items⟩ | ⟨narrow, rfl⟩
  · refine ⟨⟨?_, ⟨le_rfl, le_rfl, ?_, by simp⟩, ?_, by simp⟩, rfl⟩
    · rw [items]
      exact sound_concat sound.lines sound.line
    · rw [slice_self]
      rfl
    · exact fits_of_le moving (by rw [slice_self]; exact nonneg)
  · have counts := sound.counts
    exact ⟨⟨sound.lines, ⟨counts.start, counts.reached, counts.width, by simp⟩, sound.fits, by simp⟩,
      sound.empty moving inside narrow⟩

theorem IsWord.space (isWord : IsWord glyphs word) (blank : word.blank = true) {index : ℕ}
    (lower : word.start ≤ index) (upper : index < word.stop) (inside : index < glyphs.length) :
    glyphs[index].character = ' ' := by
  by_contra ink
  exact isWord.blank blank index lower upper ⟨glyphs[index], List.getElem?_eq_getElem inside, ink⟩

theorem IsWord.spaces (isWord : IsWord glyphs word) (blank : word.blank = true) :
    ∀ source ∈ slice glyphs word.start word.stop, source.character = ' ' := by
  intro source member
  obtain ⟨offset, found⟩ := List.mem_iff_getElem?.mp member
  have length := slice_length word.start isWord.inside
  have inside : offset < word.stop - word.start := by
    rw [← length]
    exact (List.getElem?_eq_some_iff.mp found).1
  rw [slice, List.getElem?_take_of_lt inside, List.getElem?_drop] at found
  obtain ⟨bound, rfl⟩ := List.getElem?_eq_some_iff.mp found
  exact isWord.space blank (Nat.le_add_right _ _) (by omega) bound

/-- A blank that comes when the open line is already too wide, and fits on the next. -/
def Overfull (maxWidth : ℚ) (wrap : Wrap ℚ) (word : Word ℚ) : Prop :=
  word.blank = true ∧ word.width ≤ maxWidth ∧ maxWidth < wrap.rangeWidth

/-- Step lemma: one word more, unless it is such a blank; behind that nothing
is open, but the lines are still sound. -/
theorem wrapWord_sound (nonneg : 0 ≤ maxWidth) (moving : ∀ source ∈ glyphs, 0 < source.advance)
    (isWord : IsWord glyphs word) (sound : wrap.Sound glyphs maxWidth previous word.start)
    (taken : wrapWord glyphs maxWidth previous wrap word = some next) :
    (∀ line ∈ next.lines.items, line.Sound glyphs maxWidth) ∧
      ((¬ Overfull maxWidth wrap word ∨ 0 < next.rangeWidth) →
        next.Sound glyphs maxWidth (some word) word.stop) := by
  have positive := isWord.width_pos moving
  have forward := isWord.forward.le
  rcases wrapWord_cases taken with ⟨fits, rfl⟩ | ⟨_, closed, closes, runs⟩ | ⟨lines, rfl, narrow, full, late, items⟩
  · refine ⟨sound.lines, fun _ => ⟨sound.lines, sound.counts.append isWord, ?_, ?_⟩⟩
    · have width := (sound.counts.append isWord).width
      rcases fits with narrow | ⟨blank, narrow⟩
      · exact fits_of_le moving (width.symm.trans_le narrow)
      · refine fits_spaces sound.counts.reached forward (isWord.spaces blank) ?_
        rw [sound.counts.width] at narrow
        exact (advances_trimEnd (slice_moving moving)).trans narrow
    · rintro _ ⟨⟩ blank _
      refine fits_of_le moving ?_
      rw [← sound.counts.width]
      rcases fits with narrow | ⟨_, narrow⟩
      · linarith
      · exact narrow
  · obtain ⟨opened, starts⟩ := closeBefore_sound nonneg moving (forward.trans isWord.inside) sound closes
    obtain ⟨done, later⟩ := wrapGlyphs_sound nonneg moving (slice glyphs word.start word.stop)
      (List.take_prefix _ _) le_rfl starts.ge opened runs
    rw [slice_length word.start isWord.inside, Nat.add_sub_cancel' forward] at done
    have counts := done.counts
    refine ⟨done.lines, fun _ => ⟨done.lines, ⟨counts.start, counts.reached, counts.width, ?_⟩, done.fits, ?_⟩⟩
    · rintro _ ⟨⟩ _ earlier
      exact absurd earlier (Nat.not_lt.mpr later)
    · rintro _ ⟨⟩ _ earlier
      exact absurd earlier (Nat.not_lt.mpr later)
  · have ended : ∀ line ∈ lines.items, line.Sound glyphs maxWidth := items ▸ sound.ended
    refine ⟨ended, fun admitted => ?_⟩
    have noBlank : word.blank = false := by
      rw [Bool.eq_false_iff]
      intro blank
      rcases admitted with fine | wide
      · exact fine ⟨blank, narrow, late blank⟩
      · simp [blank] at wide
    have width : (if word.blank then 0 else word.width) = advances (slice glyphs word.start word.stop) := by
      rw [noBlank, ← isWord.width]
      rfl
    refine ⟨ended, ⟨le_rfl, forward, width, ?_⟩, fits_of_le moving (isWord.width.symm.trans_le narrow), ?_⟩
    · rintro _ ⟨⟩ _ earlier
      exact absurd earlier (lt_irrefl _)
    · rintro _ ⟨⟩ _ earlier
      exact absurd earlier (lt_irrefl _)

/-- Run lemma: all words, if no such blank comes before another word. -/
theorem wrapWords_sound (nonneg : 0 ≤ maxWidth) (moving : ∀ source ∈ glyphs, 0 < source.advance)
    (words : List (Word ℚ)) (from_ : WordsFrom glyphs cursor words)
    (sound : wrap.Sound glyphs maxWidth previous cursor)
    (counted : ∀ before word after reached, words = before ++ word :: after → after ≠ [] →
      wrapWords glyphs maxWidth previous wrap before = some reached → ¬ Overfull maxWidth reached word)
    (taken : wrapWords glyphs maxWidth previous wrap words = some next) :
    (∀ line ∈ next.lines.items, line.Sound glyphs maxWidth) ∧
      (0 < next.rangeWidth → ∃ last, next.Sound glyphs maxWidth last glyphs.length) := by
  induction words generalizing wrap cursor previous with
  | nil =>
    cases taken
    obtain rfl : cursor = glyphs.length := from_
    exact ⟨sound.lines, fun _ => ⟨previous, sound⟩⟩
  | cons word words ih =>
    obtain ⟨rfl, isWord, rest⟩ := from_
    obtain ⟨middle, first, others⟩ := Option.bind_eq_some_iff.mp taken
    obtain ⟨lines, open_⟩ := wrapWord_sound nonneg moving isWord sound first
    cases words with
    | nil =>
      cases others
      have ends : word.stop = glyphs.length := rest
      exact ⟨lines, fun wide => ⟨some word, ends ▸ open_ (Or.inr wide)⟩⟩
    | cons second words =>
      have fine := counted [] word (second :: words) wrap rfl (by simp) rfl
      refine ih rest (open_ (Or.inl fine)) ?_ others
      intro before word' after reached split more arrives
      exact counted (word :: before) word' after reached (by rw [split]; rfl) more
        (by rw [wrapWords, first]; exact arrives)

theorem finish_sound {final : Wrap ℚ} (lines : ∀ line ∈ wrap.lines.items, line.Sound glyphs maxWidth)
    (open_ : 0 < wrap.rangeWidth → ∃ last, wrap.Sound glyphs maxWidth last glyphs.length)
    (closed : wrap.finish glyphs = some final) : ∀ line ∈ final.lines.items, line.Sound glyphs maxWidth := by
  unfold Wrap.finish at closed
  split at closed
  case isTrue left =>
    obtain ⟨lines', rfl, items⟩ := close_eq closed
    obtain ⟨_, sound⟩ := open_ left.2
    rw [items]
    exact sound_concat lines sound.line
  case isFalse =>
    cases closed
    exact lines

/-! ## Behind a blank that is not counted -/

/-- A line with another width than its glyphs have. -/
def Wrong (glyphs : List (SourceGlyph ℚ)) (lines : List (Line ℚ)) : Prop :=
  ∃ line ∈ lines, line.width ≠ advances (slice glyphs line.start line.stop)

/-- The open line begins before the glyphs it counts. -/
structure Wrap.Short (glyphs : List (SourceGlyph ℚ)) (previous : Option (Word ℚ)) (middle cursor : ℕ)
    (wrap : Wrap ℚ) : Prop where
  counts : wrap.Counts glyphs previous middle cursor
  before : wrap.rangeStart < middle
  behind : ∀ word, previous = some word → wrap.rangeStart < word.start ∨ middle = cursor

theorem Wrong.mono {lines longer : List (Line ℚ)} (wrong : Wrong glyphs lines) (begins : lines <+: longer) :
    Wrong glyphs longer := by
  obtain ⟨line, member, differs⟩ := wrong
  exact ⟨line, begins.mem member, differs⟩

theorem wrong_short {lines : List (Line ℚ)} (moving : ∀ source ∈ glyphs, 0 < source.advance)
    (before : start < middle) (reached : middle ≤ stop) (inside : stop ≤ glyphs.length) :
    Wrong glyphs (lines ++ [{ start := start, stop := stop, width := advances (slice glyphs middle stop) }]) := by
  refine ⟨_, List.mem_append_right lines (List.mem_singleton_self _), ?_⟩
  have missing := advances_slice_pos moving before (reached.trans inside)
  dsimp only
  rw [advances_slice glyphs before.le reached]
  linarith

theorem wrapGlyphs_grow {sources : List (SourceGlyph ℚ × ℕ)}
    (taken : sources.foldlM (wrapGlyph maxWidth) wrap = some next) : wrap.lines.items <+: next.lines.items := by
  induction sources generalizing wrap with
  | nil =>
    cases taken
    exact List.prefix_refl _
  | cons source rest ih =>
    rw [List.foldlM_cons] at taken
    obtain ⟨middle, first, others⟩ := Option.bind_eq_some_iff.mp taken
    refine List.IsPrefix.trans ?_ (ih others)
    rcases wrapGlyph_cases first with ⟨_, rfl⟩ | ⟨lines, rfl, _, items⟩
    · exact List.prefix_refl _
    · exact items ▸ List.prefix_append _ _

theorem wrapWord_grows (taken : wrapWord glyphs maxWidth previous wrap word = some next) :
    wrap.lines.items <+: next.lines.items := by
  rcases wrapWord_cases taken with ⟨_, rfl⟩ | ⟨_, closed, closes, runs⟩ | ⟨lines, rfl, _, _, _, items⟩
  · exact List.prefix_refl _
  · refine List.IsPrefix.trans ?_ (wrapGlyphs_grow runs)
    rcases closeBefore_cases closes with ⟨_, lines, rfl, items⟩ | ⟨_, rfl⟩
    · exact items ▸ List.prefix_append _ _
    · exact List.prefix_refl _
  · exact items ▸ List.prefix_append _ _

/-- The glyphs of a wide word do not all fit behind the ones that are counted. -/
theorem wrapGlyphs_short (moving : ∀ source ∈ glyphs, 0 < source.advance) (sources : List (SourceGlyph ℚ))
    (begins : sources <+: glyphs.drop cursor) (counts : wrap.Counts glyphs none middle cursor)
    (before : wrap.rangeStart < middle) (narrow : wrap.rangeWidth ≤ maxWidth)
    (taken : (sources.zipIdx cursor).foldlM (wrapGlyph maxWidth) wrap = some next) :
    advances (slice glyphs middle (cursor + sources.length)) ≤ maxWidth ∨ Wrong glyphs next.lines.items := by
  induction sources generalizing wrap cursor with
  | nil =>
    rw [List.length_nil, Nat.add_zero, ← counts.width]
    exact Or.inl narrow
  | cons source rest ih =>
    obtain ⟨found, begins⟩ := prefix_drop begins
    rw [List.zipIdx_cons, List.foldlM_cons] at taken
    obtain ⟨reached, first, others⟩ := Option.bind_eq_some_iff.mp taken
    have step := advances_slice glyphs counts.reached (Nat.le_succ cursor)
    rw [slice_one found, ← counts.width] at step
    have one : advances [source] = source.advance := by simp [advances]
    rw [one] at step
    rcases wrapGlyph_cases first with ⟨fits, rfl⟩ | ⟨lines, rfl, _, items⟩
    · have more : { wrap with rangeWidth := wrap.rangeWidth + source.advance : Wrap ℚ }.Counts glyphs none
          middle (cursor + 1) :=
        ⟨counts.start, counts.reached.trans (Nat.le_succ cursor), step.symm, by simp⟩
      have final := ih begins more before fits others
      rwa [List.length_cons, Nat.add_comm rest.length, ← Nat.add_assoc]
    · refine Or.inr (Wrong.mono ?_ (wrapGlyphs_grow others))
      have inside := (List.getElem?_eq_some_iff.mp found).1
      dsimp only
      rw [items, if_pos (before.trans_le counts.reached), counts.width]
      exact wrong_short moving before counts.reached inside.le

/-- Step lemma: the width that is missing stays missing, until a line is closed with it. -/
theorem wrapWord_short (moving : ∀ source ∈ glyphs, 0 < source.advance) (nonneg : 0 ≤ maxWidth)
    (isWord : IsWord glyphs word) (short : wrap.Short glyphs previous middle word.start)
    (taken : wrapWord glyphs maxWidth previous wrap word = some next) :
    next.Short glyphs (some word) middle word.stop ∨ Wrong glyphs next.lines.items := by
  have counts := short.counts
  have before := isWord.forward.le.trans isWord.inside
  have vacant : ¬ 0 < wrap.rangeWidth → middle = word.start := fun narrow => by
    refine Nat.le_antisymm counts.reached (Nat.le_of_not_lt fun some_ => narrow ?_)
    rw [counts.width]
    exact advances_slice_pos moving some_ before
  rcases wrapWord_cases taken with ⟨_, rfl⟩ | ⟨wide, closed, closes, runs⟩ | ⟨lines, rfl, narrow, full, _, items⟩
  · refine Or.inl ⟨counts.append isWord, short.before, ?_⟩
    rintro _ ⟨⟩
    exact Or.inl (short.before.trans_le counts.reached)
  · right
    rcases closeBefore_cases closes with ⟨_, lines, rfl, items⟩ | ⟨narrow, same⟩
    · refine Wrong.mono ?_ (wrapGlyphs_grow runs)
      dsimp only
      rw [items, counts.width]
      exact wrong_short moving short.before counts.reached before
    · rw [same] at runs
      obtain rfl := vacant narrow
      have zero : wrap.rangeWidth = 0 := by
        rw [counts.width, slice_self]
        rfl
      have result := wrapGlyphs_short moving (slice glyphs word.start word.stop) (List.take_prefix _ _)
        ⟨counts.start, counts.reached, counts.width, by simp⟩ short.before (zero.trans_le nonneg) runs
      rw [slice_length word.start isWord.inside, Nat.add_sub_cancel' isWord.forward.le, ← isWord.width] at result
      exact result.resolve_left (not_le.mpr wide)
  · right
    have some_ : 0 < wrap.rangeWidth := by
      by_contra none_
      have zero : wrap.rangeWidth = 0 := by
        rw [counts.width, vacant none_, slice_self]
        rfl
      rw [zero, zero_add] at full
      exact full narrow
    have filled : wrap.rangeStart < (wrap.lineEnd previous word).1 := by
      cases previous with
      | none => exact short.before.trans_le counts.reached
      | some previous =>
        cases blank : previous.blank with
        | false => simpa [Wrap.lineEnd, blank] using short.before.trans_le counts.reached
        | true =>
          rcases short.behind previous rfl with later | here
          · simpa [Wrap.lineEnd, blank] using later
          · rw [counts.width, here, slice_self] at some_
            exact absurd some_ (lt_irrefl 0)
    obtain ⟨reached, bounded, width⟩ := counts.lineEnd filled
    dsimp only
    rw [items, Wrap.ended, if_pos ⟨some_, filled⟩, width]
    exact wrong_short moving short.before reached (bounded.trans before)

/-- Run lemma: at the end of the words a line is wrong, or the open one will be. -/
theorem wrapWords_short (moving : ∀ source ∈ glyphs, 0 < source.advance) (nonneg : 0 ≤ maxWidth)
    (words : List (Word ℚ)) (from_ : WordsFrom glyphs cursor words)
    (short : wrap.Short glyphs previous middle cursor ∨ Wrong glyphs wrap.lines.items)
    (taken : wrapWords glyphs maxWidth previous wrap words = some next) :
    (∃ last, next.Short glyphs last middle glyphs.length) ∨ Wrong glyphs next.lines.items := by
  induction words generalizing wrap cursor previous with
  | nil =>
    cases taken
    obtain rfl : cursor = glyphs.length := from_
    exact short.imp_left fun short => ⟨previous, short⟩
  | cons word words ih =>
    obtain ⟨rfl, isWord, rest⟩ := from_
    obtain ⟨reached, first, others⟩ := Option.bind_eq_some_iff.mp taken
    refine ih rest ?_ others
    rcases short with short | wrong
    · exact wrapWord_short moving nonneg isWord short first
    · exact Or.inr (wrong.mono (wrapWord_grows first))

theorem finish_short {final : Wrap ℚ} (moving : ∀ source ∈ glyphs, 0 < source.advance)
    (more : middle < glyphs.length)
    (short : (∃ last, wrap.Short glyphs last middle glyphs.length) ∨ Wrong glyphs wrap.lines.items)
    (closed : wrap.finish glyphs = some final) : Wrong glyphs final.lines.items := by
  unfold Wrap.finish at closed
  split at closed
  case isTrue left =>
    obtain ⟨lines, rfl, items⟩ := close_eq closed
    dsimp only
    rw [items]
    rcases short with ⟨_, short⟩ | wrong
    · rw [short.counts.width]
      exact wrong_short moving short.before more.le le_rfl
    · exact wrong.mono (List.prefix_append _ _)
  case isFalse nothing =>
    cases closed
    rcases short with ⟨_, short⟩ | wrong
    · refine absurd ⟨short.before.trans more, ?_⟩ nothing
      rw [short.counts.width]
      exact advances_slice_pos moving more le_rfl
    · exact wrong

/-- The blank begins the next line, which does not count it. -/
theorem overfull_short (moving : ∀ source ∈ glyphs, 0 < source.advance) (isWord : IsWord glyphs word)
    (overfull : Overfull maxWidth wrap word) (taken : wrapWord glyphs maxWidth previous wrap word = some next) :
    next.Short glyphs (some word) word.stop word.stop := by
  obtain ⟨blank, narrow, full⟩ := overfull
  have positive := isWord.width_pos moving
  rcases wrapWord_cases taken with ⟨fits, _⟩ | ⟨wide, _⟩ | ⟨lines, rfl, _⟩
  · rcases fits with fits | ⟨_, fits⟩
    · exact absurd full (by linarith)
    · exact absurd full (not_lt.mpr fits)
  · exact absurd wide (not_lt.mpr narrow)
  · refine ⟨⟨isWord.forward.le, le_rfl, ?_, ?_⟩, isWord.forward, fun _ _ => Or.inr rfl⟩
    · rw [slice_self]
      simp [blank, advances]
    · rintro _ ⟨⟩ _ earlier
      exact absurd earlier (lt_irrefl _)

/-! ## Layout -/

theorem wordsFrom_append {before after : List (Word ℚ)}
    (from_ : WordsFrom glyphs cursor (before ++ word :: after)) :
    IsWord glyphs word ∧ WordsFrom glyphs word.stop after := by
  induction before generalizing cursor with
  | nil => exact ⟨from_.2.1, from_.2.2⟩
  | cons first before ih => exact ih from_.2.2

theorem wordsFrom_inside {words : List (Word ℚ)} (from_ : WordsFrom glyphs cursor words) (some_ : words ≠ []) :
    cursor < glyphs.length := by
  cases words with
  | nil => exact absurd rfl some_
  | cons word words =>
    obtain ⟨rfl, isWord, _⟩ := from_
    exact isWord.forward.trans_le isWord.inside

theorem wrapWords_append (glyphs : List (SourceGlyph ℚ)) (maxWidth : ℚ) (previous : Option (Word ℚ))
    (wrap : Wrap ℚ) (before after : List (Word ℚ)) :
    wrapWords glyphs maxWidth previous wrap (before ++ after) =
      (wrapWords glyphs maxWidth previous wrap before).bind fun reached =>
        wrapWords glyphs maxWidth (before.getLast?.or previous) reached after := by
  induction before generalizing wrap previous with
  | nil => rfl
  | cons word before ih =>
    rw [List.cons_append, wrapWords, wrapWords, Option.bind_assoc]
    refine congrArg _ (funext fun reached => ?_)
    rw [ih]
    cases before <;> rfl

/-- Before the first word. -/
def Wrap.fresh : Wrap ℚ where
  lines := .empty
  rangeStart := 0
  rangeWidth := 0
  widthBeforeLastBlank := 0

/-- The loop of `layout` comes to `word` with `wrap` open, and more words behind it. -/
def Reaches (font : BitmapFont ℚ) (text : List Char) (maxWidth : ℚ) (wrap : Wrap ℚ) (word : Word ℚ) : Prop :=
  ∃ glyphs words before after, layoutGlyphs font text .empty = some glyphs ∧
    layoutWords glyphs.items 0 .empty = some words ∧ words.items = before ++ word :: after ∧ after ≠ [] ∧
    wrapWords glyphs.items maxWidth none .fresh before = some wrap

/-- The stages of `layout` once the glyphs are collected: none of them fails. -/
theorem layout_stages (positive : font.Positive) {glyphs : Vec (SourceGlyph ℚ)} (maxWidth : ℚ)
    (collected : layoutGlyphs font text .empty = some glyphs) :
    (∀ source ∈ glyphs.items, 0 < source.advance) ∧ ∃ words wrap final,
      layoutWords glyphs.items 0 .empty = some words ∧ WordsFrom glyphs.items 0 words.items ∧
      wrapWords glyphs.items maxWidth none .fresh words.items = some wrap ∧
      wrap.finish glyphs.items = some final ∧ layout text font maxWidth = some (glyphs, final.lines) := by
  have spec := layoutGlyphs_spec positive text .empty (by simp)
  have room := HeaplessVec.length_le glyphs
  split at spec
  case isFalse => cases collected.symm.trans spec
  case isTrue few =>
    obtain ⟨_, succeeds, _, moving⟩ := spec
    cases collected.symm.trans succeeds
    obtain ⟨words, new, cut, items, from_⟩ := layoutWords_spec room 0 .empty (Nat.zero_le _) (by simp)
    rw [Heapless.empty_items, List.nil_append] at items
    have fresh : Wrap.Open glyphs.items 0 .fresh :=
        ⟨Spans.covers_nil, le_rfl, by simp, by simp [Wrap.fresh], le_rfl⟩
    obtain ⟨wrap, laid, open_⟩ := wrapWords_open room moving maxWidth words.items (items ▸ from_)
      (show Follows glyphs.items 0 none from trivial) fresh
    obtain ⟨final, closed, _⟩ := finish_covers room open_
    refine ⟨moving, words, wrap, final, cut, items ▸ from_, laid, closed, ?_⟩
    rw [Wrap.fresh] at laid
    simp [layout, collected, cut, laid, closed]

/-! ## Where no blank is lost -/

theorem wrapGlyphs_narrow (narrow : ∀ source ∈ glyphs, source.advance ≤ maxWidth)
    (open_ : wrap.rangeWidth ≤ maxWidth)
    (taken : (glyphs.zipIdx cursor).foldlM (wrapGlyph maxWidth) wrap = some next) :
    next.rangeWidth ≤ maxWidth := by
  induction glyphs generalizing wrap cursor with
  | nil =>
    cases taken
    exact open_
  | cons source rest ih =>
    obtain ⟨here, others⟩ := List.forall_mem_cons.mp narrow
    rw [List.zipIdx_cons, List.foldlM_cons] at taken
    obtain ⟨middle, first, later⟩ := Option.bind_eq_some_iff.mp taken
    refine ih others ?_ later
    rcases wrapGlyph_cases first with ⟨fits, rfl⟩ | ⟨lines, rfl, _⟩
    · exact fits
    · exact here

/-- Behind a word with ink, none of its glyphs wider than a line, the open line has room. -/
theorem wrapWord_narrow (nonneg : 0 ≤ maxWidth) (narrow : ∀ source ∈ glyphs, source.advance ≤ maxWidth)
    (taken : wrapWord glyphs maxWidth previous wrap word = some next) :
    word.blank = true ∨ next.rangeWidth ≤ maxWidth := by
  rcases wrapWord_cases taken with ⟨fits, rfl⟩ | ⟨_, closed, closes, runs⟩ | ⟨lines, rfl, small, _⟩
  · rcases fits with fits | ⟨blank, _⟩
    · exact Or.inr fits
    · exact Or.inl blank
  · refine Or.inr (wrapGlyphs_narrow (fun source member => narrow source ?_) ?_ runs)
    · exact List.mem_of_mem_drop (List.mem_of_mem_take member)
    · rcases closeBefore_cases closes with ⟨_, lines, rfl, _⟩ | ⟨empty, rfl⟩
      · exact nonneg
      · exact (not_lt.mp empty).trans nonneg
  · refine Or.inr ?_
    dsimp only
    split
    · exact nonneg
    · exact small

/-- Two blanks in a row are two spaces in a row. -/
theorem not_blank_behind_blank {last : Word ℚ}
    (spaced : (glyphs.map SourceGlyph.character).IsChain fun first second => ¬ (first = ' ' ∧ second = ' '))
    (isLast : IsWord glyphs last) (isWord : IsWord glyphs word) (next : word.start = last.stop)
    (lastBlank : last.blank = true) : word.blank = false := by
  rw [Bool.eq_false_iff]
  intro blank
  have lastForward := isLast.forward
  have forward := isWord.forward
  have inside := isWord.inside
  have index : last.stop - 1 + 1 = word.start := by omega
  have first := isLast.space lastBlank (by omega) (show last.stop - 1 < last.stop by omega) (by omega)
  have second := isWord.space blank index.ge (by omega) (by omega)
  have chained := spaced.getElem (last.stop - 1) (by rw [List.length_map]; omega)
  rw [List.getElem_map, List.getElem_map] at chained
  exact chained ⟨first, second⟩

/-- **Texts that lose no blank.** Where no space follows another and no glyph is wider
than the line, a blank never meets a line that is already too wide. -/
theorem not_overfull (positive : font.Positive) (nonneg : 0 ≤ maxWidth)
    (glyphs : ∀ glyph ∈ font.glyphs, glyph.advance ≤ maxWidth)
    (pairs : ∀ pair ∈ font.pairs, pair.advance ≤ maxWidth)
    (spaced : (font.supported text).IsChain fun first second => ¬ (first = ' ' ∧ second = ' ')) (wrap : Wrap ℚ)
    (word : Word ℚ) (reaches : Reaches font text maxWidth wrap word) : ¬ Overfull maxWidth wrap word := by
  rintro ⟨blank, _, full⟩
  obtain ⟨sources, words, before, after, collected, cut, split, _, reached⟩ := reaches
  have narrow := layoutGlyphs_forall (· ≤ maxWidth) glyphs pairs text (by simp) collected
  have characters := layoutGlyphs_characters positive collected
  obtain ⟨_, _, _, _, succeeds, from_, _⟩ := layout_stages positive maxWidth collected
  cases cut.symm.trans succeeds
  rcases List.eq_nil_or_concat before with rfl | ⟨earlier, last, rfl⟩
  · cases reached
    exact absurd full (not_lt.mpr nonneg)
  · rw [List.concat_eq_append, wrapWords_append] at reached
    obtain ⟨middle, _, taken⟩ := Option.bind_eq_some_iff.mp reached
    obtain ⟨final, lastTaken, rest⟩ := Option.bind_eq_some_iff.mp taken
    cases rest
    rcases wrapWord_narrow nonneg narrow lastTaken with lastBlank | room
    · rw [split, List.concat_eq_append, List.append_assoc] at from_
      obtain ⟨isLast, rest⟩ := wordsFrom_append from_
      obtain ⟨next, isWord, _⟩ := rest
      have ink := not_blank_behind_blank (characters ▸ spaced) isLast isWord next lastBlank
      rw [ink] at blank
      cases blank
    · exact absurd full (not_lt.mpr room)

/-! ## Sound lines -/

/-- **Lines are as wide as recorded, and fit, unless a blank meets a line that
is already too wide.** With positive advances, `layout` gives every line the sum
of the advances that drawing steps by, and no line is too wide without its spaces
at the end, but for a single wide glyph, exactly if no blank other than the last
glyph comes when the open line is too wide while itself it would fit. -/
theorem lines_sound_iff (font : BitmapFont ℚ) (text : List Char) (maxWidth : ℚ) (positive : font.Positive)
    (nonneg : 0 ≤ maxWidth) :
    (∀ glyphs lines, layout text font maxWidth = some (glyphs, lines) →
        ∀ line ∈ lines.items, line.Sound glyphs.items maxWidth) ↔
      ∀ wrap word, Reaches font text maxWidth wrap word → ¬ Overfull maxWidth wrap word := by
  constructor
  · rintro sound wrap word ⟨glyphs, words, before, after, collected, cut, split, more, reached⟩ overfull
    obtain ⟨moving, _, ended, final, succeeds, from_, laid, closed, result⟩ :=
      layout_stages positive maxWidth collected
    cases cut.symm.trans succeeds
    rw [split] at laid from_
    obtain ⟨isWord, rest⟩ := wordsFrom_append from_
    rw [wrapWords_append, reached, Option.bind_some] at laid
    obtain ⟨next, taken, others⟩ := Option.bind_eq_some_iff.mp laid
    have short := overfull_short moving isWord overfull taken
    have final_ := wrapWords_short moving nonneg after rest (Or.inl short) others
    obtain ⟨line, member, differs⟩ := finish_short moving (wordsFrom_inside rest more) final_ closed
    exact differs (sound glyphs final.lines result line member).width
  · intro counted glyphs lines laid
    cases collected : layoutGlyphs font text .empty with
    | none => simp [layout, collected] at laid
    | some found =>
      obtain ⟨moving, words, ended, final, cut, from_, wrapped, closed, result⟩ :=
        layout_stages positive maxWidth collected
      cases laid.symm.trans result
      have fresh : Wrap.fresh.Sound glyphs.items maxWidth none 0 :=
        ⟨by simp [Wrap.fresh], ⟨le_rfl, le_rfl, rfl, by simp⟩, fits_of_le moving nonneg, by simp⟩
      obtain ⟨sound, open_⟩ := wrapWords_sound nonneg moving words.items from_ fresh
        (fun before word after reached split more arrives =>
          counted reached word ⟨glyphs, words, before, after, collected, cut, split, more, arrives⟩) wrapped
      exact finish_sound sound open_ closed

/-- Words with one space between them, on lines with room for three glyphs. -/
theorem lines_sound_single_spaced :
    (layout "aa aa".toList twoCharacters 15).isSome = true ∧
      ∀ glyphs lines, layout "aa aa".toList twoCharacters 15 = some (glyphs, lines) →
        ∀ line ∈ lines.items, line.Sound glyphs.items 15 := by
  refine ⟨by decide +kernel, ?_⟩
  apply (lines_sound_iff twoCharacters "aa aa".toList 15 twoCharacters_positive (by decide +kernel)).mpr
  refine not_overfull twoCharacters_positive (by decide +kernel) ?_ ?_ ?_
  · decide +kernel
  · decide +kernel
  · decide +kernel

/-- Of two spaces at the end of a full line the second begins the next line,
which is recorded five narrower than it is. -/
theorem second_space_not_counted :
    ¬ ∀ (text : List Char) (font : BitmapFont ℚ) (maxWidth : ℚ), font.Positive → 0 ≤ maxWidth →
      ∀ glyphs lines, layout text font maxWidth = some (glyphs, lines) →
        ∀ line ∈ lines.items, line.Sound glyphs.items maxWidth := by
  intro all
  have differs : (layout "aa  a".toList twoCharacters 10).any (fun laid => laid.2.items.any fun line =>
      line.width != advances (slice laid.1.items line.start line.stop)) = true := by decide +kernel
  obtain ⟨⟨glyphs, lines⟩, laid, wrong⟩ := (Option.any_eq_true _ _).mp differs
  obtain ⟨line, member, other⟩ := List.any_eq_true.mp wrong
  have sound := all _ _ _ twoCharacters_positive (by decide +kernel) glyphs lines laid line member
  simp [sound.width] at other

end EnergyDisplay.Font

import EnergyDisplay.FontTables

/-! The bitmaps of the generated tables are cropped to their ink: each has ink in
its first row and in its last one, whatever is packed behind it. -/
namespace EnergyDisplay.Font

open PackedBits

/-- Ink in the first row and in the last one, as `threshold_bitmap` crops. -/
def Bitmap.Tight (bitmapData : List UInt8) (bitmap : Bitmap) : Prop :=
  bitmap.width ≠ 0 → 0 < bitmap.height.toNat ∧
    (∃ x < bitmap.width.toNat, bit bitmapData bitmap.dataStart.toNat x = true) ∧
    ∃ x < bitmap.width.toNat,
      bit bitmapData bitmap.dataStart.toNat ((bitmap.height.toNat - 1) * bitmap.width.toNat + x) = true

/-- All bitmaps of a font are cropped to their ink. -/
def BitmapFont.Tight {G : Type} (bitmapData : List UInt8) (font : BitmapFont G) : Prop :=
  ∀ glyph ∈ font.glyphs, ∀ bin, (glyph.bitmaps bin).Tight bitmapData

/-- A bitmap cropped to its ink, with all its bits inside of the data. -/
structure Bitmap.Cropped (bitmapData : List UInt8) (bitmap : Bitmap) : Prop where
  tight : bitmap.Tight bitmapData
  inside : ∀ index < bitmap.width.toNat * bitmap.height.toNat,
    bitmap.dataStart.toNat + index / 8 < bitmapData.length

/-! ## One bitmap -/

variable {image : SwashImage} {bitmap : Bitmap} {before data longer : List UInt8}

/-- What is packed later does not disturb it. -/
theorem Bitmap.Cropped.extend (cropped : bitmap.Cropped data) (extends_ : data <+: longer) :
    bitmap.Cropped longer := by
  obtain ⟨more, rfl⟩ := extends_
  have kept (index : ℕ) (inside : index < bitmap.width.toNat * bitmap.height.toNat) :
      bit (data ++ more) bitmap.dataStart.toNat index = bit data bitmap.dataStart.toNat index :=
    bit_append more (cropped.inside index inside)
  refine ⟨fun wide => ?_, fun index inside => ?_⟩
  · obtain ⟨high, ⟨x, left, first⟩, x', left', last⟩ := cropped.tight wide
    refine ⟨high, ⟨x, left, ?_⟩, x', left', ?_⟩
    · rw [kept x (left.trans_le (Nat.le_mul_of_pos_right _ high))]
      exact first
    · rw [kept _ (row_major_lt left' (Nat.sub_lt high Nat.one_pos))]
      exact last
  · rw [List.length_append]
    exact (cropped.inside index inside).trans_le (Nat.le_add_right _ _)

/-- The loop over the image has met the first row it knows of, unless that is
still the image's height. -/
def InkBounds.Meets (bounds : InkBounds) (image : SwashImage) : Prop :=
  bounds.minY = image.height ∨ ∃ x < image.width, image.ink x bounds.minY = true

theorem InkBounds.Meets.take {bounds : InkBounds} (meets : bounds.Meets image) {point : ℕ × ℕ}
    (left : point.1 < image.width) (ink : image.ink point.1 point.2 = true) :
    (bounds.take point).Meets image := by
  rcases le_total bounds.minY point.2 with above | below
  · simpa only [Meets, InkBounds.take, min_eq_left above] using meets
  · simp only [Meets, InkBounds.take, min_eq_right below]
    exact Or.inr ⟨point.1, left, ink⟩

theorem inkBounds_meets (image : SwashImage) : image.inkBounds.Meets image := by
  have general : ∀ (rest : List (ℕ × ℕ)) (bounds : InkBounds), (∀ point ∈ rest, point.1 < image.width) →
      bounds.Meets image →
      (rest.foldl (fun bounds point => if image.ink point.1 point.2 then bounds.take point else bounds)
        bounds).Meets image := by
    intro rest
    induction rest with
    | nil => exact fun _ _ meets => meets
    | cons point rest ih =>
      intro bounds inside meets
      obtain ⟨left, others⟩ := List.forall_mem_cons.mp inside
      rw [List.foldl_cons]
      split
      case isTrue ink => exact ih _ others (meets.take left ink)
      case isFalse => exact ih _ others meets
  exact general _ _ (fun point member => (mem_points.mp member).1) (Or.inl rfl)

/-- There is ink in the outermost rows that the loop finds. -/
theorem inkBounds_rows (hasInk : image.inkBounds.hasInk = true) :
    (∃ x < image.width, image.ink x image.inkBounds.minY = true) ∧
      (∃ x < image.width, image.ink x image.inkBounds.maxY = true) ∧
      image.inkBounds.minY ≤ image.inkBounds.maxY ∧ image.inkBounds.maxY < image.height := by
  have included := inkBounds_include image
  have inked : ∀ point ∈ (points image.width image.height).filter (fun point => image.ink point.1 point.2),
      (point.1 < image.width ∧ point.2 < image.height) ∧ image.ink point.1 point.2 = true := by
    intro point member
    obtain ⟨inside, ink⟩ := List.mem_filter.mp member
    exact ⟨mem_points.mp inside, ink⟩
  obtain ⟨some_, member⟩ := List.exists_mem_of_ne_nil _ (included.hasInk.mp hasInk)
  have here := inked some_ member
  have lower := (included.lower some_ member).2
  have upper := (included.upper some_ member).2
  have bottom : ∃ point ∈ (points image.width image.height).filter (fun point => image.ink point.1 point.2),
      point.2 = image.inkBounds.maxY := by
    rcases included.bottom with zero | found
    · exact ⟨some_, member, by omega⟩
    · exact found
  obtain ⟨last, lastIn, same⟩ := bottom
  have below := inked last lastIn
  exact ⟨(inkBounds_meets image).resolve_left (by omega), ⟨last.1, below.1.1, same ▸ below.2⟩,
    by omega, by omega⟩

/-- Ink in a row of the crop is a bit in that row. -/
theorem Packed.reaches (packed : Packed image before bitmap data) (hasInk : image.inkBounds.hasInk = true)
    {x y : ℕ} (inside : y < bitmap.height.toNat) (left : x < image.width)
    (below : image.inkBounds.minY + y < image.height)
    (ink : image.ink x (image.inkBounds.minY + y) = true) :
    ∃ column < bitmap.width.toNat,
      bit data bitmap.dataStart.toNat (y * bitmap.width.toNat + column) = true := by
  obtain ⟨_, _, bits⟩ := packed.rows
  obtain ⟨after, upto, _, _⟩ := (inkBounds_crop hasInk).keeps x _ left below ink
  rw [← packed.width] at upto
  have column : x - image.inkBounds.minX < bitmap.width.toNat := by omega
  refine ⟨x - image.inkBounds.minX, column, ?_⟩
  rw [bits _ (row_major_lt column inside), (row_major_index column y).1, (row_major_index column y).2,
    Nat.add_sub_cancel' after]
  exact ink

/-- `threshold_bitmap` crops. -/
theorem thresholdBitmap_cropped (packed : thresholdBitmap image before = some (bitmap, data)) :
    before <+: data ∧ bitmap.Cropped data := by
  obtain ⟨kept, holds⟩ := thresholdBitmap_holds packed
  refine ⟨kept, fun wide => ?_, fun index inside => holds.reads_inside inside⟩
  cases hasInk : image.inkBounds.hasInk with
  | false => exact absurd (thresholdBitmap_blank hasInk packed).1 wide
  | true =>
    have packed := thresholdBitmap_packed hasInk packed
    obtain ⟨⟨x, left, first⟩, ⟨x', left', last⟩, ordered, below⟩ := inkBounds_rows hasInk
    have height := packed.height
    have high : 0 < bitmap.height.toNat := by omega
    have row : image.inkBounds.minY + (bitmap.height.toNat - 1) = image.inkBounds.maxY := by omega
    refine ⟨high, ?_, ?_⟩
    · simpa using packed.reaches hasInk high left (by omega) first
    · exact packed.reaches hasInk (by omega) left' (row ▸ below) (row ▸ last)

/-! ## The tables -/

section Tables

variable {G : Type} {system : FontSystem G} {size : G}

theorem quarterBitmaps_cropped {glyph : ShapedGlyph G} {bitmaps : Fin 4 → Bitmap}
    (generated : quarterBitmaps system size glyph before = some (bitmaps, data)) :
    before <+: data ∧ ∀ bin, (bitmaps bin).Cropped data := by
  simp only [quarterBitmaps, Option.bind_eq_bind, Option.bind_eq_some_iff] at generated
  obtain ⟨_, _, ⟨first, data₀⟩, packed₀, _, _, ⟨second, data₁⟩, packed₁, _, _, ⟨third, data₂⟩, packed₂, _, _,
    ⟨fourth, data₃⟩, packed₃, result⟩ := generated
  cases result
  obtain ⟨kept₀, cropped₀⟩ := thresholdBitmap_cropped packed₀
  obtain ⟨kept₁, cropped₁⟩ := thresholdBitmap_cropped packed₁
  obtain ⟨kept₂, cropped₂⟩ := thresholdBitmap_cropped packed₂
  obtain ⟨kept₃, cropped₃⟩ := thresholdBitmap_cropped packed₃
  refine ⟨kept₀.trans (kept₁.trans (kept₂.trans kept₃)), fun bin => ?_⟩
  match bin with
  | 0 => exact cropped₀.extend (kept₁.trans (kept₂.trans kept₃))
  | 1 => exact cropped₁.extend (kept₂.trans kept₃)
  | 2 => exact cropped₂.extend kept₃
  | 3 => exact cropped₃

variable [Zero G] [BEq G]

theorem generateGlyphs_cropped {characters : List Char} {glyphs : List (ShapedGlyph G × BitmapGlyph G)}
    (generated : generateGlyphs system size characters before = some (glyphs, data)) :
    before <+: data ∧ ∀ glyph ∈ glyphs, ∀ bin, (glyph.2.bitmaps bin).Cropped data := by
  induction characters generalizing before glyphs with
  | nil =>
    cases generated
    exact ⟨List.prefix_rfl, by simp⟩
  | cons character rest ih =>
    simp only [generateGlyphs, Option.bind_eq_bind, Option.bind_eq_some_iff] at generated
    obtain ⟨⟨⟨glyph, bitmaps⟩, between⟩, first, ⟨others, all⟩, remaining, result⟩ := generated
    cases result
    obtain ⟨kept, cropped⟩ := ih remaining
    obtain ⟨_, quarters⟩ := generateGlyph_eq_some first
    obtain ⟨kept', cropped'⟩ := quarterBitmaps_cropped quarters
    exact ⟨kept'.trans kept, List.forall_mem_cons.mpr ⟨fun bin => (cropped' bin).extend kept, cropped⟩⟩

theorem generateFont_cropped {characters : List Char} {distinct : characters.Nodup} {kerned : Bool}
    {table : FontTable G}
    (generated : generateFont system size characters distinct kerned before = some (table, data)) :
    before <+: data ∧ ∀ glyph ∈ table.glyphs, ∀ bin, (glyph.bitmaps bin).Cropped data := by
  obtain ⟨glyphs, collected, _, glyphs_eq, _⟩ := generateFont_eq_some generated
  obtain ⟨kept, cropped⟩ := generateGlyphs_cropped collected
  refine ⟨kept, fun glyph member => ?_⟩
  rw [glyphs_eq] at member
  obtain ⟨entry, inside, rfl⟩ := List.mem_map.mp member
  exact cropped entry inside

theorem generateTextFonts_cropped {sizes : List G} {fonts : List (SizedFont G)}
    (generated : generateTextFonts system sizes before = some (fonts, data)) :
    before <+: data ∧ ∀ font ∈ fonts, ∀ glyph ∈ font.glyphs, ∀ bin, (glyph.bitmaps bin).Cropped data := by
  induction sizes generalizing before fonts with
  | nil =>
    cases generated
    exact ⟨List.prefix_rfl, by simp⟩
  | cons size sizes ih =>
    simp only [generateTextFonts, Option.bind_eq_bind, Option.bind_eq_some_iff] at generated
    obtain ⟨⟨table, between⟩, first, baseline, _, ⟨others, all⟩, remaining, result⟩ := generated
    cases result
    obtain ⟨kept, cropped⟩ := ih remaining
    obtain ⟨kept', cropped'⟩ := generateFont_cropped first
    refine ⟨kept'.trans kept, List.forall_mem_cons.mpr ⟨fun glyph member bin => ?_, cropped⟩⟩
    exact (cropped' glyph member bin).extend kept

/-- All bitmaps of the generated text fonts are cropped to their ink. -/
theorem generateTextFonts_tight {sizes : List G} {fonts : List (SizedFont G)}
    (generated : generateTextFonts system sizes before = some (fonts, data)) (behind : data <+: longer) :
    ∀ font ∈ fonts, font.Tight longer := by
  intro font member glyph inside bin
  have cropped := (generateTextFonts_cropped generated).2 font member glyph inside bin
  exact (cropped.extend behind).tight

end Tables

end EnergyDisplay.Font

import EnergyDisplay.CroppingProofs
import EnergyDisplay.ExactFloats
import EnergyDisplay.Lib.Visitors
import EnergyDisplay.TextDrawing
import Mathlib.Tactic.Linarith

/-! Drawn text is centred on its ink. Both passes of `draw` see the same
bitmaps: the layout is visited in a way that does not depend on the visitor. The
first pass finds the highest and the lowest row of ink, the second one moves all
ink by the same number of rows, and a bitmap that is cropped to its ink reaches
both of its outer rows. -/
namespace EnergyDisplay.Font

open Fallible PackedBits
open Renderer (BinaryColor Point Rectangle Stop)

/-! ## Builds -/

section Builds

variable {σ ε : Type} {overflowChecks : Bool} {target : Target ε}

/-- Without an overflow, a build without overflow checks does the same. -/
theorem i32_agrees (value : Int) :
    Agrees (i32 true value : Fallible σ Stop Int) (i32 overflowChecks value) := by
  unfold i32
  exact agrees_ite (fun _ => agrees_refl _) fun _ => agrees_throw _

theorem measure_agrees (visit : Visit) :
    Agrees (measure true visit : Fallible (DrawState ε) Stop Unit) (measure overflowChecks visit) := by
  unfold measure
  refine agrees_ite (fun _ => agrees_refl _) fun _ => ?_
  exact (i32_agrees _).bind fun _ => (i32_agrees _).bind fun _ => (i32_agrees _).bind fun _ => agrees_refl _

theorem bitmapPixel_agrees (verticalOffset : Int) (visit : Visit) (index : ℕ) :
    Agrees (bitmapPixel true target verticalOffset visit index : Fallible σ Stop (Option Pixel))
      (bitmapPixel overflowChecks target verticalOffset visit index) := by
  unfold bitmapPixel
  refine (agrees_refl _).bind fun set_ => agrees_ite (fun _ => ?_) fun _ => agrees_refl _
  exact (i32_agrees _).bind fun _ => (i32_agrees _).bind fun _ => (i32_agrees _).bind fun _ =>
    (i32_agrees _).bind fun _ => (i32_agrees _).bind fun _ => (i32_agrees _).bind fun _ =>
    (i32_agrees _).bind fun _ => agrees_refl _

theorem bitmapPixels_agrees (verticalOffset : Int) (visit : Visit) (indices : List ℕ) :
    Agrees (bitmapPixels true target verticalOffset visit indices : Fallible σ Stop (List Pixel))
      (bitmapPixels overflowChecks target verticalOffset visit indices) := by
  induction indices with
  | nil => exact agrees_refl _
  | cons index rest ih =>
    exact (bitmapPixel_agrees _ _ _).bind fun _ => ih.bind fun _ => agrees_refl _

theorem emit_agrees (verticalOffset : Int) (visit : Visit) :
    Agrees (emit true target verticalOffset visit) (emit overflowChecks target verticalOffset visit) := by
  unfold emit
  refine (agrees_refl _).bind fun state => ?_
  cases state.result with
  | error => exact agrees_refl _
  | ok =>
    refine agrees_ite (fun _ => agrees_refl _) fun _ => ?_
    exact (bitmapPixels_agrees _ _ _).bind fun _ => agrees_refl _

variable {G : Type} [Sub G] [Div G] [IntCast G] [LT G] [DecidableLT G] [AsInt G] [FloatSign G]

theorem subpixelBin_agrees (position : G) :
    Agrees (subpixelBin true position : Fallible σ Stop (Int × Fin 4))
      (subpixelBin overflowChecks position) := by
  unfold subpixelBin
  refine agrees_ite (fun _ => ?_) fun _ => ?_
  · refine agrees_ite (fun _ => agrees_refl _) fun _ => ?_
    exact (i32_agrees _).bind fun _ => agrees_refl _
  · refine agrees_ite (fun _ => agrees_refl _) fun _ => agrees_ite (fun _ => agrees_refl _) fun _ =>
      agrees_ite (fun _ => agrees_refl _) fun _ => agrees_ite (fun _ => agrees_refl _) fun _ => ?_
    exact (i32_agrees _).bind fun _ => agrees_refl _

variable [Add G]

theorem visitLine_agrees {baselineY : Int} {visitor visitor' : Visit → Fallible σ Stop Unit}
    (visitors : ∀ visit, Agrees (visitor visit) (visitor' visit)) (sources : List (SourceGlyph G)) (x : G) :
    Agrees (visitLine true baselineY visitor sources x)
      (visitLine overflowChecks baselineY visitor' sources x) := by
  induction sources generalizing x with
  | nil => exact agrees_refl _
  | cons source rest ih =>
    exact (subpixelBin_agrees x).bind fun _ => (visitors _).bind fun _ => ih _

variable [Zero G]

theorem visitLayout_agrees {visitor visitor' : Visit → Fallible σ Stop Unit}
    (visitors : ∀ visit, Agrees (visitor visit) (visitor' visit)) (glyphs : List (SourceGlyph G))
    (lines : List (Line G)) (maxWidth fontSize : G) (firstBaseline : Int) (alignment : Renderer.Alignment) :
    Agrees (visitLayout true glyphs lines maxWidth fontSize firstBaseline alignment visitor)
      (visitLayout overflowChecks glyphs lines maxWidth fontSize firstBaseline alignment visitor') :=
  agrees_forM fun _ => (i32_agrees _).bind fun _ => (i32_agrees _).bind fun _ => visitLine_agrees visitors _ _

theorem drawLayout_agrees (font : BitmapFont G) (glyphs : List (SourceGlyph G)) (lines : List (Line G))
    (fontSize : G) (alignment : Renderer.Alignment) :
    Agrees (drawLayout true target font glyphs lines fontSize alignment)
      (drawLayout overflowChecks target font glyphs lines fontSize alignment) := by
  unfold drawLayout
  refine (visitLayout_agrees measure_agrees _ _ _ _ _ _).bind fun _ => (agrees_refl _).bind fun _ => ?_
  refine agrees_ite (fun _ => agrees_refl _) fun _ => ?_
  exact (i32_agrees _).bind fun _ => (i32_agrees _).bind fun _ => (i32_agrees _).bind fun _ =>
    (visitLayout_agrees (emit_agrees _) _ _ _ _ _ _).bind fun _ => agrees_refl _

variable [LE G] [DecidableLE G]

theorem draw_agrees (toBits : G → UInt32) (fonts : List (SizedFont G)) (text : List Char) (fontSize : G)
    (alignment : Renderer.Alignment) :
    Agrees (draw true target toBits fonts text fontSize alignment)
      (draw overflowChecks target toBits fonts text fontSize alignment) := by
  unfold draw
  split
  · exact agrees_refl _
  · split
    · exact agrees_refl _
    · exact drawLayout_agrees _ _ _ _ _

end Builds

/-! ## The visits of a layout -/

section Visits

variable {allowed : Visit → Prop} {overflowChecks : Bool}

theorem i32_constant (value : Int) : Constant fun σ => (i32 overflowChecks value : Fallible σ Stop Int) :=
  constant_ite (constant_pure _) (constant_ite (constant_throw _) (constant_pure _))

variable {G : Type} [Sub G] [Div G] [IntCast G] [LT G] [DecidableLT G] [AsInt G] [FloatSign G]

theorem subpixelBin_constant (position : G) :
    Constant fun σ => (subpixelBin overflowChecks position : Fallible σ Stop (Int × Fin 4)) := by
  unfold subpixelBin
  refine constant_ite (constant_ite (constant_pure _) ?_) ?_
  · exact (i32_constant _).bind fun _ => constant_ite (constant_pure _) <| constant_ite (constant_pure _) <|
      constant_ite (constant_pure _) (constant_pure _)
  · refine constant_ite (constant_pure _) <| constant_ite (constant_pure _) <|
      constant_ite (constant_pure _) <| constant_ite (constant_pure _) ?_
    exact (i32_constant _).bind fun _ => constant_pure _

variable [Add G]

theorem visitLine_scripted (baselineY : Int) {sources : List (SourceGlyph G)}
    (fine : ∀ source ∈ sources, ∀ originX bin, allowed ⟨originX, baselineY, source.glyph.bitmaps bin⟩)
    (x : G) :
    Scripted allowed fun _ visitor => visitLine overflowChecks baselineY visitor sources x := by
  induction sources generalizing x with
  | nil => exact scripted_pure
  | cons source rest ih =>
    obtain ⟨here, others⟩ := List.forall_mem_cons.mp fine
    exact (subpixelBin_constant x).scripted fun place =>
      (scripted_call (here place.1 place.2)).bind (ih others _)

variable [Zero G]

/-- What is visited of a layout are bitmaps of its glyphs. -/
theorem visitLayout_scripted {glyphs : List (SourceGlyph G)}
    (fine : ∀ source ∈ glyphs, ∀ originX baselineY bin,
      allowed ⟨originX, baselineY, source.glyph.bitmaps bin⟩)
    (lines : List (Line G)) (maxWidth fontSize : G) (firstBaseline : Int) (alignment : Renderer.Alignment) :
    Scripted allowed fun _ visitor =>
      visitLayout overflowChecks glyphs lines maxWidth fontSize firstBaseline alignment visitor := by
  refine scripted_forM fun line _ => ?_
  refine (i32_constant _).scripted fun below => (i32_constant _).scripted fun baselineY => ?_
  refine visitLine_scripted baselineY (fun source member => ?_) _
  have inside : source ∈ glyphs := List.mem_of_mem_drop (List.mem_of_mem_take member)
  exact fun originX bin => fine source inside originX baselineY bin

end Visits

/-- A layout takes its glyphs from the font. -/
theorem layoutGlyphs_mem {G : Type} {font : BitmapFont G} (text : List Char)
    {before glyphs : Vec (SourceGlyph G)}
    (known : ∀ source ∈ before.items, source.glyph ∈ font.glyphs)
    (laid : layoutGlyphs font text before = some glyphs) :
    ∀ source ∈ glyphs.items, source.glyph ∈ font.glyphs := by
  induction text generalizing before with
  | nil =>
    cases laid
    exact known
  | cons character chars ih =>
    cases found : font.glyph character with
    | none =>
      simp only [layoutGlyphs, found] at laid
      exact ih known laid
    | some glyph =>
      simp only [layoutGlyphs, found, Option.bind_eq_bind, Option.bind_eq_some_iff] at laid
      obtain ⟨longer, pushed, rest⟩ := laid
      refine ih ?_ rest
      rw [Heapless.extend_items pushed]
      refine List.forall_mem_append.mpr ⟨known, ?_⟩
      simpa using List.mem_of_find?_eq_some found

theorem layout_mem {G : Type} [Zero G] [Add G] [LE G] [LT G] [DecidableLE G] [DecidableLT G]
    {font : BitmapFont G} {text : List Char} {maxWidth : G} {glyphs : Vec (SourceGlyph G)}
    {lines : Vec (Line G)} (laid : layout text font maxWidth = some (glyphs, lines)) :
    ∀ source ∈ glyphs.items, source.glyph ∈ font.glyphs := by
  simp only [layout, Option.bind_eq_bind, Option.bind_eq_some_iff] at laid
  obtain ⟨collected, collects, _, _, _, _, _, _, result⟩ := laid
  cases result
  exact layoutGlyphs_mem text (by simp) collects

/-! ## The first pass -/

namespace Visit

def Inked (visit : Visit) : Prop := visit.bitmap.width ≠ 0

/-- The first row of a bitmap, before anything is moved. -/
def top (visit : Visit) : Int := visit.baselineY + visit.bitmap.top

def bottom (visit : Visit) : Int := visit.top + visit.bitmap.height.toNat - 1

end Visit

theorem exists_mem_append_left {α : Type*} {items more : List α} {wanted : α → Prop}
    (found : ∃ item ∈ items, wanted item) : ∃ item ∈ items ++ more, wanted item :=
  found.imp fun _ both => ⟨List.mem_append_left _ both.1, both.2⟩

/-- These are the outermost rows of the bitmaps visited, where any have ink. -/
structure Extent (visits : List Visit) (minY maxY : Int) : Prop where
  held : ∀ visit ∈ visits, visit.Inked → visit.top ≤ IntType.i32.greatest ∧ IntType.i32.least ≤ visit.bottom
  within : ∀ visit ∈ visits, visit.Inked → minY ≤ visit.top ∧ visit.bottom ≤ maxY
  top : minY = IntType.i32.greatest ∨ ∃ visit ∈ visits, visit.Inked ∧ visit.top = minY
  bottom : maxY = IntType.i32.least ∨ ∃ visit ∈ visits, visit.Inked ∧ visit.bottom = maxY

variable {visits : List Visit} {visit : Visit} {minY maxY : Int}

theorem Extent.skip (extent : Extent visits minY maxY) (blank : ¬ visit.Inked) :
    Extent (visits ++ [visit]) minY maxY where
  held := List.forall_mem_append.mpr ⟨extent.held, by simpa using fun ink => absurd ink blank⟩
  within := List.forall_mem_append.mpr ⟨extent.within, by simpa using fun ink => absurd ink blank⟩
  top := extent.top.imp_right exists_mem_append_left
  bottom := extent.bottom.imp_right exists_mem_append_left

theorem Extent.take (extent : Extent visits minY maxY) (ink : visit.Inked)
    (top : visit.top ≤ IntType.i32.greatest) (bottom : IntType.i32.least ≤ visit.bottom) :
    Extent (visits ++ [visit]) (min minY visit.top) (max maxY visit.bottom) where
  held := List.forall_mem_append.mpr ⟨extent.held, by simpa using fun _ => ⟨top, bottom⟩⟩
  within := by
    refine List.forall_mem_append.mpr ⟨fun other member inked => ?_, by simp⟩
    have bounds := extent.within other member inked
    exact ⟨(min_le_left _ _).trans bounds.1, bounds.2.trans (le_max_left _ _)⟩
  top := by
    rcases le_total minY visit.top with below | above
    · rw [min_eq_left below]
      exact extent.top.imp_right exists_mem_append_left
    · rw [min_eq_right above]
      exact Or.inr ⟨visit, by simp, ink, rfl⟩
  bottom := by
    rcases le_total visit.bottom maxY with below | above
    · rw [max_eq_left below]
      exact extent.bottom.imp_right exists_mem_append_left
    · rw [max_eq_right above]
      exact Or.inr ⟨visit, by simp, ink, rfl⟩

/-- Where anything has ink, both outermost rows belong to a bitmap. -/
theorem Extent.attained (extent : Extent visits minY maxY) (some_ : minY ≠ IntType.i32.greatest) :
    (∃ visit ∈ visits, visit.Inked ∧ visit.top = minY) ∧
      ∃ visit ∈ visits, visit.Inked ∧ visit.bottom = maxY := by
  obtain ⟨visit, member, ink, highest⟩ := extent.top.resolve_left some_
  refine ⟨⟨visit, member, ink, highest⟩, ?_⟩
  rcases extent.bottom with least | lowest
  · have bottom := (extent.within visit member ink).2
    exact ⟨visit, member, ink, le_antisymm bottom (least ▸ (extent.held visit member ink).2)⟩
  · exact lowest

section Passes

variable {σ ε : Type} {target : Target ε} {state : DrawState ε}

/-- What holds after an operation that does not overflow. -/
theorem ends_i32 {value : Int} {state : σ} {post : Int → σ → Prop}
    (holds : IntType.i32.Holds value → post value state) :
    Ends (i32 true value) state post fun _ _ => True := by
  unfold i32
  rw [ends_ite]
  exact ⟨fun inside => holds inside, fun _ => trivial⟩

/-- The invariant of the first pass. -/
structure Measured (visits : List Visit) (state : DrawState ε) : Prop where
  extent : Extent visits state.minY state.maxY
  emitted : state.emitted = []

/-- Step lemma: the first pass at one bitmap. -/
theorem measure_ends (measured : Measured visits state) (visit : Visit) :
    Ends (measure true visit) state (fun _ after => Measured (visits ++ [visit]) after) fun _ _ => True := by
  unfold measure
  rw [ends_ite]
  constructor
  · intro blank
    exact ⟨measured.extent.skip (not_not.mpr blank), measured.emitted⟩
  · intro ink
    rw [ends_bind]
    refine ends_i32 fun top => ?_
    rw [ends_bind]
    refine ends_i32 fun _ => ?_
    rw [ends_bind]
    refine ends_i32 fun bottom => ?_
    exact ⟨measured.extent.take ink top.2 bottom.1, measured.emitted⟩

/-- Run lemma: the whole first pass. -/
theorem measures_end (visits : List Visit) :
    Ends (visits.forM (measure true)) (.start : DrawState ε) (fun _ after => Measured visits after)
      fun _ _ => True := by
  refine ends_forM (fun before visit state _ measured => measure_ends measured visit) ?_
  exact ⟨⟨by simp, by simp, Or.inl rfl, Or.inl rfl⟩, rfl⟩

/-! ## The second pass -/

/-- The pixel of a bit, where the second pass puts it. -/
def Target.pixel (target : Target ε) (verticalOffset : Int) (visit : Visit) (index : ℕ) : Option Pixel :=
  if bit target.bitmapData visit.bitmap.dataStart.toNat index then
    some
      { point :=
          ⟨target.bounds.topLeft.x + visit.originX + visit.bitmap.left +
              (index % visit.bitmap.width.toNat : ℕ),
            target.bounds.topLeft.y + (verticalOffset + visit.baselineY) + visit.bitmap.top +
              (index / visit.bitmap.width.toNat : ℕ)⟩
        color := target.color }
  else none

/-- The pixels of `drawBitmap`, there. -/
def Target.pixels (target : Target ε) (verticalOffset : Int) (visit : Visit) : List Pixel :=
  (drawBitmap target.bitmapData visit.bitmap (target.bounds.topLeft.x + visit.originX)
    (target.bounds.topLeft.y + (verticalOffset + visit.baselineY))).map fun point =>
      { point := ⟨point.1, point.2⟩, color := target.color }

theorem bitmapPixel_ends (verticalOffset : Int) (visit : Visit) (index : ℕ) (state : σ) :
    Ends (bitmapPixel true target verticalOffset visit index) state
      (fun pixel after => after = state ∧ pixel = target.pixel verticalOffset visit index)
      fun _ _ => True := by
  unfold bitmapPixel readBit
  rw [ends_bind, ends_ite]
  refine ⟨fun _ => ?_, fun _ => trivial⟩
  rw [ends_pure, ends_ite]
  refine ⟨fun set_ => ?_, fun unset => ⟨rfl, by simp [Target.pixel, unset]⟩⟩
  iterate 7
    rw [ends_bind]
    refine ends_i32 fun _ => ?_
  refine ⟨rfl, ?_⟩
  rw [Target.pixel, if_pos set_]
  simp only [add_assoc]

theorem bitmapPixels_ends (verticalOffset : Int) (visit : Visit) (indices : List ℕ) (state : σ) :
    Ends (bitmapPixels true target verticalOffset visit indices) state
      (fun pixels after => after = state ∧ pixels = indices.filterMap (target.pixel verticalOffset visit))
      fun _ _ => True := by
  induction indices with
  | nil => exact ⟨rfl, rfl⟩
  | cons index rest ih =>
    unfold bitmapPixels
    rw [ends_bind]
    refine (bitmapPixel_ends verticalOffset visit index state).mono ?_ fun _ _ _ => trivial
    rintro pixel _ ⟨rfl, here⟩
    rw [ends_bind]
    refine ih.mono ?_ fun _ _ _ => trivial
    rintro pixels _ ⟨rfl, others⟩
    refine ⟨rfl, ?_⟩
    rw [here, others, List.filterMap_cons]
    cases target.pixel verticalOffset visit index <;> rfl

theorem pixels_eq (ink : visit.Inked) (verticalOffset : Int) :
    target.pixels verticalOffset visit =
      (List.range (visit.bitmap.width.toNat * visit.bitmap.height.toNat)).filterMap
        (target.pixel verticalOffset visit) := by
  have wide : (visit.bitmap.width == 0) = false := beq_eq_false_iff_ne.mpr ink
  simp only [Target.pixels, drawBitmap, wide, Bool.false_eq_true, if_false, List.map_filterMap]
  refine List.filterMap_congr fun index _ => ?_
  unfold Target.pixel
  split <;> rfl

/-- Each pixel is in the row of its bit. -/
theorem pixel_row {verticalOffset : Int} {index : ℕ} {pixel : Pixel}
    (here : target.pixel verticalOffset visit index = some pixel) :
    pixel.point.y = target.bounds.topLeft.y + verticalOffset + visit.top +
      (index / visit.bitmap.width.toNat : ℕ) := by
  unfold Target.pixel at here
  split at here
  · cases here
    simp only [Visit.top]
    ring
  · cases here

/-- Ink in a row of a bitmap is a pixel in that row. -/
theorem pixel_in_row (ink : visit.Inked) (verticalOffset : Int) {x y : ℕ}
    (inside : x < visit.bitmap.width.toNat) (below : y < visit.bitmap.height.toNat)
    (set_ : bit target.bitmapData visit.bitmap.dataStart.toNat (y * visit.bitmap.width.toNat + x) = true) :
    ∃ pixel ∈ target.pixels verticalOffset visit,
      pixel.point.y = target.bounds.topLeft.y + verticalOffset + visit.top + y := by
  have some_ : ∃ pixel, target.pixel verticalOffset visit (y * visit.bitmap.width.toNat + x) = some pixel :=
    ⟨_, if_pos set_⟩
  obtain ⟨pixel, here⟩ := some_
  refine ⟨pixel, ?_, ?_⟩
  · rw [pixels_eq ink]
    exact List.mem_filterMap.mpr ⟨_, List.mem_range.mpr (row_major_lt inside below), here⟩
  · rw [pixel_row here, (row_major_index inside y).2]

/-- A cropped bitmap reaches its first row and its last, and no further. -/
theorem pixels_rows (tight : visit.bitmap.Tight target.bitmapData) (ink : visit.Inked)
    (verticalOffset : Int) :
    (∀ pixel ∈ target.pixels verticalOffset visit,
        target.bounds.topLeft.y + verticalOffset + visit.top ≤ pixel.point.y ∧
          pixel.point.y ≤ target.bounds.topLeft.y + verticalOffset + visit.bottom) ∧
      (∃ pixel ∈ target.pixels verticalOffset visit,
        pixel.point.y = target.bounds.topLeft.y + verticalOffset + visit.top) ∧
      ∃ pixel ∈ target.pixels verticalOffset visit,
        pixel.point.y = target.bounds.topLeft.y + verticalOffset + visit.bottom := by
  obtain ⟨high, ⟨x, inside, first⟩, x', inside', last⟩ := tight ink
  refine ⟨fun pixel member => ?_, ?_, ?_⟩
  · rw [pixels_eq ink] at member
    obtain ⟨index, within, here⟩ := List.mem_filterMap.mp member
    obtain ⟨-, row, -⟩ := row_major (List.mem_range.mp within)
    rw [pixel_row here]
    generalize index / visit.bitmap.width.toNat = y at row
    unfold Visit.bottom
    omega
  · have set_ : bit target.bitmapData visit.bitmap.dataStart.toNat (0 * visit.bitmap.width.toNat + x) = true := by
      simpa using first
    simpa using pixel_in_row ink verticalOffset inside high set_
  · have below : visit.bitmap.height.toNat - 1 < visit.bitmap.height.toNat := Nat.sub_lt high Nat.one_pos
    obtain ⟨pixel, member, row⟩ := pixel_in_row ink verticalOffset inside' below last
    refine ⟨pixel, member, row.trans ?_⟩
    unfold Visit.bottom
    omega

/-- These pixels are ink of the bitmaps, and there are some in each bitmap's first
row and in its last. -/
structure Shown (target : Target ε) (verticalOffset : Int) (visits : List Visit)
    (pixels : List Pixel) : Prop where
  within : ∀ pixel ∈ pixels, ∃ visit ∈ visits, visit.Inked ∧
    target.bounds.topLeft.y + verticalOffset + visit.top ≤ pixel.point.y ∧
      pixel.point.y ≤ target.bounds.topLeft.y + verticalOffset + visit.bottom
  top : ∀ visit ∈ visits, visit.Inked → ∃ pixel ∈ pixels,
    pixel.point.y = target.bounds.topLeft.y + verticalOffset + visit.top
  bottom : ∀ visit ∈ visits, visit.Inked → ∃ pixel ∈ pixels,
    pixel.point.y = target.bounds.topLeft.y + verticalOffset + visit.bottom

variable {verticalOffset : Int} {pixels : List Pixel}

theorem Shown.skip (shown : Shown target verticalOffset visits pixels)
    (blank : ¬ visit.Inked) : Shown target verticalOffset (visits ++ [visit]) pixels where
  within := fun pixel member => exists_mem_append_left (shown.within pixel member)
  top := List.forall_mem_append.mpr ⟨shown.top, by simpa using fun ink => absurd ink blank⟩
  bottom := List.forall_mem_append.mpr ⟨shown.bottom, by simpa using fun ink => absurd ink blank⟩

theorem Shown.take (shown : Shown target verticalOffset visits pixels)
    (tight : visit.bitmap.Tight target.bitmapData) (ink : visit.Inked) :
    Shown target verticalOffset (visits ++ [visit]) (pixels ++ target.pixels verticalOffset visit) := by
  obtain ⟨rows, ⟨first, firstIn, top⟩, last, lastIn, bottom⟩ := pixels_rows tight ink verticalOffset
  refine ⟨List.forall_mem_append.mpr ⟨fun pixel member => ?_, fun pixel member => ?_⟩,
    List.forall_mem_append.mpr ⟨fun other inside inked => ?_, ?_⟩,
    List.forall_mem_append.mpr ⟨fun other inside inked => ?_, ?_⟩⟩
  · exact exists_mem_append_left (shown.within pixel member)
  · exact ⟨visit, by simp, ink, rows pixel member⟩
  · exact exists_mem_append_left (shown.top other inside inked)
  · simpa using fun _ => ⟨first, Or.inr firstIn, top⟩
  · exact exists_mem_append_left (shown.bottom other inside inked)
  · simpa using fun _ => ⟨last, Or.inr lastIn, bottom⟩

/-- The invariant of the second pass: the display has been given the ink of the
bitmaps so far, unless it has refused some. -/
def Drawn (target : Target ε) (verticalOffset : Int) (visits : List Visit) (state : DrawState ε) : Prop :=
  state.result = .ok () → Shown target verticalOffset visits state.emitted.flatten

/-- Step lemma: the second pass at one bitmap. -/
theorem emit_ends (drawn : Drawn target verticalOffset visits state)
    (tight : visit.bitmap.Tight target.bitmapData) :
    Ends (emit true target verticalOffset visit) state
      (fun _ after => Drawn target verticalOffset (visits ++ [visit]) after) fun _ _ => True := by
  unfold emit
  rw [ends_bind, ends_get]
  cases result : state.result with
  | error error =>
    intro fine
    rw [result] at fine
    cases fine
  | ok =>
    dsimp only
    rw [ends_ite]
    refine ⟨fun blank _ => (drawn result).skip (not_not.mpr blank), fun ink => ?_⟩
    rw [ends_bind]
    refine (bitmapPixels_ends verticalOffset visit _ state).mono ?_ fun _ _ _ => trivial
    rintro pixels _ ⟨rfl, given⟩ _
    rw [← pixels_eq ink] at given
    subst given
    simpa using (drawn result).take tight ink

/-- Run lemma: the whole second pass. -/
theorem emits_end (tight : ∀ visit ∈ visits, visit.bitmap.Tight target.bitmapData)
    (fresh : state.emitted = []) :
    Ends (visits.forM (emit true target verticalOffset)) state
      (fun _ after => Drawn target verticalOffset visits after) fun _ _ => True := by
  refine ends_forM (fun before visit state member drawn => emit_ends drawn (tight visit member)) fun _ => ?_
  rw [fresh]
  exact ⟨by simp, by simp, by simp⟩

end Passes

/-! ## The middle of the bounds -/

/-- The gap between the top of the bounds and the highest pixel, and the one
between the lowest pixel and the bottom, differ by at most one row. -/
def Centred (bounds : Rectangle) (pixels : List Pixel) : Prop :=
  ∀ highest ∈ pixels, ∀ lowest ∈ pixels,
    (∀ pixel ∈ pixels, highest.point.y ≤ pixel.point.y ∧ pixel.point.y ≤ lowest.point.y) →
      |(highest.point.y - bounds.topLeft.y) -
        (bounds.topLeft.y + bounds.size.height - 1 - lowest.point.y)| ≤ 1

instance (bounds : Rectangle) (pixels : List Pixel) : Decidable (Centred bounds pixels) :=
  inferInstanceAs (Decidable (∀ highest ∈ pixels, ∀ lowest ∈ pixels, _ → _))

/-- Half of the room above and half below, less what the division drops. -/
theorem Shown.centred {ε : Type} {target : Target ε} {pixels : List Pixel}
    (extent : Extent visits minY maxY) (some_ : minY ≠ IntType.i32.greatest)
    (shown : Shown target ((target.bounds.size.height - 1 - minY - maxY : Int).tdiv 2) visits pixels) :
    Centred target.bounds pixels := by
  intro highest above lowest below outermost
  obtain ⟨⟨first, firstIn, firstInk, top⟩, last, lastIn, lastInk, bottom⟩ := extent.attained some_
  obtain ⟨pixel, member, row⟩ := shown.top first firstIn firstInk
  obtain ⟨pixel', member', row'⟩ := shown.bottom last lastIn lastInk
  obtain ⟨visit, inside, ink, upper, _⟩ := shown.within highest above
  obtain ⟨visit', inside', ink', _, lower⟩ := shown.within lowest below
  have bounds := (extent.within visit inside ink).1
  have bounds' := (extent.within visit' inside' ink').2
  have high := (outermost pixel member).1
  have low := (outermost pixel' member').2
  generalize room : (target.bounds.size.height - 1 - minY - maxY : Int) = free at *
  have halves := Int.mul_tdiv_add_tmod free 2
  have left := Int.tmod_lt_of_pos free (by decide : (0 : Int) < 2)
  have right := Int.lt_tmod_of_pos free (by decide : (0 : Int) < 2)
  rw [abs_le]
  omega

section Draw

variable {ε : Type} {target : Target ε} {G : Type} [Zero G] [Add G] [Sub G] [Div G] [IntCast G] [LT G]
  [DecidableLT G] [AsInt G] [FloatSign G]

theorem drawLayout_ends {font : BitmapFont G} {glyphs : List (SourceGlyph G)}
    (tight : ∀ source ∈ glyphs, ∀ bin, (source.glyph.bitmaps bin).Tight target.bitmapData)
    (small : (target.bounds.size.height : Int) ≤ IntType.i32.greatest) (lines : List (Line G)) (fontSize : G)
    (alignment : Renderer.Alignment) :
    Ends (drawLayout true target font glyphs lines fontSize alignment) .start
      (fun outcome after => outcome = .ok () → Centred target.bounds after.emitted.flatten)
      fun _ _ => True := by
  have scripted : Scripted (fun visit => visit.bitmap.Tight target.bitmapData) fun _ visitor =>
      visitLayout true glyphs lines ((target.bounds.size.width : Int) : G) fontSize font.baseline alignment
        visitor :=
    visitLayout_scripted (fun source member _ _ bin => tight source member bin) _ _ _ _ _
  unfold drawLayout
  rw [ends_bind]
  rcases scripted with ⟨visits, cropped, makes⟩ | breaks
  case inr => exact breaks.ends (measure true) _ _
  -- Both passes make the same calls.
  have first := makes (DrawState ε) (measure true)
  have second (verticalOffset : Int) := makes (DrawState ε) (emit true target verticalOffset)
  simp only at first second
  rw [first]
  refine (measures_end visits).mono ?_ fun _ _ _ => trivial
  rintro _ state ⟨extent, emitted⟩
  rw [ends_bind, ends_get, ends_ite]
  constructor
  · -- Nothing has ink.
    intro _ _
    rw [emitted]
    simp [Centred]
  · intro some_
    have height : IntType.i32.wrap target.bounds.size.height = target.bounds.size.height :=
      IntType.wrap_of_holds ⟨by simp only [IntType.least]; omega, small⟩
    rw [height, ends_bind]
    refine ends_i32 fun _ => ?_
    rw [ends_bind]
    refine ends_i32 fun _ => ?_
    rw [ends_bind]
    refine ends_i32 fun _ => ?_
    rw [ends_bind, second]
    refine (emits_end cropped emitted).mono ?_ fun _ _ _ => trivial
    intro _ after drawn
    rw [ends_bind, ends_get, ends_pure]
    exact fun fine => (drawn fine).centred extent some_

variable [LE G] [DecidableLE G]

/-- Run lemma: a drawing without an overflow that the display takes. -/
theorem draw_centred {toBits : G → UInt32} {fonts : List (SizedFont G)}
    (tight : ∀ font ∈ fonts, font.Tight target.bitmapData)
    (small : (target.bounds.size.height : Int) ≤ IntType.i32.greatest) {text : List Char} {fontSize : G}
    {alignment : Renderer.Alignment} {after : DrawState ε}
    (drawn : draw true target toBits fonts text fontSize alignment .start = (.ok (.ok ()), after)) :
    Centred target.bounds after.emitted.flatten := by
  cases found : fonts.find? fun font => font.sizeBits == toBits fontSize with
  | none =>
    simp only [draw, found] at drawn
    cases drawn
    simp [Centred, DrawState.start]
  | some font =>
    simp only [draw, found] at drawn
    cases laid : layout text font.toBitmapFont ((target.bounds.size.width : Int) : G) with
    | none =>
      simp only [laid] at drawn
      cases drawn
      simp [Centred, DrawState.start]
    | some both =>
      simp only [laid] at drawn
      have cropped := tight font (List.mem_of_find?_eq_some found)
      exact (drawLayout_ends (fun source member bin => cropped _ (layout_mem laid source member) bin) small
        _ fontSize alignment).of_ok drawn rfl

/-- **Drawn text is centred on its ink.** With bitmaps that are cropped to their
ink and bounds whose height is an `i32`, whatever `draw` hands to the display is
as far from the top of the bounds as from the bottom, up to one row, if the
display takes it and no `i32` overflows; a build without overflow checks then
draws the same. -/
theorem drawn_text_is_centred (target : Target ε) (toBits : G → UInt32) (fonts : List (SizedFont G))
    (tight : ∀ font ∈ fonts, font.Tight target.bitmapData)
    (small : (target.bounds.size.height : Int) ≤ IntType.i32.greatest) (text : List Char) (fontSize : G)
    (alignment : Renderer.Alignment) (after : DrawState ε)
    (drawn : draw true target toBits fonts text fontSize alignment .start = (.ok (.ok ()), after))
    (overflowChecks : Bool) :
    draw overflowChecks target toBits fonts text fontSize alignment .start = (.ok (.ok ()), after) ∧
      Centred target.bounds after.emitted.flatten :=
  ⟨draw_agrees _ _ _ _ _ _ _ _ drawn, draw_centred tight small drawn⟩

/-- The text fonts of the build script are such fonts, whatever bitmaps come
behind theirs. -/
theorem generated_text_is_centred [BEq G] {system : FontSystem G} {sizes : List G}
    {before data : List UInt8} {fonts : List (SizedFont G)}
    (generated : generateTextFonts system sizes before = some (fonts, data))
    (behind : data <+: target.bitmapData)
    (small : (target.bounds.size.height : Int) ≤ IntType.i32.greatest) {text : List Char} {fontSize : G}
    {alignment : Renderer.Alignment} {after : DrawState ε}
    (drawn : draw true target system.toBits fonts text fontSize alignment .start = (.ok (.ok ()), after)) :
    Centred target.bounds after.emitted.flatten :=
  draw_centred (generateTextFonts_tight generated behind) small drawn

end Draw

/-! ## Two dots -/

instance : FloatSign ℚ := ⟨fun value => decide (value < 0)⟩

/-- One pixel for each character, a row above the line for one and nine for the
other. -/
def dots : SizedFont ℚ where
  sizeBits := 0x41800000
  baseline := 10
  glyphs := [
    { character := 'a', advance := 8, bitmaps := fun _ => ⟨2, -1, 1, 1, 0⟩ },
    { character := 'b', advance := 8, bitmaps := fun _ => ⟨2, -9, 1, 1, 0⟩ }]
  pairs := []
  glyphs_sorted := by simp
  pairs_sorted := .nil

def dotBits (size : ℚ) : UInt32 := if size = 16 then 0x41800000 else 0

/-- A display below some row, that takes all pixels or none. -/
def canvas (takes : Bool) (top : Int) (width height : ℕ) : Target Unit where
  bitmapData := [1]
  display := fun _ => if takes then .ok () else .error ()
  bounds := ⟨⟨0, top⟩, ⟨width, height⟩⟩
  color := .on

theorem dots_tight : ∀ font ∈ [dots], font.Tight [1] := by
  have one (left top : Int) : Bitmap.Tight [1] ⟨left, top, 1, 1, 0⟩ := by
    have set_ : bit [1] 0 0 = true := by decide
    exact fun _ => ⟨Nat.one_pos, ⟨0, Nat.one_pos, set_⟩, 0, Nat.one_pos, set_⟩
  simp only [forall_eq, BitmapFont.Tight, dots, List.mem_cons, List.not_mem_nil, or_false,
    forall_eq_or_imp]
  exact ⟨fun _ => one _ _, fun _ => one _ _⟩

theorem two_lines_centred :
    ∃ after, draw true (canvas true 0 8 40) dotBits [dots] ['a', 'b'] 16 .left .start = (.ok (.ok ()), after) ∧
      after.emitted.flatten.length = 2 ∧
      draw false (canvas true 0 8 40) dotBits [dots] ['a', 'b'] 16 .left .start = (.ok (.ok ()), after) ∧
      Centred (canvas true 0 8 40).bounds after.emitted.flatten := by
  let after : DrawState Unit :=
    { minY := 9, maxY := 17, result := .ok (), emitted := [[⟨⟨2, 15⟩, .on⟩], [⟨⟨2, 23⟩, .on⟩]] }
  have drawn : draw true (canvas true 0 8 40) dotBits [dots] ['a', 'b'] 16 .left .start =
      (.ok (.ok ()), after) := by decide +kernel
  exact ⟨after, drawn, rfl, drawn_text_is_centred (canvas true 0 8 40) dotBits [dots] dots_tight (by decide)
    ['a', 'b'] 16 .left after drawn false⟩

/-- Of a height beyond `i32` the conversion makes a negative one; beside the last
rows of `i32` a build without overflow checks wraps to the first ones; and a
display that refuses the first bitmap is not given the second. -/
theorem text_not_centred :
    (∀ font ∈ [dots], font.Tight [1]) ∧
      ((draw true (canvas true 0 100 4294967295) dotBits [dots] ['a'] 16 .left .start).1 = .ok (.ok ()) ∧
        ¬ Centred (canvas true 0 100 4294967295).bounds
          (draw true (canvas true 0 100 4294967295) dotBits [dots] ['a'] 16 .left .start).2.emitted.flatten) ∧
      ((draw false (canvas true 2147483647 100 40) dotBits [dots] ['a'] 16 .left .start).1 = .ok (.ok ()) ∧
        ¬ Centred (canvas true 2147483647 100 40).bounds
          (draw false (canvas true 2147483647 100 40) dotBits [dots] ['a'] 16 .left .start).2.emitted.flatten) ∧
      ¬ Centred (canvas false 0 100 40).bounds
        (draw true (canvas false 0 100 40) dotBits [dots] ['a', 'b'] 16 .left .start).2.emitted.flatten :=
  ⟨dots_tight, by decide +kernel, by decide +kernel, by decide +kernel⟩

end EnergyDisplay.Font

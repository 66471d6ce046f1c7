import EnergyDisplay.Font
import EnergyDisplay.Lib.PackedBits
import Mathlib.Data.List.Nodup
import Mathlib.Tactic.Ring

/-! Glyph bitmaps from the build script to the screen: `threshold_bitmap` of
`crates/dashboard-core/build.rs` crops an alpha mask to its ink and packs the
rows into the shared bitmap data, and the inner loop of `draw` of `font.rs`
reads them back. A limit the build script asserts is a `none` here, as is an
`i16` that overflows. -/
namespace EnergyDisplay.Font

open PackedBits

/-- A rasterized glyph: `cosmic_text::SwashImage` with mask content. -/
structure SwashImage where
  left : Int
  top : Int
  width : ℕ
  height : ℕ
  data : List UInt8
  sized : data.length = width * height

/-- What a space is rasterized to. -/
def blank : SwashImage where
  left := 0
  top := 0
  width := 0
  height := 0
  data := []
  sized := rfl

namespace SwashImage

def ink (image : SwashImage) (x y : ℕ) : Bool := 127 < image.data[y * image.width + x]?.getD 0

end SwashImage

/-- The points of a rectangle, row by row. -/
def points (width height : ℕ) : List (ℕ × ℕ) :=
  (List.range height).flatMap fun y => (List.range width).map fun x => (x, y)

structure InkBounds where
  minX : ℕ
  minY : ℕ
  maxX : ℕ
  maxY : ℕ
  hasInk : Bool

def InkBounds.take (bounds : InkBounds) (point : ℕ × ℕ) : InkBounds where
  minX := min bounds.minX point.1
  minY := min bounds.minY point.2
  maxX := max bounds.maxX point.1
  maxY := max bounds.maxY point.2
  hasInk := true

def SwashImage.inkBounds (image : SwashImage) : InkBounds :=
  (points image.width image.height).foldl
    (fun bounds point => if image.ink point.1 point.2 then bounds.take point else bounds)
    { minX := image.width, minY := image.height, maxX := 0, maxY := 0, hasInk := false }

def tryU8 (value : ℕ) : Option UInt8 := if value < 2 ^ 8 then some (UInt8.ofNat value) else none

def tryU32 (value : ℕ) : Option UInt32 := if value < 2 ^ 32 then some (UInt32.ofNat value) else none

def tryI16 (value : Int) : Option Int := if -2 ^ 15 ≤ value ∧ value < 2 ^ 15 then some value else none

/-- The rows of the cropped image, a bit for each pixel. -/
def packRows (image : SwashImage) (bounds : InkBounds) (width height dataStart : ℕ)
    (data : List UInt8) : List UInt8 :=
  (points width height).foldl
    (fun data point =>
      if image.ink (bounds.minX + point.1) (bounds.minY + point.2) then
        setBit data dataStart (point.2 * width + point.1)
      else data)
    data

def thresholdBitmap (image : SwashImage) (bitmapData : List UInt8) :
    Option (Bitmap × List UInt8) := do
  let bounds := image.inkBounds
  let dataStart ← tryU32 bitmapData.length
  if !bounds.hasInk then
    return ({ left := 0, top := 0, width := 0, height := 0, dataStart := dataStart }, bitmapData)
  else
    let width := bounds.maxX - bounds.minX + 1
    let height := bounds.maxY - bounds.minY + 1
    let packedLen := (width * height + 7) / 8
    let data := packRows image bounds width height bitmapData.length
      (bitmapData ++ List.replicate packedLen 0)
    let left ← tryI16 ((← tryI16 image.left) + (← tryI16 bounds.minX))
    let top ← tryI16 ((← tryI16 (-(← tryI16 image.top))) + (← tryI16 bounds.minY))
    return (⟨left, top, ← tryU8 width, ← tryU8 height, dataStart⟩, data)

/-- The bitmaps of several images, packed one after the other. -/
def thresholdBitmaps : List SwashImage → List UInt8 → Option (List Bitmap × List UInt8)
  | [], bitmapData => some ([], bitmapData)
  | image :: images, bitmapData => do
    let (bitmap, bitmapData) ← thresholdBitmap image bitmapData
    let (bitmaps, bitmapData) ← thresholdBitmaps images bitmapData
    return (bitmap :: bitmaps, bitmapData)

/-- The pixels `draw` emits for a bitmap at an origin. -/
def drawBitmap (bitmapData : List UInt8) (bitmap : Bitmap) (originX originY : Int) :
    List (Int × Int) :=
  if bitmap.width == 0 then []
  else
    let width := bitmap.width.toNat
    let pixelCount := width * bitmap.height.toNat
    (List.range pixelCount).filterMap fun index =>
      if bit bitmapData bitmap.dataStart.toNat index then
        some (originX + bitmap.left + (index % width : ℕ), originY + bitmap.top + (index / width : ℕ))
      else none

/-! ## Cropping -/

variable {image : SwashImage} {width height x y : ℕ}

theorem mem_points : (x, y) ∈ points width height ↔ x < width ∧ y < height := by
  simp only [points, List.mem_flatMap, List.mem_range, List.mem_map, Prod.mk.injEq]
  constructor
  · rintro ⟨_, below, _, inside, rfl, rfl⟩
    exact ⟨inside, below⟩
  · rintro ⟨inside, below⟩
    exact ⟨y, below, x, inside, rfl, rfl⟩

/-- Bounds of the inked points of a list, none of them wider than the points. -/
structure InkBounds.Include (bounds : InkBounds) (inked : List (ℕ × ℕ)) : Prop where
  hasInk : bounds.hasInk = true ↔ inked ≠ []
  lower : ∀ point ∈ inked, bounds.minX ≤ point.1 ∧ bounds.minY ≤ point.2
  upper : ∀ point ∈ inked, point.1 ≤ bounds.maxX ∧ point.2 ≤ bounds.maxY
  right : bounds.maxX = 0 ∨ ∃ point ∈ inked, point.1 = bounds.maxX
  bottom : bounds.maxY = 0 ∨ ∃ point ∈ inked, point.2 = bounds.maxY

/-- One more point widens the bounds to it. -/
theorem InkBounds.Include.take {bounds : InkBounds} {inked : List (ℕ × ℕ)}
    (included : bounds.Include inked) (point : ℕ × ℕ) : (bounds.take point).Include (inked ++ [point]) where
  hasInk := by simp [InkBounds.take]
  lower := by
    refine List.forall_mem_append.mpr ⟨fun other member => ?_, by simp [InkBounds.take]⟩
    have := included.lower other member
    simp only [InkBounds.take]
    omega
  upper := by
    refine List.forall_mem_append.mpr ⟨fun other member => ?_, by simp [InkBounds.take]⟩
    have := included.upper other member
    simp only [InkBounds.take]
    omega
  right := by
    rcases le_total bounds.maxX point.1 with wider | inside
    · exact Or.inr ⟨point, by simp, (max_eq_right wider).symm⟩
    · refine included.right.imp (fun zero => ?_) fun ⟨other, member, same⟩ => ?_
      · simp only [InkBounds.take]
        omega
      · exact ⟨other, by simp [member], same.trans (max_eq_left inside).symm⟩
  bottom := by
    rcases le_total bounds.maxY point.2 with wider | inside
    · exact Or.inr ⟨point, by simp, (max_eq_right wider).symm⟩
    · refine included.bottom.imp (fun zero => ?_) fun ⟨other, member, same⟩ => ?_
      · simp only [InkBounds.take]
        omega
      · exact ⟨other, by simp [member], same.trans (max_eq_left inside).symm⟩

/-- The loop over the image bounds its ink. -/
theorem inkBounds_include (image : SwashImage) :
    image.inkBounds.Include
      ((points image.width image.height).filter fun point => image.ink point.1 point.2) := by
  have general : ∀ (rest before : List (ℕ × ℕ)) (bounds : InkBounds), bounds.Include before →
      (rest.foldl (fun bounds point => if image.ink point.1 point.2 then bounds.take point else bounds)
        bounds).Include (before ++ rest.filter fun point => image.ink point.1 point.2) := by
    intro rest
    induction rest with
    | nil => exact fun before bounds included => by simpa using included
    | cons point rest ih =>
      intro before bounds included
      rw [List.foldl_cons, List.filter_cons]
      split
      · simpa using ih _ _ (included.take point)
      · exact ih _ _ included
  exact general _ [] _ ⟨by simp, by simp, by simp, Or.inl rfl, Or.inl rfl⟩

/-- All ink of an image lies in the crop, and the crop in the image. -/
structure Crop (image : SwashImage) (minX minY width height : ℕ) : Prop where
  keeps : ∀ x y, x < image.width → y < image.height → image.ink x y = true →
    minX ≤ x ∧ x < minX + width ∧ minY ≤ y ∧ y < minY + height
  inside : minX + width ≤ image.width ∧ minY + height ≤ image.height

theorem inkBounds_crop (hasInk : image.inkBounds.hasInk = true) :
    Crop image image.inkBounds.minX image.inkBounds.minY
      (image.inkBounds.maxX - image.inkBounds.minX + 1)
      (image.inkBounds.maxY - image.inkBounds.minY + 1) := by
  have included := inkBounds_include image
  obtain ⟨some_, member⟩ := List.exists_mem_of_ne_nil _ (included.hasInk.mp hasInk)
  have lower := included.lower some_ member
  have upper := included.upper some_ member
  have inside : ∀ point ∈ (points image.width image.height).filter
      (fun point => image.ink point.1 point.2), point.1 < image.width ∧ point.2 < image.height :=
    fun point member => mem_points.mp (List.mem_filter.mp member).1
  have here := inside some_ member
  have right : image.inkBounds.maxX < image.width := by
    rcases included.right with zero | ⟨point, member, same⟩
    · omega
    · have := inside point member
      omega
  have bottom : image.inkBounds.maxY < image.height := by
    rcases included.bottom with zero | ⟨point, member, same⟩
    · omega
    · have := inside point member
      omega
  refine ⟨fun x y left above ink => ?_, by omega, by omega⟩
  have member' : (x, y) ∈ (points image.width image.height).filter
      fun point => image.ink point.1 point.2 :=
    List.mem_filter.mpr ⟨mem_points.mpr ⟨left, above⟩, ink⟩
  have lower' := included.lower _ member'
  have upper' := included.upper _ member'
  simp only at lower' upper'
  omega

/-! ## Packing -/

/-- The packing loop sets the bits of the inked points and no other, and leaves
the bytes before its own. -/
theorem foldl_setBit (width : ℕ) (inked : ℕ × ℕ → Bool) (start : ℕ) (list : List (ℕ × ℕ)) (data : List UInt8)
    (room : ∀ point ∈ list, start + (point.2 * width + point.1) / 8 < data.length) :
    let packed := list.foldl (fun data point =>
      if inked point then setBit data start (point.2 * width + point.1) else data) data
    packed.length = data.length ∧ packed.take start = data.take start ∧
      ∀ index, bit packed start index =
        (bit data start index ||
          list.any fun point => inked point && index == point.2 * width + point.1) := by
  induction list generalizing data with
  | nil => simp
  | cons point rest ih =>
    obtain ⟨here, others⟩ := List.forall_mem_cons.mp room
    simp only [List.foldl_cons, List.any_cons]
    cases black : inked point with
    | false => simpa using ih data others
    | true =>
      obtain ⟨length, before, bits⟩ :=
        ih (setBit data start (point.2 * width + point.1)) (by simpa using others)
      refine ⟨length.trans setBit_length, before.trans setBit_take, ?_⟩
      intro index
      rw [if_pos rfl, bits index, bit_setBit here index]
      simp [Bool.or_assoc, beq_eq_decide]

/-- The data holds the crop of an image row by row, from the bitmap's start. -/
structure HoldsCrop (data : List UInt8) (image : SwashImage) (bitmap : Bitmap) (minX minY : ℕ) : Prop where
  crop : Crop image minX minY bitmap.width.toNat bitmap.height.toNat
  left : bitmap.left = image.left + minX
  top : bitmap.top = -image.top + minY
  wide : 0 < bitmap.width.toNat
  stored : bitmap.dataStart.toNat + (bitmap.width.toNat * bitmap.height.toNat + 7) / 8 ≤ data.length
  bits : ∀ index < bitmap.width.toNat * bitmap.height.toNat,
    bit data bitmap.dataStart.toNat index =
      image.ink (minX + index % bitmap.width.toNat) (minY + index / bitmap.width.toNat)

/-- The data holds the ink of an image: there is none, or it holds the crop. -/
def HoldsInk (data : List UInt8) (image : SwashImage) (bitmap : Bitmap) : Prop :=
  (bitmap.width = 0 ∧ ∀ x y, x < image.width → y < image.height → image.ink x y = false) ∨
    ∃ minX minY, HoldsCrop data image bitmap minX minY

variable {data : List UInt8} {bitmap : Bitmap}

/-- What is packed later does not disturb it. -/
theorem HoldsInk.append (holds : HoldsInk data image bitmap) (more : List UInt8) :
    HoldsInk (data ++ more) image bitmap := by
  refine holds.imp_right fun ⟨minX, minY, crop⟩ => ⟨minX, minY, ?_⟩
  have stored := crop.stored
  refine { crop with stored := ?_, bits := fun index inside => ?_ }
  · rw [List.length_append]
    omega
  · rw [bit_append more (by omega)]
    exact crop.bits index inside

theorem tryI16_eq {value result : Int} (succeeds : tryI16 value = some result) : result = value := by
  simp only [tryI16, Option.ite_none_right_eq_some] at succeeds
  exact (Option.some.inj succeeds.2).symm

theorem tryU8_eq {value : ℕ} {result : UInt8} (succeeds : tryU8 value = some result) :
    result.toNat = value := by
  simp only [tryU8, Option.ite_none_right_eq_some] at succeeds
  obtain ⟨small, ⟨⟩⟩ := succeeds
  exact UInt8.toNat_ofNat_of_lt' small

theorem tryU32_eq {value : ℕ} {result : UInt32} (succeeds : tryU32 value = some result) :
    result.toNat = value := by
  simp only [tryU32, Option.ite_none_right_eq_some] at succeeds
  obtain ⟨small, ⟨⟩⟩ := succeeds
  exact UInt32.toNat_ofNat_of_lt' small

/-- A bit index and its place in the rows of a rectangle. -/
theorem row_major {index : ℕ} (inside : index < width * height) :
    index % width < width ∧ index / width < height ∧ index / width * width + index % width = index := by
  have positive : 0 < width := Nat.pos_of_ne_zero fun zero => by simp [zero] at inside
  exact ⟨Nat.mod_lt _ positive, Nat.div_lt_of_lt_mul inside, Nat.div_add_mod' index width⟩

theorem row_major_index (inside : x < width) (y : ℕ) :
    (y * width + x) % width = x ∧ (y * width + x) / width = y := by
  have positive : 0 < width := by omega
  constructor
  · rw [Nat.mul_add_mod_self_right, Nat.mod_eq_of_lt inside]
  · rw [Nat.add_comm, Nat.add_mul_div_right _ _ positive, Nat.div_eq_of_lt inside, Nat.zero_add]

theorem row_major_lt (inside : x < width) (below : y < height) : y * width + x < width * height := by
  calc y * width + x < y * width + width := Nat.add_lt_add_left inside _
    _ = (y + 1) * width := (Nat.succ_mul y width).symm
    _ ≤ height * width := Nat.mul_le_mul_right _ below
    _ = width * height := Nat.mul_comm _ _

/-- The rows of a crop, packed behind what is there already. -/
theorem packRows_bits (image : SwashImage) (bounds : InkBounds) (width height : ℕ) (before : List UInt8) :
    let data := packRows image bounds width height before.length
      (before ++ List.replicate ((width * height + 7) / 8) 0)
    data.length = before.length + (width * height + 7) / 8 ∧ before <+: data ∧
      ∀ index < width * height, bit data before.length index =
        image.ink (bounds.minX + index % width) (bounds.minY + index / width) := by
  intro data
  obtain ⟨length, kept, bits⟩ := foldl_setBit width
    (fun point => image.ink (bounds.minX + point.1) (bounds.minY + point.2)) before.length
    (points width height) (before ++ List.replicate ((width * height + 7) / 8) 0) (by
      rintro ⟨x, y⟩ member
      obtain ⟨inside, below⟩ := mem_points.mp member
      have := row_major_lt inside below
      simp only [List.length_append, List.length_replicate]
      omega)
  refine ⟨length.trans (by simp), ?_, fun index inside => ?_⟩
  · have same : data.take before.length = before := kept.trans (by simp)
    exact List.prefix_iff_eq_take.mpr same.symm
  · refine (bits index).trans ?_
    rw [bit_fresh, Bool.false_or, Bool.eq_iff_iff]
    obtain ⟨column, row, place⟩ := row_major inside
    constructor
    · intro some_
      obtain ⟨⟨x, y⟩, member, both⟩ := List.any_eq_true.mp some_
      obtain ⟨left, below⟩ := mem_points.mp member
      simp only [Bool.and_eq_true, beq_iff_eq] at both
      obtain ⟨ink, rfl⟩ := both
      obtain ⟨column', row'⟩ := row_major_index left y
      rwa [column', row']
    · intro ink
      refine List.any_eq_true.mpr ⟨(index % width, index / width), mem_points.mpr ⟨column, row⟩, ?_⟩
      simp [ink, place]

/-- The bitmap of an image with ink: the bounds of the ink, and its rows behind
what was there before. -/
structure Packed (image : SwashImage) (before : List UInt8) (bitmap : Bitmap) (data : List UInt8) : Prop where
  width : bitmap.width.toNat = image.inkBounds.maxX - image.inkBounds.minX + 1
  height : bitmap.height.toNat = image.inkBounds.maxY - image.inkBounds.minY + 1
  left : bitmap.left = image.left + image.inkBounds.minX
  top : bitmap.top = -image.top + image.inkBounds.minY
  dataStart : bitmap.dataStart.toNat = before.length
  data : data = packRows image image.inkBounds bitmap.width.toNat bitmap.height.toNat before.length
    (before ++ List.replicate ((bitmap.width.toNat * bitmap.height.toNat + 7) / 8) 0)

theorem thresholdBitmap_blank {before : List UInt8} (blank : image.inkBounds.hasInk = false)
    (packed : thresholdBitmap image before = some (bitmap, data)) : bitmap.width = 0 ∧ data = before := by
  unfold thresholdBitmap at packed
  simp only [blank, Bool.not_false, if_true, Option.bind_eq_bind, Option.bind_eq_some_iff] at packed
  obtain ⟨dataStart, _, ⟨⟩⟩ := packed
  exact ⟨rfl, rfl⟩

theorem thresholdBitmap_packed {before : List UInt8} (hasInk : image.inkBounds.hasInk = true)
    (packed : thresholdBitmap image before = some (bitmap, data)) : Packed image before bitmap data := by
  unfold thresholdBitmap at packed
  simp only [hasInk, Bool.not_true, Bool.false_eq_true, if_false, Option.bind_eq_bind,
    Option.bind_eq_some_iff] at packed
  obtain ⟨dataStart, fits, left, leftFits, minX, minXFits, bitmapLeft, sumFits, top, topFits,
    negated, negatedFits, minY, minYFits, bitmapTop, sumFits', width, widthFits, height,
    heightFits, ⟨⟩⟩ := packed
  refine ⟨tryU8_eq widthFits, tryU8_eq heightFits, ?_, ?_, tryU32_eq fits, ?_⟩
  · rw [tryI16_eq sumFits, tryI16_eq leftFits, tryI16_eq minXFits]
  · rw [tryI16_eq sumFits', tryI16_eq negatedFits, tryI16_eq topFits, tryI16_eq minYFits]
  · rw [tryU8_eq widthFits, tryU8_eq heightFits]

/-- The rows of the bitmap are those of the image. -/
theorem Packed.rows {before : List UInt8} (packed : Packed image before bitmap data) :
    data.length = before.length + (bitmap.width.toNat * bitmap.height.toNat + 7) / 8 ∧ before <+: data ∧
      ∀ index < bitmap.width.toNat * bitmap.height.toNat,
        bit data bitmap.dataStart.toNat index =
          image.ink (image.inkBounds.minX + index % bitmap.width.toNat)
            (image.inkBounds.minY + index / bitmap.width.toNat) := by
  rw [packed.dataStart, packed.data]
  exact packRows_bits image image.inkBounds bitmap.width.toNat bitmap.height.toNat before

/-- One image more: its bitmap holds its ink, behind what was there before. -/
theorem thresholdBitmap_holds {before : List UInt8}
    (packed : thresholdBitmap image before = some (bitmap, data)) :
    before <+: data ∧ HoldsInk data image bitmap := by
  cases hasInk : image.inkBounds.hasInk with
  | false =>
    obtain ⟨empty, rfl⟩ := thresholdBitmap_blank hasInk packed
    have blank : (points image.width image.height).filter
        (fun point => image.ink point.1 point.2) = [] := by
      by_contra some_
      have := (inkBounds_include image).hasInk.mpr some_
      simp [hasInk] at this
    refine ⟨List.prefix_rfl, Or.inl ⟨empty, fun x y inside below => ?_⟩⟩
    simpa using List.filter_eq_nil_iff.mp blank (x, y) (mem_points.mpr ⟨inside, below⟩)
  | true =>
    have packed := thresholdBitmap_packed hasInk packed
    obtain ⟨length, kept, bits⟩ := packed.rows
    have crop := inkBounds_crop hasInk
    rw [← packed.width, ← packed.height] at crop
    refine ⟨kept, Or.inr ⟨image.inkBounds.minX, image.inkBounds.minY, ?_⟩⟩
    refine ⟨crop, packed.left, packed.top, ?_, ?_, bits⟩
    · rw [packed.width]
      exact Nat.succ_pos _
    · rw [packed.dataStart, length]

/-- All images packed one after the other are held by the final data. -/
theorem thresholdBitmaps_hold (images : List SwashImage) {before : List UInt8} {bitmaps : List Bitmap}
    (packed : thresholdBitmaps images before = some (bitmaps, data)) :
    before <+: data ∧ List.Forall₂ (HoldsInk data) images bitmaps := by
  induction images generalizing before bitmaps with
  | nil =>
    cases packed
    exact ⟨List.prefix_rfl, .nil⟩
  | cons image images ih =>
    simp only [thresholdBitmaps, Option.bind_eq_bind, Option.bind_eq_some_iff] at packed
    obtain ⟨⟨bitmap, between⟩, first, ⟨others, final⟩, rest, ⟨⟩⟩ := packed
    obtain ⟨kept, holds⟩ := thresholdBitmap_holds first
    obtain ⟨⟨more, rfl⟩, held⟩ := ih rest
    exact ⟨kept.trans (List.prefix_append _ _), .cons (holds.append more) held⟩

/-! ## Drawing -/

/-- What is drawn of the ink held: each inked point of the image, once. -/
theorem drawBitmap_ink (holds : HoldsInk data image bitmap) (originX originY : Int) :
    (drawBitmap data bitmap originX originY).Nodup ∧
      ∀ point, point ∈ drawBitmap data bitmap originX originY ↔
        ∃ x y : ℕ, x < image.width ∧ y < image.height ∧ image.ink x y = true ∧
          point = (originX + image.left + x, originY - image.top + y) := by
  rcases holds with ⟨empty, blank⟩ | ⟨minX, minY, held⟩
  · have nothing : drawBitmap data bitmap originX originY = [] := by simp [drawBitmap, empty]
    rw [nothing]
    refine ⟨List.nodup_nil, fun point => ⟨by simp, ?_⟩⟩
    rintro ⟨x, y, inside, below, ink, _⟩
    rw [blank x y inside below] at ink
    cases ink
  · have wide : (bitmap.width == 0) = false := by
      rw [beq_eq_false_iff_ne]
      intro zero
      have := held.wide
      simp [zero] at this
    simp only [drawBitmap, wide, Bool.false_eq_true, if_false]
    constructor
    · refine List.Nodup.filterMap ?_ List.nodup_range
      intro first second point firstAt secondAt
      simp only [Option.mem_def, Option.ite_none_right_eq_some, Option.some.injEq] at firstAt secondAt
      obtain ⟨_, rfl⟩ := firstAt
      obtain ⟨_, same⟩ := secondAt
      rw [Prod.mk.injEq] at same
      have column : second % bitmap.width.toNat = first % bitmap.width.toNat := by omega
      have row : second / bitmap.width.toNat = first / bitmap.width.toNat := by omega
      rw [← Nat.div_add_mod' first bitmap.width.toNat, ← column, ← row, Nat.div_add_mod']
    · intro point
      simp only [List.mem_filterMap, List.mem_range, Option.ite_none_right_eq_some, Option.some.injEq]
      constructor
      · rintro ⟨index, inside, set_, rfl⟩
        obtain ⟨column, row, _⟩ := row_major inside
        rw [held.bits index inside] at set_
        have crop := held.crop.inside
        refine ⟨minX + index % bitmap.width.toNat, minY + index / bitmap.width.toNat, by omega, by omega,
          set_, ?_⟩
        rw [held.left, held.top]
        push_cast
        ring_nf
      · rintro ⟨x, y, inside, below, ink, rfl⟩
        obtain ⟨left, right, above, under⟩ := held.crop.keeps x y inside below ink
        have column : x - minX < bitmap.width.toNat := by omega
        have row : y - minY < bitmap.height.toNat := by omega
        obtain ⟨modulo, quotient⟩ := row_major_index column (y - minY)
        refine ⟨(y - minY) * bitmap.width.toNat + (x - minX), row_major_lt column row, ?_, ?_⟩
        · rw [held.bits _ (row_major_lt column row), modulo, quotient, Nat.add_sub_cancel' left,
            Nat.add_sub_cancel' above]
          exact ink
        · rw [modulo, quotient, held.left, held.top, Prod.mk.injEq]
          omega

/-- The bytes `draw` reads are there. -/
theorem HoldsInk.reads_inside (holds : HoldsInk data image bitmap) {index : ℕ}
    (inside : index < bitmap.width.toNat * bitmap.height.toNat) :
    bitmap.dataStart.toNat + index / 8 < data.length := by
  rcases holds with ⟨empty, _⟩ | ⟨minX, minY, held⟩
  · simp [empty] at inside
  · have := held.stored
    omega

/-- Glyph bitmaps survive packing and unpacking: what is drawn of the bitmap of
an image is the image's ink, point by point and once each, and no read is
outside the packed data. -/
theorem packed_bitmaps_draw_ink {images : List SwashImage} {before data : List UInt8}
    {bitmaps : List Bitmap} (packed : thresholdBitmaps images before = some (bitmaps, data)) :
    bitmaps.length = images.length ∧
      ∀ (k : ℕ) (image : SwashImage) (bitmap : Bitmap),
        images[k]? = some image → bitmaps[k]? = some bitmap → ∀ originX originY : Int,
          (∀ index < bitmap.width.toNat * bitmap.height.toNat,
            bitmap.dataStart.toNat + index / 8 < data.length) ∧
          (drawBitmap data bitmap originX originY).Nodup ∧
          ∀ point, point ∈ drawBitmap data bitmap originX originY ↔
            ∃ x y : ℕ, x < image.width ∧ y < image.height ∧ image.ink x y = true ∧
              point = (originX + image.left + x, originY - image.top + y) := by
  obtain ⟨_, held⟩ := thresholdBitmaps_hold images packed
  refine ⟨held.length_eq.symm, ?_⟩
  intro k image bitmap imageAt bitmapAt originX originY
  obtain ⟨k_lt, rfl⟩ := List.getElem?_eq_some_iff.mp imageAt
  obtain ⟨k_lt', rfl⟩ := List.getElem?_eq_some_iff.mp bitmapAt
  have holds : HoldsInk data images[k] bitmaps[k] := held.get k_lt k_lt'
  exact ⟨fun index inside => holds.reads_inside inside, drawBitmap_ink holds originX originY⟩

/-- A corner at an odd place, an empty glyph and a column, behind two bytes
that were there before. -/
def threeGlyphs : List SwashImage := [
  { left := -1, top := 3, width := 3, height := 2, data := [0, 255, 128, 0, 127, 200], sized := rfl },
  { left := 0, top := 0, width := 2, height := 1, data := [127, 0], sized := rfl },
  { left := 2, top := -1, width := 1, height := 2, data := [130, 0], sized := rfl }]

theorem three_glyphs_draw_ink :
    ∃ bitmaps data, thresholdBitmaps threeGlyphs [7, 9] = some (bitmaps, data) ∧
      bitmaps.length = 3 ∧
      ∀ bitmap, bitmaps[0]? = some bitmap →
        (drawBitmap data bitmap 10 20).Nodup ∧ ((10, 17) : Int × Int) ∈ drawBitmap data bitmap 10 20 := by
  refine ⟨_, _, rfl, rfl, ?_⟩
  intro bitmap bitmapAt
  have packed : thresholdBitmaps threeGlyphs [7, 9] = some (_, _) := rfl
  obtain ⟨_, drawn⟩ := packed_bitmaps_draw_ink packed
  obtain ⟨_, once, ink⟩ := drawn 0 _ bitmap rfl bitmapAt 10 20
  exact ⟨once, (ink _).mpr ⟨1, 0, by decide, by decide, by decide, by decide⟩⟩

end EnergyDisplay.Font

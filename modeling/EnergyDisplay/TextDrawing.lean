import EnergyDisplay.FontTables
import EnergyDisplay.Renderer

/-! Drawing a text: `draw`, `visit_layout` and `subpixel_bin` of
`crates/dashboard-core/src/font.rs`. A first pass over the layout measures the
rows that have ink, a second one hands the pixels to the display.

`G` stands for `f32`. Arithmetic in `i32` that leaves the type panics in a build
with overflow checks and wraps in one without, and so a drawing is a program
over the variables of `draw`. A display is what it answers to all that it has
been given, and a bitmap reaches it in one piece. -/
namespace EnergyDisplay.Font

open AsInt PackedBits
open Renderer (BinaryColor Point Rectangle Stop)

/-- `f32::is_sign_negative`. -/
class FloatSign (G : Type) where
  isSignNegative : G → Bool

open FloatSign

structure Pixel where
  point : Point
  color : BinaryColor
  deriving DecidableEq

/-- What `visit_layout` calls its visitor with. -/
structure Visit where
  originX : Int
  baselineY : Int
  bitmap : Bitmap

/-- The variables of `draw`, and what the display has been given. -/
structure DrawState (ε : Type) where
  minY : Int
  maxY : Int
  result : Except ε Unit
  emitted : List (List Pixel)
  deriving DecidableEq

def DrawState.start {ε : Type} : DrawState ε where
  minY := IntType.i32.greatest
  maxY := IntType.i32.least
  result := .ok ()
  emitted := []

section Arithmetic

variable {σ : Type} (overflowChecks : Bool)

def i32 (value : Int) : Fallible σ Stop Int :=
  if IntType.i32.Holds value then pure value
  else if overflowChecks then Fallible.throw .panic else pure (IntType.i32.wrap value)

/-- Reading outside of `BITMAP_DATA` panics. -/
def readBit (bitmapData : List UInt8) (dataStart index : ℕ) : Fallible σ Stop Bool :=
  if dataStart + index / 8 < bitmapData.length then pure (bit bitmapData dataStart index)
  else Fallible.throw .panic

variable {G : Type} [Zero G] [Add G] [Sub G] [Div G] [IntCast G] [LT G] [DecidableLT G] [AsInt G] [FloatSign G]

def eighths (count : Int) : G := (count : G) / ((8 : Int) : G)

/-- The whole pixel to the left of a position, and the nearest quarter of a
pixel from there. -/
def subpixelBin (position : G) : Fallible σ Stop (Int × Fin 4) :=
  let truncated := asInt .i32 position
  let fraction := position - (truncated : G)
  if isSignNegative position then
    if eighths (-1) < fraction then pure (truncated, 0)
    else do
      let before ← i32 overflowChecks (truncated - 1)
      if eighths (-3) < fraction then return (before, 3)
      else if eighths (-5) < fraction then return (before, 2)
      else if eighths (-7) < fraction then return (before, 1)
      else return (before, 0)
  else if fraction < eighths 1 then pure (truncated, 0)
  else if fraction < eighths 3 then pure (truncated, 1)
  else if fraction < eighths 5 then pure (truncated, 2)
  else if fraction < eighths 7 then pure (truncated, 3)
  else do
    let behind ← i32 overflowChecks (truncated + 1)
    return (behind, 0)

/-! ## The layout, glyph by glyph -/

def visitLine (baselineY : Int) (visitor : Visit → Fallible σ Stop Unit) :
    List (SourceGlyph G) → G → Fallible σ Stop Unit
  | [], _ => pure ()
  | source :: rest, x => do
    let (originX, bin) ← subpixelBin overflowChecks x
    visitor { originX := originX, baselineY := baselineY, bitmap := source.glyph.bitmaps bin }
    visitLine baselineY visitor rest (x + source.advance)

/-- Where a line begins: what it leaves of the width is on its right, on both
sides or on its left. -/
def lineStart (maxWidth width : G) (alignment : Renderer.Alignment) : G :=
  let remaining := maxWidth - width
  if 0 < remaining then
    match alignment with
    | .left => 0
    | .center => remaining / ((2 : Int) : G)
    | .right => remaining
  else 0

def visitLayout (glyphs : List (SourceGlyph G)) (lines : List (Line G)) (maxWidth fontSize : G)
    (firstBaseline : Int) (alignment : Renderer.Alignment) (visitor : Visit → Fallible σ Stop Unit) :
    Fallible σ Stop Unit :=
  lines.zipIdx.forM fun (line, lineIndex) => do
    let below ← i32 overflowChecks (lineIndex * asInt .i32 fontSize)
    let baselineY ← i32 overflowChecks (firstBaseline + below)
    visitLine overflowChecks baselineY visitor (slice glyphs line.start line.stop)
      (lineStart maxWidth line.width alignment)

end Arithmetic

/-! ## The two passes -/

variable {ε : Type} (overflowChecks : Bool)

/-- The visitor of the first pass. -/
def measure (visit : Visit) : Fallible (DrawState ε) Stop Unit :=
  if visit.bitmap.width = 0 then pure ()
  else do
    let top ← i32 overflowChecks (visit.baselineY + visit.bitmap.top)
    let below ← i32 overflowChecks (top + visit.bitmap.height.toNat)
    let bottom ← i32 overflowChecks (below - 1)
    Fallible.modify fun state => { state with minY := min state.minY top, maxY := max state.maxY bottom }

/-- What the second pass draws with. -/
structure Target (ε : Type) where
  bitmapData : List UInt8
  display : List (List Pixel) → Except ε Unit
  bounds : Rectangle
  color : BinaryColor

variable (target : Target ε)

/-- The pixel of a bit, if it is set. -/
def bitmapPixel {σ : Type} (verticalOffset : Int) (visit : Visit) (index : ℕ) :
    Fallible σ Stop (Option Pixel) := do
  let width := visit.bitmap.width.toNat
  if ← readBit target.bitmapData visit.bitmap.dataStart.toNat index then
    let left ← i32 overflowChecks (visit.originX + visit.bitmap.left)
    let x ← i32 overflowChecks (left + (index % width : ℕ))
    let baseline ← i32 overflowChecks (verticalOffset + visit.baselineY)
    let top ← i32 overflowChecks (baseline + visit.bitmap.top)
    let y ← i32 overflowChecks (top + (index / width : ℕ))
    let x ← i32 overflowChecks (target.bounds.topLeft.x + x)
    let y ← i32 overflowChecks (target.bounds.topLeft.y + y)
    return some { point := ⟨x, y⟩, color := target.color }
  else return none

def bitmapPixels {σ : Type} (verticalOffset : Int) (visit : Visit) : List ℕ → Fallible σ Stop (List Pixel)
  | [] => pure []
  | index :: rest => do
    let pixel ← bitmapPixel overflowChecks target verticalOffset visit index
    let pixels ← bitmapPixels verticalOffset visit rest
    return pixel.toList ++ pixels

/-- The visitor of the second pass, which stops drawing at the first error. -/
def emit (verticalOffset : Int) (visit : Visit) : Fallible (DrawState ε) Stop Unit := do
  let state ← Fallible.get
  match state.result with
  | .error _ => pure ()
  | .ok _ =>
    if visit.bitmap.width = 0 then pure ()
    else do
      let pixelCount := visit.bitmap.width.toNat * visit.bitmap.height.toNat
      let pixels ← bitmapPixels overflowChecks target verticalOffset visit (List.range pixelCount)
      Fallible.modify fun state =>
        { state with
          emitted := state.emitted ++ [pixels]
          result := target.display (state.emitted ++ [pixels]) }

variable {G : Type} [Zero G] [Add G] [Sub G] [Div G] [IntCast G] [LE G] [LT G] [DecidableLE G] [DecidableLT G]
  [AsInt G] [FloatSign G]

/-- Both passes over a layout. The height is converted with `as`. -/
def drawLayout (font : BitmapFont G) (glyphs : List (SourceGlyph G)) (lines : List (Line G)) (fontSize : G)
    (alignment : Renderer.Alignment) : Fallible (DrawState ε) Stop (Except ε Unit) := do
  let maxWidth := ((target.bounds.size.width : Int) : G)
  visitLayout overflowChecks glyphs lines maxWidth fontSize font.baseline alignment (measure overflowChecks)
  let measured ← Fallible.get
  if measured.minY = IntType.i32.greatest then return .ok ()
  let last ← i32 overflowChecks (IntType.i32.wrap target.bounds.size.height - 1)
  let room ← i32 overflowChecks (last - measured.minY)
  let room ← i32 overflowChecks (room - measured.maxY)
  visitLayout overflowChecks glyphs lines maxWidth fontSize font.baseline alignment
    (emit overflowChecks target (room.tdiv 2))
  return (← Fallible.get).result

/-- `draw`: nothing without a font of the size, or if the layout runs out of
room. -/
def draw (toBits : G → UInt32) (fonts : List (SizedFont G)) (text : List Char) (fontSize : G)
    (alignment : Renderer.Alignment) : Fallible (DrawState ε) Stop (Except ε Unit) :=
  match fonts.find? fun font => font.sizeBits == toBits fontSize with
  | none => pure (.ok ())
  | some font =>
    match layout text font.toBitmapFont ((target.bounds.size.width : Int) : G) with
    | none => pure (.ok ())
    | some (glyphs, lines) =>
      drawLayout overflowChecks target font.toBitmapFont glyphs.items lines.items fontSize alignment

end EnergyDisplay.Font

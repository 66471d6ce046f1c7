import EnergyDisplay.Formatting
import EnergyDisplay.Lib.Fallible
import EnergyDisplay.Lib.MachineInt
import EnergyDisplay.Model

/-! The renderer of `crates/dashboard-core/src/renderer.rs`, down to what it
asks `embedded-graphics` and the font renderer to draw.

`F` stands for `f64` and `G` for `f32`. A rendering records its drawings and the
integer arithmetic that leaves its type, which panics in a build with overflow
checks and wraps in one without. The guide loops may not end, so they are given
a number of iterations. -/
namespace EnergyDisplay

/-- `as` from a float to an integer type. -/
class AsInt (F : Type) where
  asInt : IntType → F → Int

/-- `as f32`. -/
class AsF32 (F G : Type) where
  asF32 : F → G

/-- `f64::max` and `FloatCore::round`. -/
class FloatCore (F : Type) where
  maximum : F → F → F
  round : F → F

namespace Renderer

/-! ## What is drawn -/

structure Point where
  x : Int
  y : Int
  deriving DecidableEq

structure Size where
  width : ℕ
  height : ℕ
  deriving DecidableEq

structure Rectangle where
  topLeft : Point
  size : Size
  deriving DecidableEq

inductive BinaryColor where
  | off
  | on
  deriving DecidableEq

inductive Alignment where
  | left
  | center
  | right
  deriving DecidableEq

structure PrimitiveStyle where
  strokeColor : Option BinaryColor
  strokeWidth : ℕ
  fillColor : Option BinaryColor
  deriving DecidableEq

inductive Drawing (G : Type) where
  | line (start stop : Point) (style : PrimitiveStyle)
  | rectangle (bounds : Rectangle) (style : PrimitiveStyle)
  | pixels (points : List Point) (color : BinaryColor)
  | text (text : List Char) (bounds : Rectangle) (color : BinaryColor) (fontSize : G) (alignment : Alignment)
  | icon (icon : Char) (bounds : Rectangle) (color : BinaryColor) (fontSize : G)
  deriving DecidableEq

instance : Add Point := ⟨fun first second => ⟨first.x + second.x, first.y + second.y⟩⟩

instance : Sub Point := ⟨fun first second => ⟨first.x - second.x, first.y - second.y⟩⟩

@[simp] theorem Point.add_x (first second : Point) : (first + second).x = first.x + second.x := rfl

@[simp] theorem Point.add_y (first second : Point) : (first + second).y = first.y + second.y := rfl

@[simp] theorem Point.sub_x (first second : Point) : (first - second).x = first.x - second.x := rfl

@[simp] theorem Point.sub_y (first second : Point) : (first - second).y = first.y - second.y := rfl

/-! ## Rendering as a program -/

/-- The integer arithmetic on values that come from outside. -/
inductive Arithmetic where
  | heatpumpPower
  | guide
  | barHeight
  | barTop
  deriving DecidableEq

inductive Event (G : Type) where
  | drawn (drawing : Drawing G)
  | overflowed (arithmetic : Arithmetic)
  deriving DecidableEq

inductive Stop where
  | panic
  | unfinished
  deriving DecidableEq

/-- How the code is built, and how often a loop may go round. -/
structure Execution where
  overflowChecks : Bool
  iterations : ℕ

/-- A program that adds to what has happened so far. -/
abbrev Draw (G : Type) := Fallible (List (Event G)) Stop

variable {F G : Type}

def draw (drawing : Drawing G) : Draw G Unit := Fallible.modify (· ++ [.drawn drawing])

def drawIf (condition : Prop) [Decidable condition] (program : Draw G Unit) : Draw G Unit :=
  if condition then program else pure ()

def arithmetic (execution : Execution) (site : Arithmetic) (type : IntType) (value : Int) : Draw G Int :=
  if type.Holds value then pure value
  else do
    Fallible.modify (· ++ [.overflowed site])
    if execution.overflowChecks then Fallible.throw .panic else pure (type.wrap value)

/-! ## Layout of the screen -/

def width : ℕ := 400

def height : ℕ := 300

def black : BinaryColor := .off

def white : BinaryColor := .on

def marginHorizontal : Int := 1

def marginVertical : Int := 1

def padding : ℕ := 7

def rowHeight : ℕ := 75

def headerHeight : ℕ := 25

section FontSizes

variable [Div G] [IntCast G]

def fontSizeMain : G := (43 : Int)

def fontSizeIcon : G := (45 : Int)

def fontSizeSplit : G := (32 : Int)

def fontSizeBattery : G := (29 : Int)

def fontSizeSubtext : G := (23 : Int)

def fontSizeStatus : G := (18 : Int)

/-- A third less than `FONT_SIZE_SPLIT`: 1.5 is three halves. -/
def fontSizeBackupIcon : G := fontSizeSplit / ((3 : Int) / (2 : Int))

end FontSizes

def iconBackupHeater : Char := Char.ofNat 0xf139d

def iconElectricity : Char := Char.ofNat 0xf140b

def iconHeating : Char := Char.ofNat 0xf1aaf

def iconShower : Char := Char.ofNat 0xf09a0

def iconSolar : Char := Char.ofNat 0xf1a74

def rectangle (x y : Int) (width height : ℕ) : Rectangle := ⟨⟨x, y⟩, ⟨width, height⟩⟩

/-! ## Primitives -/

def withStroke (color : BinaryColor) (width : ℕ) : PrimitiveStyle := ⟨some color, width, none⟩

def withFill (color : BinaryColor) : PrimitiveStyle := ⟨none, 0, some color⟩

def drawText (text : Formatting.DisplayString) (bounds : Rectangle) (color : BinaryColor) (fontSize : G)
    (alignment : Alignment) : Draw G Unit :=
  draw (.text text.items bounds color fontSize alignment)

def drawIcon (icon : Char) (bounds : Rectangle) (color : BinaryColor) (fontSize : G) : Draw G Unit :=
  draw (.icon icon bounds color fontSize)

def drawRectangle (bounds : Rectangle) (stroke : BinaryColor) (fill : Option BinaryColor) : Draw G Unit :=
  draw (.rectangle bounds ⟨some stroke, 1, fill⟩)

def drawHorizontalSeparator (bounds : Rectangle) (atTop : Bool) : Draw G Unit :=
  let y := if atTop then bounds.topLeft.y else bounds.topLeft.y + bounds.size.height - 1
  draw (.line ⟨bounds.topLeft.x, y⟩ ⟨bounds.topLeft.x + bounds.size.width - 1, y⟩ (withStroke black 1))

/-- Every third pixel of a line. -/
def drawDottedLine (start : Point) (width : ℕ) : Draw G Unit :=
  draw (.pixels ((List.range ((width + 2) / 3)).map fun index => ⟨start.x + 3 * index, start.y⟩) black)

/-- A value over a smaller text. -/
def drawTextWithSubtext [IntCast G] (bounds : Rectangle) (text subtext : Formatting.DisplayString)
    (foreground background : BinaryColor) : Draw G Unit := do
  drawIf (background = black) (drawRectangle bounds black (some black))
  drawText text ⟨bounds.topLeft, ⟨bounds.size.width, 45⟩⟩ foreground fontSizeMain .center
  drawText subtext
    ⟨⟨bounds.topLeft.x, bounds.topLeft.y + 44⟩, ⟨bounds.size.width, bounds.size.height - 45⟩⟩
    foreground fontSizeSubtext .center

def drawTemperatureWithSubtext [IntCast G] (bounds : Rectangle) (text subtext : Formatting.DisplayString)
    (foreground background : BinaryColor) : Draw G Unit :=
  drawTextWithSubtext bounds text subtext foreground background

variable [Zero F] [Add F] [Mul F] [Div F] [IntCast F] [LT F] [DecidableLT F] [AsInt F] [FloatCore F]
  [FloatText F] [Mul G] [Div G] [IntCast G] [AsInt G] [AsF32 F G]

open AsInt AsF32

/-! ## The rows of numbers -/

def drawGridFlow (bounds : Rectangle) (status : EnergyStatus F) : Draw G Unit := do
  drawText (Formatting.wattsInOut status.grid.powerImport status.grid.powerExport)
    ⟨bounds.topLeft, ⟨bounds.size.width, 45⟩⟩ black fontSizeMain .center
  drawText (Formatting.kilowattHoursInOut status.grid.powerImportToday status.grid.powerExportToday)
    ⟨⟨bounds.topLeft.x, bounds.topLeft.y + 44⟩, ⟨bounds.size.width, bounds.size.height - 45⟩⟩
    black fontSizeSubtext .center

/-- The solar power of house and garage, or their sum, over today's energy. -/
def drawSolar (splitSolarProduction : Bool) (solarInfo : Rectangle) (status : EnergyStatus F) : Draw G Unit :=
  if splitSolarProduction then do
    drawText (Formatting.kilowattsValue status.solarCurrentHome) (rectangle 277 1 62 50) black
      fontSizeSplit .center
    drawText (Formatting.kilowattsValue status.solarCurrentGarage) (rectangle 333 1 62 50) black
      fontSizeSplit .center
    drawText (Formatting.kilowattHoursValue status.solarToday) (rectangle 274 50 124 25) black
      fontSizeSubtext .center
  else
    drawTextWithSubtext solarInfo (Formatting.wattsValue status.solarCurrent)
      (Formatting.kilowattHoursValue status.solarToday) black white

def renderEnergyRow (splitSolarProduction : Bool) (bounds : Rectangle) (status : EnergyStatus F) :
    Draw G Unit := do
  let iconWidth := bounds.size.height
  let infoWidth := (bounds.size.width - iconWidth * 2) / 2
  let gridIcon : Rectangle := ⟨bounds.topLeft, ⟨iconWidth, bounds.size.height⟩⟩
  let gridInfo := rectangle 75 1 infoWidth bounds.size.height
  let solarIcon := rectangle 200 1 iconWidth bounds.size.height
  let solarInfo := rectangle 274 1 infoWidth bounds.size.height
  drawRectangle gridIcon black (some black)
  drawIcon iconElectricity gridIcon white fontSizeIcon
  drawGridFlow gridInfo status
  drawRectangle solarIcon black (some black)
  drawIcon iconSolar solarIcon white fontSizeIcon
  drawSolar splitSolarProduction solarInfo status
  drawHorizontalSeparator bounds false

/-- How many segments of the battery are filled. -/
def batterySegments (percentage : F) : ℕ :=
  let percentage := asInt .u32 percentage
  if percentage ≤ 10 then 0 else if percentage ≤ 40 then 1 else if percentage ≤ 60 then 2
  else if percentage ≤ 80 then 3 else 4

def drawBatteryIcon (bounds : Rectangle) (percentage : F) : Draw G Unit := do
  drawRectangle bounds black (some black)
  draw (.rectangle (rectangle 7 87 23 13) (withStroke white 2))
  draw (.rectangle (rectangle 30 91 3 5) (withFill white))
  (List.range (batterySegments percentage)).forM fun segment =>
    draw (.rectangle (rectangle (10 + segment * 5) 90 3 7) (withFill white))

def renderBatteryRow (bounds : Rectangle) (status : EnergyStatus F) : Draw G Unit := do
  drawBatteryIcon (rectangle 1 75 37 37) status.batteryPercentage
  drawText (Formatting.percentage status.batteryPercentage) (rectangle 37 75 120 37) black
    fontSizeBattery .center
  drawText (Formatting.batteryPower status.batteryChargeCurrent status.batteryDischargeCurrent)
    (rectangle 157 75 120 37) black fontSizeBattery .center
  drawText (Formatting.batteryEnergy status.batteryDischargeEnergyToday) (rectangle 277 75 120 37) black
    fontSizeBattery .center
  drawHorizontalSeparator bounds false

def renderStatusBar (bounds : Rectangle) (now : Option LocalDateTime) : Draw G Unit := do
  let inset : Rectangle := ⟨⟨8, bounds.topLeft.y⟩, ⟨384, bounds.size.height⟩⟩
  let date := now.map fun now => Formatting.date now.year now.month now.day now.weekday
  let time := now.map fun now => Formatting.time now.hour now.minute
  draw (.text (date.elim "Waiting for time".toList (·.items)) inset black fontSizeStatus .left)
  draw (.text (time.elim "--:--".toList (·.items)) inset black fontSizeStatus .right)

structure BoxColors where
  foreground : BinaryColor
  background : BinaryColor

def highlighted (highlight : Bool) : BoxColors := if highlight then ⟨white, black⟩ else ⟨black, white⟩

def renderHeatpumpRow (execution : Execution) (bounds : Rectangle) (status : EnergyStatus F) :
    Draw G Unit := do
  let right := rectangle 286 223 113 75
  let leftColors := highlighted status.heatpumpRecommend
  drawTemperatureWithSubtext (rectangle 1 223 113 75)
    (Formatting.temperature (FloatCore.round status.outdoorSensor.temperature))
    (Formatting.humidity (FloatCore.round status.outdoorSensor.humidity))
    leftColors.foreground leftColors.background
  drawRectangle (rectangle 114 223 172 75) black (some black)
  let power ← arithmetic execution .heatpumpPower .i32 (status.heatpumpPower + status.heatpumpPowerBuh)
  drawText (Formatting.watts (power : F)) (rectangle 114 223 172 38) white fontSizeSplit .center
  drawText (Formatting.cop status.heatpumpCop) (rectangle 114 260 172 38) white fontSizeSplit .center
  drawIf (0 < status.heatpumpPowerBuh)
    (drawIcon iconBackupHeater (rectangle 114 230 32 32) white fontSizeBackupIcon)
  let rightColors := highlighted status.heatpumpForce
  drawIf (rightColors.background = black) (drawRectangle right black (some black))
  drawIcon iconHeating (rectangle 293 223 32 38) rightColors.foreground fontSizeSplit
  drawIcon iconShower (rectangle 293 260 32 38) rightColors.foreground fontSizeSplit
  drawText (Formatting.temperature (FloatCore.round status.heatpumpData.indoorTemperature))
    (rectangle 318 223 81 38) rightColors.foreground fontSizeSplit .center
  drawText (Formatting.temperature (FloatCore.round status.heatpumpData.dhwTemperature))
    (rectangle 318 260 81 38) rightColors.foreground fontSizeSplit .center
  drawHorizontalSeparator bounds true

/-! ## The graph -/

/-- The most that goes to and from the grid in an hour, at least 1000. -/
def maxPositive (status : EnergyStatus F) : F :=
  (List.finRange 24).foldl (fun most hour =>
    FloatCore.maximum most (status.gridExportHourly.values hour + status.gridImportHourly.values hour))
    ((1000 : Int) : F)

/-- The most the sun gives in an hour, at least 1000. -/
def maxNegative (status : EnergyStatus F) : F :=
  (List.finRange 24).foldl (fun most hour =>
    FloatCore.maximum most (status.solarProductionHourly.values hour)) ((1000 : Int) : F)

/-- What the bars and guides of a graph are scaled by. -/
structure GraphScale (F : Type) where
  maxPositive : F
  maxNegative : F
  positiveHeight : Int
  negativeHeight : Int
  axisLeft : Point
  graphWidth : ℕ

variable (G) in
def graphScale (bounds : Rectangle) (status : EnergyStatus F) : GraphScale F :=
  let maxPositive := maxPositive status
  let maxNegative := maxNegative status
  let graphHeight := bounds.size.height - padding * 2
  let total := maxPositive + maxNegative
  let share (part : F) : Int := asInt .u32 (((graphHeight : Int) : G) * (asF32 part / asF32 total))
  { maxPositive := maxPositive
    maxNegative := maxNegative
    positiveHeight := share maxPositive
    negativeHeight := share maxNegative
    axisLeft := bounds.topLeft + ⟨0, (padding : Int) + IntType.i32.wrap (share maxPositive)⟩
    graphWidth := bounds.size.width - 1 }

/-- A guide every 2000 from `guide` on, as long as it is below `most`. -/
def guides (execution : Execution) (most : Int) (drawGuide : Int → Draw G Unit) : ℕ → Int → Draw G Unit
  | 0, _ => Fallible.throw .unfinished
  | iterations + 1, guide =>
    if guide < most then do
      drawGuide guide
      let guide ← arithmetic execution .guide .i64 (guide + 2000)
      guides execution most drawGuide iterations guide
    else pure ()

/-- How far a guide is from the axis. -/
def guideOffset (guide : Int) (most : F) (height : Int) : Point :=
  ⟨0, asInt .i32 ((guide : F) / most * (height : F))⟩

def drawGuides (execution : Execution) (scale : GraphScale F) : Draw G Unit := do
  guides execution (asInt .i64 scale.maxNegative)
    (fun guide => drawDottedLine
      (scale.axisLeft + guideOffset guide scale.maxNegative scale.negativeHeight) scale.graphWidth)
    execution.iterations 2000
  guides execution (asInt .i64 scale.maxPositive)
    (fun guide => drawDottedLine
      (scale.axisLeft - guideOffset guide scale.maxPositive scale.positiveHeight) scale.graphWidth)
    execution.iterations 2000

/-- The height of the bar for a value. -/
def barHeight (value most : F) (height : Int) : Int := asInt .u32 (value / most * (height : F))

/-- The top row of a bar that ends `height` rows above the axis. -/
def barTop (execution : Execution) (scale : GraphScale F) (height : Int) : Draw G Int :=
  arithmetic execution .barTop .i32 (scale.axisLeft.y + 1 - IntType.i32.wrap height)

def barWidth (bounds : Rectangle) : ℕ := (bounds.size.width - 25) / 24

def barLeft (bounds : Rectangle) (hour : Fin 24) : Int :=
  let xOffset := (bounds.size.width - 25 - barWidth bounds * 24) / 2
  xOffset + bounds.topLeft.x + 2 + hour * (barWidth bounds + 1)

def drawHour (execution : Execution) (bounds : Rectangle) (status : EnergyStatus F) (scale : GraphScale F)
    (hour : Fin 24) : Draw G Unit := do
  let x := barLeft bounds hour
  let solar := status.solarProductionHourly.values hour
  let import_ := status.gridImportHourly.values hour
  let export_ := status.gridExportHourly.values hour
  let solarHeight := barHeight solar scale.maxNegative scale.negativeHeight
  drawIf (0 < solarHeight)
    (drawRectangle ⟨⟨x, scale.axisLeft.y⟩, ⟨barWidth bounds, solarHeight.toNat⟩⟩ black (some black))
  let exportHeight := if 0 < export_ then barHeight export_ scale.maxPositive scale.positiveHeight else 0
  drawIf (0 < exportHeight) do
    let top ← barTop execution scale exportHeight
    drawRectangle ⟨⟨x, top⟩, ⟨barWidth bounds, exportHeight.toNat⟩⟩ black (some white)
  drawIf (0 < import_) do
    let importHeight := barHeight import_ scale.maxPositive scale.positiveHeight
    drawIf (0 < importHeight) do
      let stacked ← arithmetic execution .barHeight .u32 (importHeight + exportHeight)
      let top ← barTop execution scale stacked
      drawRectangle ⟨⟨x, top⟩, ⟨barWidth bounds, importHeight.toNat⟩⟩ black (some black)

def renderGraph (execution : Execution) (bounds : Rectangle) (status : EnergyStatus F) : Draw G Unit := do
  let scale := graphScale G bounds status
  draw (.line scale.axisLeft (scale.axisLeft + ⟨scale.graphWidth, 0⟩) (withStroke black 1))
  drawGuides execution scale
  (List.finRange 24).forM (drawHour execution bounds status scale)

/-! ## The dashboard -/

def screenWidth : ℕ := (width - marginHorizontal - marginHorizontal).toNat

def energyBounds : Rectangle := rectangle marginHorizontal marginVertical screenWidth rowHeight

def batteryBounds : Rectangle := rectangle marginHorizontal 75 screenWidth (rowHeight / 2)

def statusBounds : Rectangle :=
  rectangle marginHorizontal (height - marginVertical - rowHeight - headerHeight) screenWidth headerHeight

def heatpumpBounds : Rectangle := rectangle marginHorizontal 223 screenWidth rowHeight

def graphBounds : Rectangle := rectangle marginHorizontal 111 screenWidth 88

def render (execution : Execution) (splitSolarProduction : Bool) (status : EnergyStatus F)
    (now : Option LocalDateTime) : Draw G Unit := do
  renderEnergyRow splitSolarProduction energyBounds status
  renderBatteryRow batteryBounds status
  renderGraph execution graphBounds status
  renderStatusBar statusBounds now
  renderHeatpumpRow execution heatpumpBounds status

end Renderer

end EnergyDisplay

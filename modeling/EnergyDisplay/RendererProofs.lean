import EnergyDisplay.FontTables
import EnergyDisplay.Lib.Emits
import EnergyDisplay.Renderer

/-! What the parts of a rendering draw. Every formatter writes characters of the
generated repertoire, on every branch and for every float, so every row but the
graph draws what can be shown; and the guide loop comes to an end, without
leaving its type, if the last guide it may reach is below the end of the type. -/
namespace EnergyDisplay

namespace Formatting

open Font (textChars)
open FloatText

/-! ## Characters of the formatters -/

theorem formatted_items (pieces : List (List Char)) :
    (formatted pieces).items = if utf8Len pieces.flatten ≤ 48 then pieces.flatten else "??".toList := by
  unfold formatted
  by_cases fits : utf8Len pieces.flatten ≤ 48
  · obtain ⟨whole, items⟩ : (HeaplessString.writePieces .empty pieces).2 = true ∧
        (HeaplessString.writePieces .empty pieces : DisplayString × Bool).1.items = [] ++ pieces.flatten :=
      HeaplessString.writePieces_fits (by simpa using fits)
    rw [if_pos fits]
    split
    case h_1 outcome => simpa [outcome] using items
    case h_2 outcome => simp [outcome] at whole
  · obtain ⟨cut, _⟩ : (HeaplessString.writePieces .empty pieces : DisplayString × Bool).2 = false ∧ _ :=
      HeaplessString.writePieces_cut (by simpa using fits)
    rw [if_neg fits]
    split
    case h_1 outcome => simp [outcome] at cut
    case h_2 => rfl

theorem formatted_subset {pieces : List (List Char)} (each : ∀ piece ∈ pieces, piece ⊆ textChars) :
    (formatted pieces).items ⊆ textChars := by
  rw [formatted_items]
  split
  · intro character inside
    obtain ⟨piece, member, inside⟩ := List.mem_flatten.mp inside
    exact each piece member inside
  · decide

theorem floatChars_subset : floatChars ⊆ textChars := by decide

theorem padded_subset (width : ℕ) {fill : Char} (known : fill ∈ textChars) (number : ℕ) :
    padded width fill number ⊆ textChars := fun _ inside =>
  (mem_padded inside).elim (· ▸ known) fun digit => floatChars_subset digit

section Floats

variable {F : Type} [FloatText F]

theorem fixed_subset (places : ℕ) (value : F) : fixed places value ⊆ textChars := fun character inside =>
  floatChars_subset (fixed_chars places value character inside)

theorem display_subset (value : F) : display value ⊆ textChars := fun character inside =>
  floatChars_subset (display_chars value character inside)

theorem kilowattHoursValue_subset (value : F) : (kilowattHoursValue value).items ⊆ textChars :=
  formatted_subset (by simp [fixed_subset])

theorem kilowattHoursInOut_subset (valueIn valueOut : F) :
    (kilowattHoursInOut valueIn valueOut).items ⊆ textChars :=
  formatted_subset (by simp +decide [fixed_subset])

theorem batteryEnergy_subset (value : F) : (batteryEnergy value).items ⊆ textChars :=
  formatted_subset (by simp +decide [display_subset])

theorem percentage_subset (value : F) : (percentage value).items ⊆ textChars :=
  formatted_subset (by simp +decide [fixed_subset])

theorem humidity_subset (value : F) : (humidity value).items ⊆ textChars :=
  formatted_subset (by simp +decide [display_subset])

theorem cop_subset (value : F) : (cop value).items ⊆ textChars :=
  formatted_subset (by simp +decide [fixed_subset])

variable [IntCast F] [LT F] [DecidableLT F]

theorem temperature_subset (value : F) : (temperature value).items ⊆ textChars := by
  unfold temperature
  split
  · decide
  · exact formatted_subset (by simp +decide [display_subset])

variable [Div F]

omit [LT F] [DecidableLT F] in
theorem kilowattsValue_subset (value : F) : (kilowattsValue value).items ⊆ textChars :=
  formatted_subset (by simp [fixed_subset])

theorem watts_subset (value : F) : (watts value).items ⊆ textChars := by
  unfold watts
  split <;> exact formatted_subset (by simp +decide [fixed_subset])

theorem wattsValue_subset (value : F) : (wattsValue value).items ⊆ textChars := by
  unfold wattsValue
  split <;> exact formatted_subset (by simp [fixed_subset])

theorem powerWithUnit_subset (value : F) : (powerWithUnit value).items ⊆ textChars := by
  unfold powerWithUnit
  split <;> exact formatted_subset (by simp +decide [fixed_subset])

variable [Zero F]

theorem wattsInOut_subset (valueIn valueOut : F) : (wattsInOut valueIn valueOut).items ⊆ textChars := by
  have direction : (if 0 < valueIn then "↓".toList else if 0 < valueOut then "↑".toList else []) ⊆ textChars := by
    split_ifs <;> decide
  dsimp only [wattsInOut]
  generalize (if 0 < valueIn then "↓".toList else if 0 < valueOut then "↑".toList else []) = text at direction ⊢
  generalize (if 0 < valueOut then valueOut else valueIn) = value
  split <;> exact formatted_subset (by simp +decide [fixed_subset, direction])

theorem batteryPower_subset (valueIn valueOut : F) : (batteryPower valueIn valueOut).items ⊆ textChars := by
  have direction : (if 0 < valueIn then "↓ ".toList else if 0 < valueOut then "↑ ".toList else " ".toList) ⊆
      textChars := by
    split_ifs <;> decide
  have output := formatted_subset (List.forall_mem_singleton.mpr direction)
  simp only [batteryPower]
  -- The power may be refused behind its direction.
  cases pushed : HeaplessString.pushStr (formatted [_]) _ with
  | none => exact output
  | some longer =>
    rw [Option.getD_some, Heapless.extend_items pushed]
    exact List.append_subset.mpr ⟨output, powerWithUnit_subset _⟩

end Floats

theorem date_subset (year : Int) (month day weekday : ℕ) : (date year month day weekday).items ⊆ textChars := by
  have named : ∀ names : List String, (∀ name ∈ names, name.toList ⊆ textChars) → ∀ (name : Option String)
      (other : String), (∀ known, name = some known → known ∈ names) → other.toList ⊆ textChars →
      (name.getD other).toList ⊆ textChars := by
    intro names all name other known unknown
    cases name with
    | none => exact unknown
    | some name => exact all name (known name rfl)
  have weekday_ := named weekdays (by decide) weekdays[weekday]? "??"
    (fun _ found => List.mem_of_getElem? found) (by decide)
  have month_ := named months (by decide) (if month = 0 then none else months[month - 1]?) "???"
    (by
      intro known found
      split at found
      · cases found
      · exact List.mem_of_getElem? found)
    (by decide)
  have day_ := padded_subset 2 (show ' ' ∈ textChars by decide) day
  exact formatted_subset (by simp +decide [day_, weekday_, month_])

theorem time_subset (hour minute : ℕ) : (time hour minute).items ⊆ textChars :=
  have digits := padded_subset 2 (show '0' ∈ textChars by decide)
  formatted_subset (by simp +decide [digits])

end Formatting

namespace Renderer

open Fallible
open Font (textChars textSizes maxLayoutGlyphs)

variable {F G : Type}

/-! ## Steps of a rendering -/

section Steps

variable {event : Event G → Prop} {stopped : Stop → Prop} {execution : Execution} {site : Arithmetic}
  {type : IntType} {value : Int}

theorem emits_draw {drawing : Drawing G} (allowed : event (.drawn drawing)) : Emits event stopped (draw drawing) :=
  emits_append (by simpa using allowed)

theorem arithmetic_of_holds (holds : type.Holds value) :
    (arithmetic execution site type value : Draw G Int) = pure value := if_pos holds

theorem emits_arithmetic (allowed : event (.overflowed site)) (panics : stopped .panic) :
    Emits event stopped (arithmetic execution site type value : Draw G Int) := by
  refine Emits.ite (fun _ => emits_pure _) fun _ => ?_
  exact (emits_append (by simpa using allowed)).bind fun _ =>
    Emits.ite (fun _ => emits_throw panics) fun _ => emits_pure _

/-- Without overflow checks arithmetic goes on. -/
theorem arithmetic_unchecked (unchecked : execution.overflowChecks = false) (outside : ¬ type.Holds value) :
    (arithmetic execution site type value : Draw G Int) = (do
      modify (· ++ [.overflowed site])
      pure (type.wrap value)) := by
  simp [arithmetic, outside, unchecked]

theorem emits_arithmetic_unchecked (unchecked : execution.overflowChecks = false)
    (allowed : event (.overflowed site)) :
    Emits event stopped (arithmetic execution site type value : Draw G Int) := by
  by_cases holds : type.Holds value
  · rw [arithmetic_of_holds holds]
    exact emits_pure _
  · rw [arithmetic_unchecked unchecked holds]
    exact Emits.bind (emits_append (by simpa using allowed)) fun _ => emits_pure _

theorem arithmetic_reports {tolerated : Stop → Prop} (outside : ¬ type.Holds value) :
    Reports (.overflowed site) tolerated (arithmetic execution site type value : Draw G Int) := by
  intro before
  rw [arithmetic, if_neg outside, ends_bind, ends_modify, ends_ite]
  exact ⟨fun _ => Or.inr (by simp), fun _ => by simp⟩

end Steps

/-! ## Rows -/

/-- A text of the repertoire, in a size there is a font for. -/
def Drawing.Printable [IntCast G] : Drawing G → Prop
  | .text shown _ _ fontSize _ =>
    shown ⊆ textChars ∧ shown.length ≤ maxLayoutGlyphs ∧ fontSize ∈ (textSizes : List G)
  | _ => True

section Rows

variable {event : Event G → Prop} {stopped : Stop → Prop}

theorem emits_drawIf {condition : Prop} [Decidable condition] {program : Draw G Unit}
    (emits : Emits event stopped program) : Emits event stopped (drawIf condition program) :=
  Emits.ite (fun _ => emits) fun _ => emits_pure _

variable [IntCast G] (prints : ∀ drawing : Drawing G, drawing.Printable → event (.drawn drawing))

include prints

theorem emits_drawText {text : Formatting.DisplayString} {fontSize : G} {bounds : Rectangle}
    {color : BinaryColor} {alignment : Alignment} (known : text.items ⊆ textChars)
    (sized : fontSize ∈ (textSizes : List G)) :
    Emits event stopped (drawText text bounds color fontSize alignment) := by
  have bound : text.items.length ≤ 48 := (length_le_utf8Len text.items).trans text.bounded
  exact emits_draw (prints _ ⟨known, bound.trans (show 48 ≤ 64 by decide), sized⟩)

theorem emits_shape {drawing : Drawing G} (noText : drawing.Printable) : Emits event stopped (draw drawing) :=
  emits_draw (prints drawing noText)

theorem drawDottedLine_emits {start : Point} {width : ℕ} : Emits event stopped (drawDottedLine start width) :=
  emits_shape prints trivial

theorem drawTextWithSubtext_emits {bounds : Rectangle} {text subtext : Formatting.DisplayString}
    {foreground background : BinaryColor} (known : text.items ⊆ textChars) (knownSub : subtext.items ⊆ textChars) :
    Emits event stopped (drawTextWithSubtext bounds text subtext foreground background) := by
  refine Emits.bind (emits_drawIf (emits_shape prints trivial)) fun _ => ?_
  refine Emits.bind (emits_drawText prints known (by simp [textSizes, fontSizeMain])) fun _ => ?_
  exact emits_drawText prints knownSub (by simp [textSizes, fontSizeSubtext])

theorem renderStatusBar_emits {bounds : Rectangle} {now : Option LocalDateTime} :
    Emits event stopped (renderStatusBar bounds now) := by
  have sized : fontSizeStatus ∈ (textSizes : List G) := by simp [textSizes, fontSizeStatus]
  cases now with
  | none =>
    exact Emits.bind (emits_draw (prints _ ⟨by decide, by decide, sized⟩)) fun _ =>
      emits_draw (prints _ ⟨by decide, by decide, sized⟩)
  | some now =>
    exact Emits.bind (emits_drawText prints (Formatting.date_subset _ _ _ _) sized) fun _ =>
      emits_drawText prints (Formatting.time_subset _ _) sized

variable {F : Type} {bounds : Rectangle} {status : EnergyStatus F}

theorem drawBatteryIcon_emits [AsInt F] {percentage : F} :
    Emits event stopped (drawBatteryIcon bounds percentage) := by
  unfold drawBatteryIcon
  refine Emits.bind (emits_shape prints trivial) fun _ => ?_
  refine Emits.bind (emits_shape prints trivial) fun _ => ?_
  refine Emits.bind (emits_shape prints trivial) fun _ => ?_
  exact emits_forM fun segment _ => emits_shape prints trivial

variable [FloatText F] [IntCast F] [LT F] [DecidableLT F] [Div F]

theorem drawSolar_emits {split : Bool} : Emits event stopped (drawSolar split bounds status) := by
  have sized : fontSizeSplit ∈ (textSizes : List G) := by simp [textSizes, fontSizeSplit]
  have subtext : fontSizeSubtext ∈ (textSizes : List G) := by simp [textSizes, fontSizeSubtext]
  refine Emits.ite (fun _ => ?_) fun _ => ?_
  · refine Emits.bind (emits_drawText prints (Formatting.kilowattsValue_subset _) sized) fun _ => ?_
    refine Emits.bind (emits_drawText prints (Formatting.kilowattsValue_subset _) sized) fun _ => ?_
    exact emits_drawText prints (Formatting.kilowattHoursValue_subset _) subtext
  · exact drawTextWithSubtext_emits prints (Formatting.wattsValue_subset _) (Formatting.kilowattHoursValue_subset _)

variable (stopped bounds status) in
/-- The sum of the powers stands between drawings. -/
theorem renderHeatpumpRow_parts [FloatCore F] [Div G] (execution : Execution) :
    ∃ (sensor frame : Draw G Unit) (values : Int → Draw G Unit),
      renderHeatpumpRow execution bounds status = (do
        sensor
        frame
        let power ← arithmetic execution .heatpumpPower .i32 (status.heatpumpPower + status.heatpumpPowerBuh)
        values power) ∧
      Emits event stopped sensor ∧ Emits event stopped frame ∧ ∀ power, Emits event stopped (values power) := by
  have sized : fontSizeSplit ∈ (textSizes : List G) := by simp [textSizes, fontSizeSplit]
  refine ⟨_, _, _, rfl, drawTextWithSubtext_emits prints (Formatting.temperature_subset _)
    (Formatting.humidity_subset _), emits_shape prints trivial, fun power => ?_⟩
  refine Emits.bind (emits_drawText prints (Formatting.watts_subset _) sized) fun _ => ?_
  refine Emits.bind (emits_drawText prints (Formatting.cop_subset _) sized) fun _ => ?_
  refine Emits.bind (emits_drawIf (emits_shape prints trivial)) fun _ => ?_
  refine Emits.bind (emits_drawIf (emits_shape prints trivial)) fun _ => ?_
  refine Emits.bind (emits_shape prints trivial) fun _ => ?_
  refine Emits.bind (emits_shape prints trivial) fun _ => ?_
  refine Emits.bind (emits_drawText prints (Formatting.temperature_subset _) sized) fun _ => ?_
  refine Emits.bind (emits_drawText prints (Formatting.temperature_subset _) sized) fun _ => ?_
  exact emits_shape prints trivial

/-- The sum of the powers is in range, or allowed to leave it. -/
theorem renderHeatpumpRow_emits [FloatCore F] [Div G] {execution : Execution}
    (sum : Emits event stopped (arithmetic execution .heatpumpPower .i32
      (status.heatpumpPower + status.heatpumpPowerBuh) : Draw G Int)) :
    Emits event stopped (renderHeatpumpRow execution bounds status) := by
  obtain ⟨sensor, frame, values, parts, sensors, frames, rest⟩ :=
    renderHeatpumpRow_parts stopped prints bounds status execution
  rw [parts]
  exact Emits.bind sensors fun _ => Emits.bind frames fun _ => Emits.bind sum rest

variable [Zero F]

theorem drawGridFlow_emits : Emits event stopped (drawGridFlow bounds status) :=
  Emits.bind (emits_drawText prints (Formatting.wattsInOut_subset _ _) (by simp [textSizes, fontSizeMain])) fun _ =>
    emits_drawText prints (Formatting.kilowattHoursInOut_subset _ _) (by simp [textSizes, fontSizeSubtext])

theorem renderEnergyRow_emits {split : Bool} : Emits event stopped (renderEnergyRow split bounds status) := by
  unfold renderEnergyRow
  refine Emits.bind (emits_shape prints trivial) fun _ => ?_
  refine Emits.bind (emits_shape prints trivial) fun _ => ?_
  refine Emits.bind (drawGridFlow_emits prints) fun _ => ?_
  refine Emits.bind (emits_shape prints trivial) fun _ => ?_
  refine Emits.bind (emits_shape prints trivial) fun _ => ?_
  exact Emits.bind (drawSolar_emits prints) fun _ => emits_shape prints trivial

theorem renderBatteryRow_emits [AsInt F] : Emits event stopped (renderBatteryRow bounds status) := by
  have sized : fontSizeBattery ∈ (textSizes : List G) := by simp [textSizes, fontSizeBattery]
  unfold renderBatteryRow
  refine Emits.bind (drawBatteryIcon_emits prints) fun _ => ?_
  refine Emits.bind (emits_drawText prints (Formatting.percentage_subset _) sized) fun _ => ?_
  refine Emits.bind (emits_drawText prints (Formatting.batteryPower_subset _ _) sized) fun _ => ?_
  exact Emits.bind (emits_drawText prints (Formatting.batteryEnergy_subset _) sized) fun _ =>
    emits_shape prints trivial

/-! ## The graph -/

variable [Add F] [Mul F] [AsInt F] [FloatCore F] [Mul G] [Div G] [AsInt G] [AsF32 F G] {execution : Execution}

omit [FloatText F] [Add F] [FloatCore F] [Mul G] [Div G] [AsInt G] [AsF32 F G] in
/-- A bar on another one adds up the two heights, if there is anything to import. -/
theorem drawHour_emits {scale : GraphScale F} {hour : Fin 24}
    (tops : ∀ value, Emits event stopped (arithmetic execution .barTop .i32 value : Draw G Int))
    (stacked : 0 < status.gridImportHourly.values hour →
      Emits event stopped (arithmetic execution .barHeight .u32
        (barHeight (status.gridImportHourly.values hour) scale.maxPositive scale.positiveHeight +
          if 0 < status.gridExportHourly.values hour then
            barHeight (status.gridExportHourly.values hour) scale.maxPositive scale.positiveHeight
          else 0) : Draw G Int)) :
    Emits event stopped (drawHour execution bounds status scale hour) := by
  unfold drawHour
  refine Emits.bind (emits_drawIf (emits_shape prints trivial)) fun _ => ?_
  refine Emits.bind (emits_drawIf (Emits.bind (tops _) fun top => emits_shape prints trivial)) fun _ => ?_
  refine Emits.ite (fun imports => emits_drawIf ?_) fun _ => emits_pure _
  exact Emits.bind (stacked imports) fun total =>
    Emits.bind (tops _) fun top => emits_shape prints trivial

omit [FloatText F] in
theorem renderGraph_emits
    (guided : Emits event stopped (drawGuides execution (graphScale G bounds status) : Draw G Unit))
    (hours : ∀ hour, Emits event stopped (drawHour execution bounds status (graphScale G bounds status) hour)) :
    Emits event stopped (renderGraph execution bounds status : Draw G Unit) := by
  unfold renderGraph
  refine Emits.bind (emits_shape prints trivial) fun _ => ?_
  exact Emits.bind guided fun _ => emits_forM fun hour _ => hours hour

/-- A dashboard prints as long as its graph does. -/
theorem render_emits {split : Bool} {now : Option LocalDateTime}
    (graph : Emits event stopped (renderGraph execution graphBounds status : Draw G Unit))
    (sum : Emits event stopped (arithmetic execution .heatpumpPower .i32
      (status.heatpumpPower + status.heatpumpPowerBuh) : Draw G Int)) :
    Emits event stopped (render execution split status now) := by
  unfold render
  refine Emits.bind (renderEnergyRow_emits prints) fun _ => ?_
  refine Emits.bind (renderBatteryRow_emits prints) fun _ => ?_
  refine Emits.bind graph fun _ => ?_
  refine Emits.bind (renderStatusBar_emits prints) fun _ => ?_
  exact renderHeatpumpRow_emits prints sum

end Rows

/-! ## Guides -/

section Guides

/-- The last guide that an `i64` can hold. -/
def lastGuide : Int := 9223372036854774000

variable {event : Event G → Prop} {stopped : Stop → Prop} {execution : Execution} {most : Int}
  {drawGuide : Int → Draw G Unit}

/-- Whatever the limit of the loop. -/
theorem guides_emits (counted : ∀ value, Emits event stopped (arithmetic execution .guide .i64 value : Draw G Int))
    (unfinished : stopped .unfinished) (drawn : ∀ guide, Emits event stopped (drawGuide guide)) (iterations : ℕ)
    (guide : Int) :
    Emits event stopped (guides execution most drawGuide iterations guide) := by
  induction iterations generalizing guide with
  | zero => exact emits_throw unfinished
  | succ iterations ih =>
    refine Emits.ite (fun _ => ?_) fun _ => emits_pure _
    exact Emits.bind (drawn guide) fun _ => Emits.bind (counted _) fun next => ih next

/-- The guides up to a limit that the counter can pass stay in its type, and
with iterations enough they come to an end. -/
theorem guides_end (bounded : most ≤ lastGuide)
    (drawn : ∀ guide, 0 ≤ guide → guide < most → Emits event stopped (drawGuide guide)) (iterations : ℕ)
    {guide : Int} (start : 0 ≤ guide) (grid : guide % 2000 = 0) (inside : guide ≤ lastGuide)
    (ends : stopped .unfinished ∨ 0 < iterations ∧ most ≤ guide + 2000 * (iterations - 1)) :
    Emits event stopped (guides execution most drawGuide iterations guide) := by
  induction iterations generalizing guide with
  | zero => exact emits_throw (ends.resolve_right (by simp))
  | succ iterations ih =>
    refine Emits.ite (fun below => ?_) fun _ => emits_pure _
    have room : guide + 2000 ≤ lastGuide := by
      unfold lastGuide at bounded inside ⊢
      omega
    have holds : IntType.i64.Holds (guide + 2000) := by
      unfold lastGuide at room
      exact ⟨by simp only [IntType.least]; omega, by simp only [IntType.greatest]; omega⟩
    refine Emits.bind (drawn guide start below) fun _ => ?_
    rw [arithmetic_of_holds holds, pure_bind]
    refine ih (by omega) (by omega) room (ends.imp_right fun enough => ?_)
    push_cast at enough
    omega

/-- Beyond the last guide the counter leaves its type, if the loop comes so far. -/
theorem guides_overflow {tolerated : Stop → Prop} (beyond : lastGuide < most)
    (drawn : ∀ guide, Emits (fun _ => True) tolerated (drawGuide guide)) (iterations : ℕ)
    (unfinished : tolerated .unfinished) {guide : Int} (start : 0 ≤ guide) (grid : guide % 2000 = 0)
    (inside : guide ≤ lastGuide) :
    Reports (.overflowed .guide) tolerated (guides execution most drawGuide iterations guide) := by
  induction iterations generalizing guide with
  | zero => exact fun _ => Or.inl unfinished
  | succ iterations ih =>
    rw [guides, if_pos (by omega)]
    refine Reports.bind_right (drawn guide) fun _ => ?_
    by_cases room : guide + 2000 ≤ lastGuide
    · have holds : IntType.i64.Holds (guide + 2000) := by
        unfold lastGuide at room
        exact ⟨by simp only [IntType.least]; omega, by simp only [IntType.greatest]; omega⟩
      rw [arithmetic_of_holds holds, pure_bind]
      exact ih (by omega) (by omega) room
    · have outside : ¬ IntType.i64.Holds (guide + 2000) := by
        rintro ⟨_, upper⟩
        unfold lastGuide at inside room
        simp only [IntType.greatest] at upper
        omega
      refine Reports.bind_left (arithmetic_reports outside) fun next => ?_
      exact guides_emits (fun _ => emits_arithmetic trivial trivial) trivial
        (fun guide => (drawn guide).mono (fun _ _ => trivial) fun _ _ => trivial) iterations next

/-- The guides from one of them on that are below the limit. -/
def guideValues (most guide : Int) : List Int :=
  (List.range ((most - guide + 1999) / 2000).toNat).map fun step : ℕ => guide + 2000 * step

theorem guideValues_cons {guide : Int} (below : guide < most) :
    guideValues most guide = guide :: guideValues most (guide + 2000) := by
  have count : ((most - guide + 1999) / 2000).toNat = ((most - (guide + 2000) + 1999) / 2000).toNat + 1 := by omega
  rw [guideValues, count, List.range_succ_eq_map, List.map_cons, List.map_map]
  refine List.cons_eq_cons.mpr ⟨by simp, List.map_congr_left fun step _ => ?_⟩
  simp only [Function.comp_apply, Nat.cast_succ]
  ring

theorem guideValues_nil {guide : Int} (beyond : most ≤ guide) : guideValues most guide = [] := by
  have count : ((most - guide + 1999) / 2000).toNat = 0 := by omega
  rw [guideValues, count, List.range_zero, List.map_nil]

/-- With iterations enough each guide below the limit is drawn once. -/
theorem guides_adds {line : Int → List (Event G)} (bounded : most ≤ lastGuide)
    (drawn : ∀ guide, Adds (line guide) (drawGuide guide)) (iterations : ℕ) {guide : Int} (start : 0 ≤ guide)
    (grid : guide % 2000 = 0) (inside : guide ≤ lastGuide)
    (enough : 0 < iterations ∧ most ≤ guide + 2000 * (iterations - 1)) :
    Adds ((guideValues most guide).flatMap line) (guides execution most drawGuide iterations guide) := by
  induction iterations generalizing guide with
  | zero => exact absurd enough.1 (by simp)
  | succ iterations ih =>
    by_cases below : guide < most
    · have room : guide + 2000 ≤ lastGuide := by
        unfold lastGuide at bounded inside ⊢
        omega
      have holds : IntType.i64.Holds (guide + 2000) := by
        unfold lastGuide at room
        exact ⟨by simp only [IntType.least]; omega, by simp only [IntType.greatest]; omega⟩
      rw [guides, if_pos below, arithmetic_of_holds holds, pure_bind, guideValues_cons below, List.flatMap_cons]
      refine (drawn guide).bind (ih (by omega) (by omega) room ?_)
      push_cast at enough
      omega
    · rw [guides, if_neg below, guideValues_nil (not_lt.mp below)]
      exact adds_pure

end Guides

/-! ## The graph to the letter -/

/-- A bar of so many rows from `top` on, if there are any. -/
def bar (x top : Int) (width : ℕ) (rows : Int) (fill : BinaryColor) : List (Event G) :=
  if 0 < rows then [.drawn (.rectangle ⟨⟨x, top⟩, ⟨width, rows.toNat⟩⟩ ⟨some black, 1, some fill⟩)] else []

theorem adds_bar (x top : Int) (width : ℕ) (rows : Int) (fill : BinaryColor) :
    Adds (bar x top width rows fill : List (Event G))
      (drawIf (0 < rows) (drawRectangle ⟨⟨x, top⟩, ⟨width, rows.toNat⟩⟩ black (some fill))) := by
  unfold bar drawIf
  split
  · exact adds_append _
  · exact adds_pure

theorem bar_forall {event : Event G → Prop} {x top : Int} {width : ℕ} {rows : Int} {fill : BinaryColor}
    (allowed : 0 < rows →
      event (.drawn (.rectangle ⟨⟨x, top⟩, ⟨width, rows.toNat⟩⟩ ⟨some black, 1, some fill⟩))) :
    ∀ each ∈ bar x top width rows fill, event each := by
  unfold bar
  split
  case isTrue some_ => exact List.forall_mem_singleton.mpr (allowed some_)
  case isFalse => simp

def dottedLine (start : Point) (width : ℕ) : Drawing G :=
  .pixels ((List.range ((width + 2) / 3)).map fun index => ⟨start.x + 3 * index, start.y⟩) black

theorem adds_dottedLine (start : Point) (width : ℕ) :
    Adds [.drawn (dottedLine start width)] (drawDottedLine start width : Draw G Unit) := adds_append _

theorem barTop_of_axis {execution : Execution} {scale : GraphScale F}
    (axis : 0 ≤ scale.axisLeft.y ∧ scale.axisLeft.y ≤ 300)
    {height : Int} (nonneg : 0 ≤ height) (low : height ≤ 74) :
    (barTop execution scale height : Draw G Int) = pure (scale.axisLeft.y + 1 - height) := by
  have inside : IntType.i32.Holds height :=
    ⟨by simp only [IntType.least]; omega, by simp only [IntType.greatest]; omega⟩
  rw [barTop, IntType.wrap_of_holds inside]
  exact arithmetic_of_holds ⟨by simp only [IntType.least]; omega, by simp only [IntType.greatest]; omega⟩

section Graph

open AsInt

variable [Zero F] [Mul F] [Div F] [IntCast F] [LT F] [DecidableLT F] [AsInt F] {execution : Execution}
  {bounds : Rectangle} {status : EnergyStatus F} {scale : GraphScale F} {hour : Fin 24}

/-- The bars of an hour: the sun's from the axis down, what is exported on the axis,
and on top of that what is imported. -/
def hourBars (bounds : Rectangle) (status : EnergyStatus F) (scale : GraphScale F) (hour : Fin 24) :
    List (Event G) :=
  let solar := barHeight (status.solarProductionHourly.values hour) scale.maxNegative scale.negativeHeight
  let import_ := barHeight (status.gridImportHourly.values hour) scale.maxPositive scale.positiveHeight
  let export_ := barHeight (status.gridExportHourly.values hour) scale.maxPositive scale.positiveHeight
  let x := barLeft bounds hour
  let width := barWidth bounds
  bar x scale.axisLeft.y width solar black ++
    bar x (scale.axisLeft.y + 1 - export_) width export_ white ++
    bar x (scale.axisLeft.y + 1 - export_ - import_) width import_ black

/-- Which bars an hour has, and where, when a value that is not positive has none and
the two that go up have rows enough. -/
theorem drawHour_adds (axis : 0 ≤ scale.axisLeft.y ∧ scale.axisLeft.y ≤ 300)
    (importNone : ¬ 0 < status.gridImportHourly.values hour →
      barHeight (status.gridImportHourly.values hour) scale.maxPositive scale.positiveHeight = 0)
    (exportNone : ¬ 0 < status.gridExportHourly.values hour →
      barHeight (status.gridExportHourly.values hour) scale.maxPositive scale.positiveHeight = 0)
    (importNonneg : 0 ≤ barHeight (status.gridImportHourly.values hour) scale.maxPositive scale.positiveHeight)
    (exportNonneg : 0 ≤ barHeight (status.gridExportHourly.values hour) scale.maxPositive scale.positiveHeight)
    (low : barHeight (status.gridImportHourly.values hour) scale.maxPositive scale.positiveHeight +
      barHeight (status.gridExportHourly.values hour) scale.maxPositive scale.positiveHeight ≤ 74) :
    Adds (hourBars bounds status scale hour : List (Event G)) (drawHour execution bounds status scale hour) := by
  unfold drawHour hourBars
  dsimp only
  generalize barHeight (status.gridImportHourly.values hour) scale.maxPositive scale.positiveHeight = import_
    at importNone importNonneg low ⊢
  generalize barHeight (status.gridExportHourly.values hour) scale.maxPositive scale.positiveHeight = export_
    at exportNone exportNonneg low ⊢
  have exportIs : (if 0 < status.gridExportHourly.values hour then export_ else 0) = export_ :=
    ite_eq_left_iff.mpr fun none_ => (exportNone none_).symm
  have importIs (program : Draw G Unit) :
      drawIf (0 < status.gridImportHourly.values hour) (drawIf (0 < import_) program) =
        drawIf (0 < import_) program := by
    by_cases some_ : 0 < status.gridImportHourly.values hour
    · exact if_pos some_
    · simp [drawIf, importNone some_]
  have stacked : (arithmetic execution .barHeight .u32 (import_ + export_) : Draw G Int) =
      pure (import_ + export_) :=
    arithmetic_of_holds ⟨by simp only [IntType.least]; omega, by simp only [IntType.greatest]; omega⟩
  have above : scale.axisLeft.y + 1 - export_ - import_ = scale.axisLeft.y + 1 - (import_ + export_) := by ring
  rw [exportIs, importIs, stacked, pure_bind, barTop_of_axis axis (by omega) low, pure_bind,
    barTop_of_axis axis exportNonneg (by omega), pure_bind, above, List.append_assoc]
  exact Adds.bind (adds_bar _ _ _ _ _) (Adds.bind (adds_bar _ _ _ _ _) (adds_bar _ _ _ _ _))

variable [Add F] [FloatCore F] [Mul G] [Div G] [IntCast G] [AsInt G] [AsF32 F G]

/-- The axis, the guides below and above it, and the bars of the day. -/
def graphEvents (bounds : Rectangle) (status : EnergyStatus F) : List (Event G) :=
  let scale := graphScale G bounds status
  let guide (start : Point) : List (Event G) := [.drawn (dottedLine start scale.graphWidth)]
  [.drawn (.line scale.axisLeft (scale.axisLeft + ⟨scale.graphWidth, 0⟩) (withStroke black 1))] ++
    ((guideValues (asInt .i64 scale.maxNegative) 2000).flatMap fun value =>
        guide (scale.axisLeft + guideOffset value scale.maxNegative scale.negativeHeight)) ++
    ((guideValues (asInt .i64 scale.maxPositive) 2000).flatMap fun value =>
        guide (scale.axisLeft - guideOffset value scale.maxPositive scale.positiveHeight)) ++
    (List.finRange 24).flatMap (hourBars bounds status scale)

/-- What a graph is made of, if its hours have their bars and its guides can be counted. -/
theorem renderGraph_adds (hours : ∀ hour, Adds (hourBars bounds status (graphScale G bounds status) hour)
      (drawHour execution bounds status (graphScale G bounds status) hour : Draw G Unit))
    (negative : asInt .i64 (maxNegative status) ≤ lastGuide)
    (positive : asInt .i64 (maxPositive status) ≤ lastGuide)
    (enough : 0 < execution.iterations ∧ asInt .i64 (maxNegative status) ≤ 2000 + 2000 * (execution.iterations - 1) ∧
      asInt .i64 (maxPositive status) ≤ 2000 + 2000 * (execution.iterations - 1)) :
    Adds (graphEvents bounds status) (renderGraph execution bounds status : Draw G Unit) := by
  unfold renderGraph graphEvents drawGuides
  dsimp only
  rw [List.append_assoc, List.append_assoc]
  refine (adds_append _).bind ?_
  rw [← List.append_assoc]
  refine Adds.bind (Adds.bind ?_ ?_) (adds_forM fun hour _ => hours hour)
  · exact guides_adds negative (fun value => adds_dottedLine _ _) _ (by decide) (by decide) (by decide)
      ⟨enough.1, enough.2.1⟩
  · exact guides_adds positive (fun value => adds_dottedLine _ _) _ (by decide) (by decide) (by decide)
      ⟨enough.1, enough.2.2⟩

end Graph

end Renderer

end EnergyDisplay

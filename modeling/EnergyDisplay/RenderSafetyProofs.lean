import EnergyDisplay.ExactFloats
import EnergyDisplay.Lib.Float
import EnergyDisplay.Lib.Runs
import EnergyDisplay.RendererProofs
import EnergyDisplay.Tasks

/-! Arithmetic of a rendering in IEEE floats. The two shares of the graph and the
bars on them stay small, because rounding keeps the order of what is divided.
What can leave its type is the sum of the heat pump's powers, and a guide counter
whose limit is beyond the last multiple of 2000 that it can hold. -/
namespace EnergyDisplay.Renderer

open Fallible Runs
open FloatFormat (binary64 binary32 Value)

abbrev F64 := binary64.Value

abbrev F32 := binary32.Value

instance (format : FloatFormat) : AsInt format.Value := ⟨Value.asInt⟩

instance (format other : FloatFormat) : AsF32 format.Value other.Value := ⟨Value.convert⟩

instance (format : FloatFormat) : FloatCore format.Value := ⟨Value.maximum, Value.roundAway⟩

/-! ## Renderings in a run -/

/-- What happens to the dashboard: an update with the time it comes at, or a
rendering. -/
inductive Input where
  | updates (update : Update F64) (now : Option LocalDateTime)
  | renders (now : Option LocalDateTime)

def Input.step (dashboard : Dashboard F64) : Input → Dashboard F64
  | .updates update now => dashboard.apply update now
  | .renders _ => dashboard

/-- With overflow checks or without, the rendering goes round its loops only so
often, and the sum, the counters and the stacked heights stay in their types. -/
def Safe [FloatText F64] (split : Bool) (status : EnergyStatus F64) (now : Option LocalDateTime) : Prop :=
  ∀ overflowChecks, ∃ iterations,
    (render ⟨overflowChecks, iterations⟩ split status now ([] : List (Event F32))).1 ≠ .error .unfinished ∧
      ∀ site ∈ [Arithmetic.heatpumpPower, .guide, .barHeight],
        .overflowed site ∉ (render ⟨overflowChecks, iterations⟩ split status now ([] : List (Event F32))).2

/-- The sum of the powers is an `i32`, and as an `i64` no hour of sun and no hour
of import and export is beyond the last guide. -/
structure InRange (status : EnergyStatus F64) : Prop where
  power : IntType.i32.Holds (status.heatpumpPower + status.heatpumpPowerBuh)
  solar : ∀ hour, Value.asInt .i64 (status.solarProductionHourly.values hour) ≤ lastGuide
  grid : ∀ hour,
    Value.asInt .i64 (status.gridExportHourly.values hour + status.gridImportHourly.values hour) ≤ lastGuide

variable {status : EnergyStatus F64} {execution : Execution}

/-! ## The scale of the graph -/

theorem thousand : (((1000 : Int) : F64) : F64) = .finite (1000 : Int) (binary64.has_intCast (by decide)) :=
  Value.intCast_eq (by decide)

theorem maximum_spec {α : Type*} (values : α → F64) (items : List α) :
    ((1000 : Int) : F64) ≤ items.foldl (fun most item => Value.maximum most (values item)) ((1000 : Int) : F64) ∧
      (∀ item ∈ items, values item ≠ .nan →
        values item ≤ items.foldl (fun most item => Value.maximum most (values item)) ((1000 : Int) : F64)) ∧
      (lastGuide < Value.asInt .i64
          (items.foldl (fun most item => Value.maximum most (values item)) ((1000 : Int) : F64)) ↔
        ∃ item ∈ items, lastGuide < Value.asInt .i64 (values item)) := by
  have number : ((1000 : Int) : F64) ≠ .nan := by simp [thousand]
  obtain ⟨least, most, reached⟩ := Value.foldl_maximum values items number
  refine ⟨least, most, fun beyond => ?_, ?_⟩
  · rcases reached with same | ⟨item, member, _, same⟩
    · have small : Value.asInt .i64 ((1000 : Int) : F64) = 1000 := by
        rw [thousand, Value.asInt, truncate_of_nonneg (by norm_num), Int.floor_intCast]
        decide
      rw [same, small] at beyond
      exact absurd beyond (by decide)
    · exact ⟨item, member, same ▸ beyond⟩
  · rintro ⟨item, member, beyond⟩
    have some_ : values item ≠ .nan := by
      intro none_
      rw [none_] at beyond
      exact absurd beyond (by decide)
    exact beyond.trans_le (Value.asInt_mono (most item member some_))

variable (status) in
theorem maxNegative_spec64 :
    ((1000 : Int) : F64) ≤ maxNegative status ∧
      (lastGuide < Value.asInt .i64 (maxNegative status) ↔
        ∃ hour, lastGuide < Value.asInt .i64 (status.solarProductionHourly.values hour)) := by
  obtain ⟨least, _, beyond⟩ := maximum_spec status.solarProductionHourly.values (List.finRange 24)
  exact ⟨least, beyond.trans (by simp)⟩

variable (status) in
theorem maxPositive_spec64 :
    ((1000 : Int) : F64) ≤ maxPositive status ∧
      (∀ hour, status.gridExportHourly.values hour + status.gridImportHourly.values hour ≠ .nan →
        status.gridExportHourly.values hour + status.gridImportHourly.values hour ≤ maxPositive status) ∧
      (lastGuide < Value.asInt .i64 (maxPositive status) ↔ ∃ hour, lastGuide <
        Value.asInt .i64 (status.gridExportHourly.values hour + status.gridImportHourly.values hour)) := by
  obtain ⟨least, most, beyond⟩ := maximum_spec
    (fun hour => status.gridExportHourly.values hour + status.gridImportHourly.values hour) (List.finRange 24)
  exact ⟨least, fun hour => most hour (List.mem_finRange hour), beyond.trans (by simp)⟩

theorem positive_of_thousand {value : F64} (least : ((1000 : Int) : F64) ≤ value) : 0 < value := by
  have positive : (0 : F64) < ((1000 : Int) : F64) := by
    rw [thousand]
    exact Value.finite_lt_finite.mpr (by norm_num)
  exact Value.lt_of_lt_of_le positive least

theorem intCast_within {format : FloatFormat} {rows bound : Int} (few : |rows| < 2 ^ format.precision)
    (nonneg : 0 ≤ rows) (le : rows ≤ bound) : ((rows : Int) : format.Value).Within bound := by
  rw [Value.intCast_eq few]
  exact ⟨by exact_mod_cast nonneg, by exact_mod_cast le⟩

variable (status) in
/-- The part of the rows above the axis is no more than all of them. -/
theorem positiveHeight_bounds :
    0 ≤ (graphScale F32 graphBounds status).positiveHeight ∧
    (graphScale F32 graphBounds status).positiveHeight ≤ 74 := by
  have least := (maxPositive_spec64 status).1
  have other := (maxNegative_spec64 status).1
  have total := (Value.le_add (positive_of_thousand least) (positive_of_thousand other)).1
  have single : (0 : F32) < Value.convert (maxPositive status) := by
    have thousand_ : (Value.convert ((1000 : Int) : F64) : F32) =
        .finite (1000 : Int) (binary32.has_intCast (by decide)) := by
      rw [thousand]
      exact Value.rounded_eq _
    have above : (Value.convert ((1000 : Int) : F64) : F32) ≤ Value.convert (maxPositive status) :=
      Value.convert_le_convert (positive_of_thousand ⟨by simp [thousand], by simp [thousand], le_rfl⟩) least
    rw [thousand_] at above
    exact Value.lt_of_lt_of_le (Value.finite_lt_finite.mpr (by norm_num)) above
  have share := Value.div_within single (Value.convert_le_convert (positive_of_thousand least) total)
  have rows : ((74 : Int) : F32).Within (74 : Int) := intCast_within (by decide) (by decide) le_rfl
  have product := Value.mul_within rows share (by rw [mul_one]; exact binary32.has_intCast (by decide))
  rw [mul_one] at product
  exact Value.asInt_within (by decide) (by decide) product

/-! ## Bars on one another -/

theorem barHeight_le {value most : F64} {rows : Int} (positive : 0 < value) (le : value ≤ most)
    (nonneg : 0 ≤ rows) (few : rows ≤ 74) : 0 ≤ barHeight value most rows ∧ barHeight value most rows ≤ 74 := by
  have share := Value.div_within positive le
  have height : ((rows : Int) : F64).Within (74 : Int) :=
    intCast_within (by rw [abs_of_nonneg nonneg]; exact (show rows ≤ 74 from few).trans_lt (by decide)) nonneg few
  have product := Value.mul_within share height (by rw [one_mul]; exact binary64.has_intCast (by decide))
  rw [one_mul] at product
  exact Value.asInt_within (by decide) (by decide) product

/-- What is stacked is two bars no higher than the graph, or just one bar. -/
theorem stacked_holds (hour : Fin 24) (imports : 0 < status.gridImportHourly.values hour) :
    let scale := graphScale F32 graphBounds status
    IntType.u32.Holds (barHeight (status.gridImportHourly.values hour) scale.maxPositive scale.positiveHeight +
      if 0 < status.gridExportHourly.values hour then
        barHeight (status.gridExportHourly.values hour) scale.maxPositive scale.positiveHeight
      else 0) := by
  intro scale
  split
  case isTrue exports =>
    obtain ⟨exportLe, importLe⟩ := Value.le_add exports imports
    have sum := (maxPositive_spec64 status).2.1 hour exportLe.2.1
    obtain ⟨nonneg, few⟩ := positiveHeight_bounds status
    obtain ⟨importLower, importUpper⟩ := barHeight_le imports (Value.le_trans importLe sum) nonneg few
    obtain ⟨exportLower, exportUpper⟩ := barHeight_le exports (Value.le_trans exportLe sum) nonneg few
    exact ⟨add_nonneg importLower exportLower, (add_le_add importUpper exportUpper).trans (by decide)⟩
  case isFalse =>
    rw [add_zero]
    exact Value.asInt_holds .u32 _

/-! ## Renderings that stay in range -/

section Rendering

variable [FloatText F64] {split : Bool} {now : Option LocalDateTime} {event : Event F32 → Prop}
  {stopped : Stop → Prop}

omit [FloatText F64] in
/-- What the graph does besides drawing is what its guides do, and its bar tops. -/
theorem graph_emits (drawn : ∀ drawing, event (.drawn drawing))
    (tops : ∀ value, Emits event stopped (arithmetic execution .barTop .i32 value : Draw F32 Int))
    (guided : Emits event stopped (drawGuides execution (graphScale F32 graphBounds status) : Draw F32 Unit)) :
    Emits event stopped (renderGraph execution graphBounds status : Draw F32 Unit) := by
  refine renderGraph_emits (fun drawing _ => drawn drawing) guided fun hour => ?_
  refine drawHour_emits (fun drawing _ => drawn drawing) tops fun imports => ?_
  rw [arithmetic_of_holds (stacked_holds hour imports)]
  exact emits_pure _

/-- In range the counters pass their limits. -/
theorem safe_of_inRange (inRange : InRange status) : Safe split status now := by
  intro overflowChecks
  let execution : Execution := ⟨overflowChecks, lastGuide.toNat⟩
  let event : Event F32 → Prop := fun each => ∀ site ∈ [Arithmetic.heatpumpPower, .guide, .barHeight],
    each ≠ .overflowed site
  have drawn (drawing : Drawing F32) : event (.drawn drawing) := fun site _ => by simp
  have emits : Emits event (· ≠ .unfinished) (render execution split status now) := by
    refine render_emits (fun drawing _ => drawn drawing) (graph_emits drawn (fun value => ?_) ?_) ?_
    · exact emits_arithmetic (fun site member => by simp at member; rcases member with rfl | rfl | rfl <;> simp)
        (by simp)
    · have guided {most : Int} {drawGuide : Int → Draw F32 Unit} (bounded : most ≤ lastGuide)
          (draws : ∀ guide, Emits event (· ≠ .unfinished) (drawGuide guide)) :
          Emits event (· ≠ .unfinished) (guides execution most drawGuide execution.iterations 2000) := by
        refine guides_end bounded (fun guide _ _ => draws guide) _ (by decide) (by decide) (by decide) (Or.inr ?_)
        have many : (execution.iterations : Int) = lastGuide := rfl
        unfold lastGuide at bounded many
        omega
      have solar := not_lt.mp fun beyond => ((maxNegative_spec64 status).2.mp beyond).elim fun hour tooMuch =>
        absurd tooMuch (inRange.solar hour).not_gt
      have grid := not_lt.mp fun beyond => ((maxPositive_spec64 status).2.2.mp beyond).elim fun hour tooMuch =>
        absurd tooMuch (inRange.grid hour).not_gt
      exact Emits.bind (guided solar fun _ => emits_draw (drawn _)) fun _ =>
          guided grid fun _ => emits_draw (drawn _)
    · rw [arithmetic_of_holds inRange.power]
      exact emits_pure _
  refine ⟨execution.iterations, fun unfinished => (emits.outcome []).2 _ unfinished rfl,
      fun site member inside => ?_⟩
  exact emits.all _ inside site member rfl

/-! ## Renderings out of range -/

omit [FloatText F64] in
theorem draw_ends {drawing : Drawing F32} : Emits (fun _ => True) (· = .unfinished) (draw drawing) :=
  emits_draw trivial

variable (status split now) in
/-- The rows of numbers come to an end. -/
theorem rows_end :
    Emits (fun _ => True) (· = .unfinished) (renderEnergyRow split energyBounds status : Draw F32 Unit) ∧
      Emits (fun _ => True) (· = .unfinished) (renderBatteryRow batteryBounds status : Draw F32 Unit) ∧
      Emits (fun _ => True) (· = .unfinished) (renderStatusBar statusBounds now : Draw F32 Unit) :=
  ⟨renderEnergyRow_emits fun _ _ => trivial, renderBatteryRow_emits fun _ _ => trivial,
    renderStatusBar_emits fun _ _ => trivial⟩

omit [FloatText F64] in
/-- Without overflow checks nothing but the guides can keep the graph from an end. -/
theorem graph_unchecked (unchecked : execution.overflowChecks = false) :
    Emits (fun _ => True) (· = .unfinished) (renderGraph execution graphBounds status : Draw F32 Unit) := by
  have counted (value : Int) : Emits (fun _ => True) (· = .unfinished)
      (arithmetic execution .guide .i64 value : Draw F32 Int) := emits_arithmetic_unchecked unchecked trivial
  refine graph_emits (fun _ => trivial) (fun value => emits_arithmetic_unchecked unchecked trivial) ?_
  exact Emits.bind (guides_emits counted rfl (fun _ => draw_ends) _ _) fun _ =>
    guides_emits counted rfl (fun _ => draw_ends) _ _

omit [FloatText F64] in
/-- A limit beyond the last guide takes its counter out of range. -/
theorem graph_reports (unchecked : execution.overflowChecks = false)
    (beyond : lastGuide < Value.asInt .i64 (maxNegative status) ∨
      lastGuide < Value.asInt .i64 (maxPositive status)) :
    Reports (.overflowed .guide) (· = .unfinished) (renderGraph execution graphBounds status : Draw F32 Unit) := by
  have counted (value : Int) : Emits (fun _ => True) (· = .unfinished)
      (arithmetic execution .guide .i64 value : Draw F32 Int) := emits_arithmetic_unchecked unchecked trivial
  have anything (value : Int) : Emits (fun _ => True) (fun _ => True)
      (arithmetic execution .guide .i64 value : Draw F32 Int) := emits_arithmetic trivial trivial
  have overflows {most : Int} {drawGuide : Int → Draw F32 Unit} (tooMuch : lastGuide < most)
      (draws : ∀ guide, Emits (fun _ => True) (· = .unfinished) (drawGuide guide)) :
      Reports (.overflowed .guide) (· = .unfinished)
        (guides execution most drawGuide execution.iterations 2000) := by
    refine guides_overflow tooMuch draws _ ?_ ?_ ?_ ?_ <;> decide
  refine Reports.bind_right (draw_ends) fun _ => ?_
  refine Reports.bind_left ?_ fun _ => emits_forM fun hour _ =>
    drawHour_emits (fun _ _ => trivial) (fun _ => emits_arithmetic trivial trivial)
      fun _ => emits_arithmetic trivial trivial
  rcases beyond with solar | grid
  · exact Reports.bind_left (overflows solar fun _ => draw_ends) fun _ =>
      guides_emits anything trivial (fun _ => emits_draw trivial) _ _
  · exact Reports.bind_right (guides_emits counted rfl (fun _ => draw_ends) _ _) fun _ =>
      overflows grid fun _ => draw_ends

theorem render_reports_guide (unchecked : execution.overflowChecks = false)
    (beyond : lastGuide < Value.asInt .i64 (maxNegative status) ∨
      lastGuide < Value.asInt .i64 (maxPositive status)) :
    Reports (.overflowed .guide) (· = .unfinished) (render execution split status now : Draw F32 Unit) := by
  obtain ⟨energy, battery, bar⟩ := rows_end status split now
  refine Reports.bind_right energy fun _ => Reports.bind_right battery fun _ => ?_
  refine Reports.bind_left (graph_reports unchecked beyond) fun _ => ?_
  refine Emits.bind (renderStatusBar_emits fun _ _ => trivial) fun _ => ?_
  exact renderHeatpumpRow_emits (fun _ _ => trivial) (emits_arithmetic trivial trivial)

theorem render_reports_power (unchecked : execution.overflowChecks = false)
    (outside : ¬ IntType.i32.Holds (status.heatpumpPower + status.heatpumpPowerBuh)) :
    Reports (.overflowed .heatpumpPower) (· = .unfinished) (render execution split status now : Draw F32 Unit) := by
  obtain ⟨energy, battery, bar⟩ := rows_end status split now
  refine Reports.bind_right energy fun _ => Reports.bind_right battery fun _ => ?_
  refine Reports.bind_right (graph_unchecked unchecked) fun _ => ?_
  refine Reports.bind_right bar fun _ => ?_
  have prints : ∀ drawing : Drawing F32, drawing.Printable → Function.const (Event F32) True (.drawn drawing) :=
    fun _ _ => trivial
  obtain ⟨sensor, frame, values, parts, sensors, frames, rest⟩ :=
    renderHeatpumpRow_parts (· = .unfinished) prints heatpumpBounds status execution
  rw [parts]
  refine Reports.bind_right sensors fun _ => Reports.bind_right frames fun _ => ?_
  exact Reports.bind_left (arithmetic_reports outside) fun power =>
      (rest power).mono (fun _ _ => trivial) fun _ _ => trivial

theorem inRange_of_safe (safe : Safe split status now) : InRange status := by
  obtain ⟨iterations, ended, inside⟩ := safe false
  have unreported {site : Arithmetic} (counted : site ∈ [Arithmetic.heatpumpPower, .guide, .barHeight])
      (reports : Reports (.overflowed site) (· = .unfinished)
        (render ⟨false, iterations⟩ split status now : Draw F32 Unit)) : False := by
    rcases reports.outcome [] with here | ⟨_, stopped, rfl⟩
    · exact inside site counted here
    · exact ended stopped
  refine ⟨?_, fun hour => ?_, fun hour => ?_⟩
  · by_contra outside
    exact unreported (by simp) (render_reports_power rfl outside)
  · by_contra tooMuch
    exact unreported (by simp)
      (render_reports_guide rfl (Or.inl ((maxNegative_spec64 status).2.mpr ⟨hour, not_le.mp tooMuch⟩)))
  · by_contra tooMuch
    exact unreported (by simp)
      (render_reports_guide rfl (Or.inr ((maxPositive_spec64 status).2.2.mpr ⟨hour, not_le.mp tooMuch⟩)))

theorem safe_iff_inRange : Safe split status now ↔ InRange status := ⟨inRange_of_safe, safe_of_inRange⟩

/-! ## Renderings without an end -/

omit [FloatText F64] in
/-- The even counter wraps around and never reaches the greatest `i64`, which is
odd. -/
theorem guides_never_end (unchecked : execution.overflowChecks = false) {drawGuide : Int → Draw F32 Unit}
    (draws : ∀ guide, Emits (fun _ => True) (· = .unfinished) (drawGuide guide)) (iterations : ℕ) {guide : Int}
    (even : guide % 2 = 0) (held : IntType.i64.Holds guide) :
    Stops .unfinished (guides execution IntType.i64.greatest drawGuide iterations guide) := by
  induction iterations generalizing guide with
  | zero => exact fun _ => rfl
  | succ iterations ih =>
    have below : guide < IntType.i64.greatest := by
      have odd : IntType.i64.greatest % 2 = 1 := rfl
      have upper := held.2
      omega
    rw [guides, if_pos below]
    refine Stops.bind_right (draws guide) fun _ => ?_
    by_cases holds : IntType.i64.Holds (guide + 2000)
    · rw [arithmetic_of_holds holds, pure_bind]
      exact ih (by omega) holds
    · have appended : Emits (fun _ => True) (· = .unfinished)
          (modify (· ++ [.overflowed .guide]) : Draw F32 Unit) := emits_append fun _ _ => trivial
      rw [arithmetic_unchecked unchecked holds, bind_assoc]
      refine Stops.bind_right appended fun _ => ?_
      rw [pure_bind]
      refine ih ?_ (IntType.wrap_holds _ _)
      rw [IntType.wrap, show IntType.i64.greatest - IntType.i64.least + 1 = 18446744073709551616 from rfl,
        show IntType.i64.least = -9223372036854775808 from rfl]
      omega

/-- With sun beyond every guide. -/
theorem render_never_ends (unchecked : execution.overflowChecks = false)
    (limit : Value.asInt .i64 (maxNegative status) = IntType.i64.greatest) :
    Stops .unfinished (render execution split status now : Draw F32 Unit) := by
  obtain ⟨energy, battery, bar⟩ := rows_end status split now
  refine Stops.bind_right energy fun _ => Stops.bind_right battery fun _ => ?_
  refine Stops.bind_left ?_
  refine Stops.bind_right draw_ends fun _ => Stops.bind_left (Stops.bind_left ?_)
  show Stops .unfinished (guides execution (Value.asInt .i64 (maxNegative status)) _ _ 2000)
  rw [limit]
  exact guides_never_end unchecked (fun _ => draw_ends) _ (by decide) (by decide)

/-- **Renderings are safe as long as powers and energies are in range.** In any
run of updates and renderings, from any dashboard, every rendering comes to an
end and keeps the sum of the powers, the guide counters and the stacked heights
in their types, with overflow checks and without, if and only if at every
rendering the sum is an `i32` and no hour of sun, and no hour of import and
export, is beyond the last guide. -/
theorem rendering_is_safe_in_range (split : Bool) (dashboard : Dashboard F64) (inputs : List Input) :
    StepsMeet Input.step (fun dashboard input => ∀ now, input = .renders now → Safe split dashboard.status now)
        dashboard inputs ↔
      StepsMeet Input.step (fun dashboard input => ∀ now, input = .renders now → InRange dashboard.status)
        dashboard inputs :=
  stepsMeet_congr (fun _ => True)
    (fun _ _ _ => forall_congr' fun _ => imp_congr_right fun _ => safe_iff_inRange)
    (fun _ _ _ _ => trivial) trivial

end Rendering

/-! ## Updates that lead out of range -/

/-- What a payload without a `null` is decoded to: a power is an `i32`, and no
energy is `NaN`. -/
def Input.Decoded : Input → Prop
  | .updates (.heatpumpPower power) _ => IntType.i32.Holds power
  | .updates (.heatpumpBackupPower power) _ => IntType.i32.Holds power
  | .updates (.dailySummary summary) _ =>
    ∀ series ∈ [summary.solarProduction, summary.gridImport, summary.gridExport], ∀ hour,
      series.values hour ≠ .nan ∧ series.valuesAtHourStart hour ≠ .nan
  | _ => True

/-- A power and one more watt. -/
def fullPower : List Input :=
  [.updates (.heatpumpPower 2147483647) none, .updates (.heatpumpBackupPower 1) none, .renders none]

/-- What no `i64` reaches. -/
def brightHour : F64 := .finite (2 ^ 63) (binary64.has_two_pow (by decide))

/-- A summary with one bright hour, restored before the time is known. -/
def brightSummary : DailySummary F64 where
  date := ⟨2026, 9, 9⟩
  solarProduction := { HourlyData.default with values := fun hour => if hour.val = 12 then brightHour else 0 }
  gridImport := HourlyData.default
  gridExport := HourlyData.default

def brightDay : List Input := [.updates (.dailySummary brightSummary) none, .renders none]

/-- The words for what is no number, and `write` for the others. -/
def valueText {format : FloatFormat} (write : ℚ → List Char) : format.Value → List Char
  | .nan => "NaN".toList
  | .infinite negative => if negative then "-inf".toList else "inf".toList
  | .finite value _ => write value

theorem valueText_subset {format : FloatFormat} {write : ℚ → List Char}
    (numbers : ∀ value, write value ⊆ Formatting.floatChars) (value : format.Value) :
    valueText write value ⊆ Formatting.floatChars := by
  cases value with
  | nan => exact show "NaN".toList ⊆ Formatting.floatChars by decide
  | infinite negative =>
    cases negative with
    | false => exact show "inf".toList ⊆ Formatting.floatChars by decide
    | true => exact show "-inf".toList ⊆ Formatting.floatChars by decide
  | finite value held => exact numbers value

instance (format : FloatFormat) : FloatText format.Value where
  fixed places := valueText (FloatText.fixed places)
  display := valueText FloatText.display
  fixed_chars places value _ inside :=
    valueText_subset (fun value _ inside => FloatText.fixed_chars places value _ inside) value inside
  display_chars value _ inside :=
    valueText_subset (fun value _ inside => FloatText.display_chars value _ inside) value inside

/-- The two powers overflow their sum. The bright hour makes the guides overflow,
and without overflow checks they never end. -/
theorem decoded_updates_leave_range :
    ((∀ input ∈ fullPower, input.Decoded) ∧
      ¬ StepsMeet Input.step (fun dashboard input => ∀ now, input = .renders now → Safe true dashboard.status now)
        Dashboard.default fullPower) ∧
    ((∀ input ∈ brightDay, input.Decoded) ∧
      ¬ StepsMeet Input.step (fun dashboard input => ∀ now, input = .renders now → Safe true dashboard.status now)
        Dashboard.default brightDay ∧
      ∀ iterations, (render ⟨false, iterations⟩ true (run Input.step Dashboard.default brightDay).status none
        ([] : List (Event F32))).1 = .error .unfinished) := by
  refine ⟨⟨?_, fun meets => ?_⟩, ?_, fun meets => ?_, fun iterations => ?_⟩
  · simp only [fullPower, List.forall_mem_cons]
    exact ⟨show IntType.i32.Holds 2147483647 by decide, show IntType.i32.Holds 1 by decide, trivial, by simp⟩
  · have power := (inRange_of_safe (meets.2.2.1 none rfl)).power
    exact absurd power (by decide)
  · simp only [brightDay, List.forall_mem_cons]
    refine ⟨?_, trivial, by simp⟩
    intro series member hour
    have finite {value : F64} (bright : value = brightHour ∨ value = 0) : value ≠ .nan := by
      rcases bright with rfl | rfl <;> nofun
    simp only [brightSummary, List.mem_cons, List.not_mem_nil, or_false] at member
    rcases member with rfl | rfl | rfl
    · exact ⟨finite (ite_eq_or_eq _ _ _), finite (Or.inr rfl)⟩
    · exact ⟨finite (Or.inr rfl), finite (Or.inr rfl)⟩
    · exact ⟨finite (Or.inr rfl), finite (Or.inr rfl)⟩
  · have solar := (inRange_of_safe (meets.2.1 none rfl)).solar 12
    exact absurd solar (by decide +kernel)
  · exact (render_never_ends rfl (by decide +kernel)).outcome []

end EnergyDisplay.Renderer

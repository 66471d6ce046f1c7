import EnergyDisplay.Lib.RoundingError
import EnergyDisplay.RenderSafetyProofs

/-! The graph in the floats of the display. Every share is rounded twice before it
is cut off to a number of rows; what this adds to two bars, or to the two parts of
the graph, is less than a row, so that they fit as they do in exact arithmetic. -/
namespace EnergyDisplay.Renderer

open Fallible
open FloatFormat (binary64 binary32 Value)

/-! ## Numbers of rows -/

/-- Two numbers of rows that are less than a row too many are cut off to no more. -/
theorem floor_add_floor_le {first second : ℚ} {rows : Int} (less : first + second < rows + 1) :
    ⌊first⌋ + ⌊second⌋ ≤ rows := by
  have one := Int.floor_le first
  have two := Int.floor_le second
  have sum : ((⌊first⌋ + ⌊second⌋ : Int) : ℚ) < ((rows + 1 : Int) : ℚ) := by
    push_cast
    linarith
  exact Int.lt_add_one_iff.mp (by exact_mod_cast sum)

/-- A maximum that the guides can pass is a number. -/
theorem finite_of_guided {value : F64} (least : ((1000 : Int) : F64) ≤ value)
    (guided : Value.asInt .i64 value ≤ lastGuide) :
    ∃ (number : ℚ) (held : binary64.Has number), value = .finite number held ∧ 1000 ≤ number ∧ number ≤ 2 ^ 63 := by
  rcases Value.pos_cases (positive_of_thousand least) with rfl | ⟨number, held, rfl, positive⟩
  · exact absurd guided (by decide)
  · rw [thousand, Value.finite_le_finite] at least
    refine ⟨number, held, rfl, by exact_mod_cast least, ?_⟩
    have whole : ⌊number⌋ ≤ lastGuide := by
      rw [Value.asInt, truncate_of_nonneg positive.le] at guided
      simp only [IntType.saturate, IntType.least, IntType.greatest, lastGuide] at guided ⊢
      omega
    have above := Int.lt_floor_add_one number
    have bound : ((⌊number⌋ + 1 : Int) : ℚ) ≤ (2 ^ 63 : Int) := by
      exact_mod_cast (show ⌊number⌋ + 1 ≤ 2 ^ 63 by unfold lastGuide at whole; omega)
    push_cast at bound
    linarith

/-- The parts of a sum, the sum and the shares are all rounded. -/
theorem shares_fit {up down : ℚ} (upHeld : binary64.Has up) (downHeld : binary64.Has down) (upLeast : 1000 ≤ up)
    (downLeast : 1000 ≤ down) :
    let total := binary32.round (binary64.round (up + down))
    binary32.round up ≤ total ∧ binary32.round down ≤ total ∧ 1000 ≤ total ∧
      binary32.share (binary32.round up) total 74 + binary32.share (binary32.round down) total 74 < 75 := by
  intro total
  have upSum := FloatFormat.round_mono binary64 (show 0 ≤ up by linarith) (show up ≤ up + down by linarith)
  have downSum := FloatFormat.round_mono binary64 (show 0 ≤ down by linarith) (show down ≤ up + down by linarith)
  rw [upHeld.1] at upSum
  rw [downHeld.1] at downSum
  have upLe : binary32.round up ≤ total := FloatFormat.round_mono binary32 (by linarith) upSum
  have downLe : binary32.round down ≤ total := FloatFormat.round_mono binary32 (by linarith) downSum
  have least : 1000 ≤ total := by
    have thousand : ((1000 : ℤ) : ℚ) ≤ up := by exact_mod_cast upLeast
    have rounded := FloatFormat.round_mono binary32 (by norm_num) thousand
    rw [(binary32.has_intCast (by decide)).1] at rounded
    exact_mod_cast rounded.trans upLe
  refine ⟨upLe, downLe, least, ?_⟩
  have rounded (format : FloatFormat) (inside : format.leastExponent + format.precision ≤ 1) {value : ℚ}
      (large : 1000 ≤ value) :=
    abs_le.mp (FloatFormat.round_error_of_one_le format inside (show 1 ≤ value by linarith))
  have upError : binary32.round up - up ≤ up / 2 ^ 24 := (rounded binary32 (by decide) upLeast).2
  have downError : binary32.round down - down ≤ down / 2 ^ 24 := (rounded binary32 (by decide) downLeast).2
  have sumError : -((up + down) / 2 ^ 53) ≤ binary64.round (up + down) - (up + down) :=
    (rounded binary64 (by decide) (by linarith)).1
  have totalError : -(binary64.round (up + down) / 2 ^ 24) ≤ total - binary64.round (up + down) :=
    (rounded binary32 (by decide) (upLeast.trans upSum)).1
  have fraction : (binary32.round up + binary32.round down) / total ≤ 1001 / 1000 := by
    rw [div_le_iff₀ (by linarith)]
    linarith
  have shared {part : ℚ} (nonneg : 0 ≤ part) (le : part ≤ total) :
      binary32.share part total 74 ≤ part / total * 74 + 2 ^ ((7 : ℤ) + 1 - 24) :=
    FloatFormat.share_le (by decide) nonneg le (by linarith) (by norm_num) (by norm_num) (by norm_num)
  have upShare := shared (FloatFormat.round_nonneg binary32 (by linarith)) upLe
  have downShare := shared (FloatFormat.round_nonneg binary32 (by linarith)) downLe
  rw [add_div] at fraction
  norm_num at upShare downShare
  linarith

variable {status : EnergyStatus F64} {execution : Execution}

/-- A part of the graph is its share of the rows, cut off. -/
theorem part_height {part total : F64} {number whole : ℚ} {partHeld : binary32.Has number}
    {totalHeld : binary32.Has whole} (partIs : (Value.convert part : F32) = .finite number partHeld)
    (totalIs : (Value.convert total : F32) = .finite whole totalHeld) (nonneg : 0 ≤ number) (le : number ≤ whole)
    (positive : 0 < whole) :
    Value.asInt .u32 (((74 : Int) : F32) * (Value.convert part / Value.convert total)) =
        ⌊binary32.share number whole 74⌋ ∧ 0 ≤ ⌊binary32.share number whole 74⌋ := by
  have rowsHeld : binary32.Has ((74 : Int) : ℚ) := binary32.has_intCast (by decide)
  obtain ⟨held, -, shared⟩ := Value.finite_share partHeld totalHeld nonneg le positive (by norm_num) rowsHeld
  obtain ⟨lower, upper⟩ := FloatFormat.share_bounds nonneg le positive (by norm_num) rowsHeld
  rw [partIs, totalIs, Value.intCast_eq (by decide), shared, Value.asInt_finite lower (upper.trans (by norm_num))]
  exact ⟨rfl, Int.floor_nonneg.mpr (by exact_mod_cast lower)⟩

/-- The two parts of the graph are at most all of its rows. -/
theorem heights_spec (positiveGuided : Value.asInt .i64 (maxPositive status) ≤ lastGuide)
    (negativeGuided : Value.asInt .i64 (maxNegative status) ≤ lastGuide) :
    0 ≤ (graphScale F32 graphBounds status).positiveHeight ∧
      0 ≤ (graphScale F32 graphBounds status).negativeHeight ∧
      (graphScale F32 graphBounds status).positiveHeight +
        (graphScale F32 graphBounds status).negativeHeight ≤ 74 := by
  obtain ⟨up, upHeld, upIs, upLeast, upMost⟩ := finite_of_guided (maxPositive_spec64 status).1 positiveGuided
  obtain ⟨down, downHeld, downIs, downLeast, downMost⟩ :=
    finite_of_guided (maxNegative_spec64 status).1 negativeGuided
  have limit (format : FloatFormat) (small : (64 : ℕ) ≤ format.greatestExponent) : format.Has (2 ^ 64) :=
    format.has_two_pow small
  have sumLe : up + down ≤ 2 ^ 64 := by linarith
  have sumNonneg : 0 ≤ up + down := by linarith
  have roundedLe := FloatFormat.round_mono binary64 sumNonneg sumLe
  rw [(limit binary64 (by decide)).1] at roundedLe
  have single {part : F64} {value : ℚ} {held : binary64.Has value} (partIs : part = .finite value held)
      (nonneg : 0 ≤ value) (le : value ≤ 2 ^ 64) :
      ∃ kept, (Value.convert part : F32) = .finite (binary32.round value) kept := by
    rw [partIs]
    exact Value.rounded_below (limit binary32 (by decide)) nonneg le
  obtain ⟨sumHeld, sum⟩ := Value.rounded_below (limit binary64 (by decide)) sumNonneg sumLe
  have sumIs : maxPositive status + maxNegative status = .finite (binary64.round (up + down)) sumHeld := by
    rw [upIs, downIs]
    exact sum
  obtain ⟨_, total⟩ := single sumIs (FloatFormat.round_nonneg binary64 sumNonneg) roundedLe
  obtain ⟨_, upSingle⟩ := single upIs (by linarith) (by linarith)
  obtain ⟨_, downSingle⟩ := single downIs (by linarith) (by linarith)
  obtain ⟨upLe, downLe, least, fit⟩ := shares_fit upHeld downHeld upLeast downLeast
  obtain ⟨positiveIs, positiveNonneg⟩ :=
    part_height upSingle total (FloatFormat.round_nonneg binary32 (by linarith)) upLe (by linarith)
  obtain ⟨negativeIs, negativeNonneg⟩ :=
    part_height downSingle total (FloatFormat.round_nonneg binary32 (by linarith)) downLe (by linarith)
  show 0 ≤ Value.asInt .u32 (((74 : Int) : F32) *
      (Value.convert (maxPositive status) / Value.convert (maxPositive status + maxNegative status))) ∧
    0 ≤ Value.asInt .u32 (((74 : Int) : F32) *
      (Value.convert (maxNegative status) / Value.convert (maxPositive status + maxNegative status))) ∧
    Value.asInt .u32 (((74 : Int) : F32) *
        (Value.convert (maxPositive status) / Value.convert (maxPositive status + maxNegative status))) +
      Value.asInt .u32 (((74 : Int) : F32) *
        (Value.convert (maxNegative status) / Value.convert (maxPositive status + maxNegative status))) ≤ 74
  rw [positiveIs, negativeIs]
  exact ⟨positiveNonneg, negativeNonneg, floor_add_floor_le (by push_cast; linarith)⟩

/-! ## Bars -/

section Bars

variable {first second most : ℚ} {rows : Int}

theorem rows_held (nonneg : 0 ≤ rows) (few : rows ≤ 74) : |rows| < 2 ^ binary64.precision := by
  rw [abs_of_nonneg nonneg]
  exact (show rows ≤ 74 from few).trans_lt (by decide)

/-- A number of rows is a share of them, cut off, and no more than all of them. -/
theorem rows_spec (type : IntType) {value limit : F64} {firstHeld : binary64.Has first}
    {mostHeld : binary64.Has most}
    (valueIs : value = .finite first firstHeld) (limitIs : limit = .finite most mostHeld) (nonneg : 0 ≤ first)
    (le : first ≤ most) (positive : 0 < most) (some_ : 0 ≤ rows) (few : rows ≤ 74) :
    Value.asInt type (value / limit * ((rows : Int) : F64)) = ⌊binary64.share first most rows⌋ ∧
      0 ≤ ⌊binary64.share first most rows⌋ ∧ ⌊binary64.share first most rows⌋ ≤ rows := by
  have rowsHeld := binary64.has_intCast (rows_held some_ few)
  have rowsNonneg : (0 : ℚ) ≤ rows := by exact_mod_cast some_
  have rowsFew : (rows : ℚ) ≤ 74 := by exact_mod_cast few
  obtain ⟨held, shared, -⟩ := Value.finite_share firstHeld mostHeld nonneg le positive rowsNonneg rowsHeld
  obtain ⟨lower, upper⟩ := FloatFormat.share_bounds nonneg le positive rowsNonneg rowsHeld
  refine ⟨?_, Int.floor_nonneg.mpr lower, by exact_mod_cast (Int.floor_le _).trans upper⟩
  rw [valueIs, limitIs, Value.intCast_eq (rows_held some_ few), shared,
    Value.asInt_finite lower (upper.trans (by linarith))]

theorem barHeight_zero {limit : F64} {mostHeld : binary64.Has most} (limitIs : limit = .finite most mostHeld)
    (positive : 0 < most) (some_ : 0 ≤ rows) (few : rows ≤ 74) : barHeight (0 : F64) limit rows = 0 := by
  have bar := (rows_spec .u32 (show (0 : F64) = .finite 0 binary64.has_zero from rfl) limitIs le_rfl positive.le
    positive some_ few).1
  rw [FloatFormat.share, zero_div, FloatFormat.round_zero, zero_mul, FloatFormat.round_zero, Int.floor_zero] at bar
  exact bar

/-- Two bars of an hour fit on one another if their rounded sum is no more than the most. -/
theorem bars_fit (one : 0 ≤ first) (two : 0 ≤ second) (firstLe : first ≤ most) (secondLe : second ≤ most)
    (sum : binary64.round (first + second) ≤ most) (least : 1000 ≤ most) (some_ : 0 ≤ rows) (few : rows ≤ 74) :
    ⌊binary64.share first most rows⌋ + ⌊binary64.share second most rows⌋ ≤ rows := by
  have rowsNonneg : (0 : ℚ) ≤ rows := by exact_mod_cast some_
  have rowsFew : (rows : ℚ) ≤ 74 := by exact_mod_cast few
  have exact_ : first + second ≤ 1001 / 1000 * most := by
    rcases le_or_gt (first + second) 1 with small | large
    · linarith
    · have error : -((first + second) / 2 ^ 53) ≤ binary64.round (first + second) - (first + second) :=
        (abs_le.mp (FloatFormat.round_error_of_one_le binary64 (by decide) large.le)).1
      linarith
  have shared {part : ℚ} (nonneg : 0 ≤ part) (le : part ≤ most) :
      binary64.share part most rows ≤ part / most * rows + 2 ^ ((7 : ℤ) + 1 - 53) :=
    FloatFormat.share_le (by decide) nonneg le (by linarith) rowsNonneg (rowsFew.trans (by norm_num)) (by norm_num)
  have firstShare := shared one firstLe
  have secondShare := shared two secondLe
  have together : first / most * rows + second / most * rows ≤ 1001 / 1000 * rows := by
    rw [← add_mul, ← add_div]
    exact mul_le_mul_of_nonneg_right ((div_le_iff₀ (by linarith)).mpr exact_) rowsNonneg
  refine floor_add_floor_le ?_
  norm_num at firstShare secondShare
  linarith

/-- A guide below its limit is no further from the axis than the bars reach. -/
theorem guideOffset_spec {guide : Int} {limit : F64} (least : ((1000 : Int) : F64) ≤ limit)
    (guided : Value.asInt .i64 limit ≤ lastGuide) (start : 0 ≤ guide) (below : guide < Value.asInt .i64 limit)
    (some_ : 0 ≤ rows) (few : rows ≤ 74) :
    0 ≤ (guideOffset guide limit rows).y ∧ (guideOffset guide limit rows).y ≤ rows := by
  obtain ⟨most, held, limitIs, mostLeast, -⟩ := finite_of_guided least guided
  have guideLe : (guide : ℚ) ≤ most := by
    have cut : guide ≤ ⌊most⌋ := by
      rw [limitIs, Value.asInt, truncate_of_nonneg (by linarith)] at below
      have nonneg : 0 ≤ ⌊most⌋ := Int.floor_nonneg.mpr (by linarith)
      simp only [IntType.saturate, IntType.least, IntType.greatest] at below
      omega
    exact (Int.cast_le.mpr cut).trans (Int.floor_le most)
  have startNonneg : (0 : ℚ) ≤ guide := by exact_mod_cast start
  obtain ⟨guideHeld, guideIs⟩ : ∃ kept, ((guide : Int) : F64) = .finite (binary64.round guide) kept :=
    Value.rounded_below held startNonneg guideLe
  have rounded := FloatFormat.round_mono binary64 startNonneg guideLe
  rw [held.1] at rounded
  obtain ⟨offset, bounds⟩ := rows_spec .i32 guideIs limitIs
    (FloatFormat.round_nonneg binary64 startNonneg) rounded (by linarith) some_ few
  rw [← offset] at bounds
  exact bounds

end Bars

/-- No hour of a series is negative, and all are numbers. -/
def Counted (status : EnergyStatus F64) : Prop :=
  ∀ series ∈ [status.solarProductionHourly, status.gridImportHourly, status.gridExportHourly], ∀ hour,
    0 ≤ series.values hour

/-- The heights of an hour's bars. -/
theorem hour_spec (counted : Counted status) (positiveGuided : Value.asInt .i64 (maxPositive status) ≤ lastGuide)
    (negativeGuided : Value.asInt .i64 (maxNegative status) ≤ lastGuide) (hour : Fin 24) :
    let scale := graphScale F32 graphBounds status
    let solar := barHeight (status.solarProductionHourly.values hour) scale.maxNegative scale.negativeHeight
    let import_ := barHeight (status.gridImportHourly.values hour) scale.maxPositive scale.positiveHeight
    let export_ := barHeight (status.gridExportHourly.values hour) scale.maxPositive scale.positiveHeight
    0 ≤ solar ∧ solar ≤ scale.negativeHeight ∧ 0 ≤ import_ ∧ 0 ≤ export_ ∧
      import_ + export_ ≤ scale.positiveHeight := by
  intro scale solar import_ export_
  obtain ⟨upNonneg, downNonneg, together⟩ := heights_spec positiveGuided negativeGuided
  obtain ⟨up, upHeld, upIs, upLeast, upMost⟩ := finite_of_guided (maxPositive_spec64 status).1 positiveGuided
  obtain ⟨down, downHeld, downIs, downLeast, downMost⟩ :=
    finite_of_guided (maxNegative_spec64 status).1 negativeGuided
  have sun := counted status.solarProductionHourly (by simp) hour
  have sunLe : status.solarProductionHourly.values hour ≤ maxNegative status :=
    (maximum_spec status.solarProductionHourly.values (List.finRange 24)).2.1 hour (List.mem_finRange hour) sun.2.1
  rw [downIs] at sunLe
  obtain ⟨value, valueHeld, solarIs, solarNonneg, solarLe⟩ := Value.finite_of_le sun sunLe
  have sumLe := (maxPositive_spec64 status).2.1 hour
  rw [upIs] at sumLe
  obtain ⟨exported, imported, exportHeld, importHeld, exportIs, importIs, exportNonneg, importNonneg, sum⟩ :=
    Value.finite_of_add_le (counted status.gridExportHourly (by simp) hour)
      (counted status.gridImportHourly (by simp) hour) sumLe
  have exportLe := FloatFormat.round_mono binary64 exportNonneg (le_add_of_nonneg_right importNonneg)
  have importLe := FloatFormat.round_mono binary64 importNonneg (le_add_of_nonneg_left exportNonneg)
  rw [exportHeld.1] at exportLe
  rw [importHeld.1] at importLe
  obtain ⟨solarBar, solarBounds⟩ :=
    rows_spec .u32 solarIs downIs solarNonneg solarLe (by linarith) downNonneg (by omega)
  obtain ⟨exportBar, exportBounds⟩ :=
    rows_spec .u32 exportIs upIs exportNonneg (exportLe.trans sum) (by linarith) upNonneg (by omega)
  obtain ⟨importBar, importBounds⟩ :=
    rows_spec .u32 importIs upIs importNonneg (importLe.trans sum) (by linarith) upNonneg (by omega)
  have fit := bars_fit importNonneg exportNonneg (importLe.trans sum) (exportLe.trans sum)
    (by rwa [add_comm]) upLeast upNonneg (by omega)
  rw [← importBar, ← exportBar] at fit
  rw [← solarBar] at solarBounds
  rw [← exportBar] at exportBounds
  rw [← importBar] at importBounds
  exact ⟨solarBounds.1, solarBounds.2, importBounds.1, exportBounds.1, fit⟩

end EnergyDisplay.Renderer

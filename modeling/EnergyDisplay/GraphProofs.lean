import EnergyDisplay.ExactFloats
import EnergyDisplay.RendererProofs
import Mathlib.Data.Int.ConditionallyCompleteOrder
import Mathlib.Order.Interval.Set.Basic

/-! The graph in exact arithmetic. The two heights are shares of the rows there
are, each rounded down, so that the axis always has a row; a bar is a share of
its height, rounded down again, so that the shares of export and import together
are at most that height. -/
namespace EnergyDisplay.Renderer

open Fallible AsInt

/-- The rows a drawing may touch; half of a stroke, rounded down, is outside of
its shape. -/
def Drawing.rows {G : Type} : Drawing G → Set Int
  | .line start stop style =>
    Set.Icc (min start.y stop.y - (style.strokeWidth / 2 : ℕ)) (max start.y stop.y + (style.strokeWidth / 2 : ℕ))
  | .rectangle bounds style =>
    Set.Ico (bounds.topLeft.y - (style.strokeWidth / 2 : ℕ))
      (bounds.topLeft.y + bounds.size.height + (style.strokeWidth / 2 : ℕ))
  | .pixels points _ => {row | ∃ point ∈ points, point.y = row}
  | _ => Set.univ

/-! ## Whole numbers of pixels -/

theorem asInt_eq_floor {type : IntType} {value : ℚ} (nonneg : 0 ≤ value) (small : value ≤ 10 ^ 9) :
    asInt type value = ⌊value⌋ := by
  have upper : ⌊value⌋ ≤ 10 ^ 9 := by exact_mod_cast (Int.floor_le value).trans small
  have lower : 0 ≤ ⌊value⌋ := Int.floor_nonneg.mpr nonneg
  have holds : type.Holds ⌊value⌋ := by
    cases type <;> simp only [IntType.Holds, IntType.least, IntType.greatest] <;> omega
  show type.saturate (truncate value) = _
  rw [truncate_of_nonneg nonneg, IntType.saturate_of_holds holds]

/-- A limit of guides is cut off, not rounded up. -/
theorem asInt_i64_le {value : ℚ} (nonneg : 0 ≤ value) : ((asInt .i64 value : Int) : ℚ) ≤ value := by
  have cut : asInt .i64 value ≤ ⌊value⌋ := by
    show IntType.i64.saturate (truncate value) ≤ _
    have lower : 0 ≤ ⌊value⌋ := Int.floor_nonneg.mpr nonneg
    rw [truncate_of_nonneg nonneg]
    simp only [IntType.saturate, IntType.least, IntType.greatest]
    omega
  exact (Int.cast_le.mpr cut).trans (Int.floor_le value)

section Shares

variable {value other most : ℚ} {height : Int}

theorem share_bounds (nonneg : 0 ≤ value) (le : value ≤ most) (positive : 0 < most) (high : 0 ≤ height) :
    0 ≤ value / most * height ∧ value / most * height ≤ height := by
  have fraction : value / most ≤ 1 := (div_le_one positive).mpr le
  have rows : (0 : ℚ) ≤ height := by exact_mod_cast high
  exact ⟨by positivity, mul_le_of_le_one_left rows fraction⟩

theorem barHeight_eq (nonneg : 0 ≤ value) (le : value ≤ most) (positive : 0 < most) (high : 0 ≤ height)
    (low : height ≤ 74) : barHeight value most height = ⌊value / most * height⌋ := by
  obtain ⟨lower, upper⟩ := share_bounds nonneg le positive high
  have rows : (height : ℚ) ≤ 74 := by exact_mod_cast low
  exact asInt_eq_floor lower (by linarith)

theorem barHeight_bounds (nonneg : 0 ≤ value) (le : value ≤ most) (positive : 0 < most) (high : 0 ≤ height)
    (low : height ≤ 74) : 0 ≤ barHeight value most height ∧ barHeight value most height ≤ height := by
  obtain ⟨lower, upper⟩ := share_bounds nonneg le positive high
  rw [barHeight_eq nonneg le positive high low]
  exact ⟨Int.floor_nonneg.mpr lower, by exact_mod_cast (Int.floor_le _).trans upper⟩

/-- Two bars together are no higher than what the two values share. -/
theorem barHeight_add_le (nonneg : 0 ≤ value) (nonneg' : 0 ≤ other) (le : value + other ≤ most)
    (positive : 0 < most)
    (high : 0 ≤ height) (low : height ≤ 74) :
    barHeight value most height + barHeight other most height ≤ height := by
  rw [barHeight_eq nonneg (by linarith) positive high low, barHeight_eq nonneg' (by linarith) positive high low]
  have both := (share_bounds (add_nonneg nonneg nonneg') le positive high).2
  rw [add_div, add_mul] at both
  have first := Int.floor_le (value / most * height)
  have second := Int.floor_le (other / most * height)
  exact_mod_cast (add_le_add first second).trans both

/-- A guide below the limit is nearer to the axis than the bars reach, if they
reach anywhere. -/
theorem guideOffset_bounds {guide : Int} (start : 0 ≤ guide) (below : guide < asInt .i64 most) (high : 0 ≤ height)
    (low : height ≤ 74) :
    0 ≤ (guideOffset guide most height).y ∧ (guideOffset guide most height).y ≤ height ∧
      (0 < height → (guideOffset guide most height).y < height) := by
  have nonneg : (0 : ℚ) ≤ guide := by exact_mod_cast start
  have positive : 0 < most := by
    by_contra negative
    have cut : asInt .i64 most ≤ 0 := by
      show IntType.i64.saturate (truncate most) ≤ 0
      have le := truncate_mono (not_lt.mp negative)
      rw [truncate_of_nonneg le_rfl, Int.floor_zero] at le
      simp only [IntType.saturate, IntType.least, IntType.greatest]
      omega
    omega
  have less : (guide : ℚ) < most := by
    have limit := asInt_i64_le positive.le
    have step : (guide : ℚ) < ((asInt .i64 most : Int) : ℚ) := by exact_mod_cast below
    linarith
  have same : (guideOffset guide most height).y = barHeight (guide : ℚ) most height := by
    obtain ⟨lower, upper⟩ := share_bounds nonneg less.le positive high
    have rows : (height : ℚ) ≤ 74 := by exact_mod_cast low
    rw [barHeight_eq nonneg less.le positive high low]
    exact asInt_eq_floor lower (by linarith)
  obtain ⟨lower, upper⟩ := barHeight_bounds nonneg less.le positive high low
  refine ⟨same ▸ lower, same ▸ upper, fun some_ => ?_⟩
  rw [same, barHeight_eq nonneg less.le positive high low]
  have fraction : (guide : ℚ) / most < 1 := (div_lt_one positive).mpr less
  have rows : (0 : ℚ) < height := by exact_mod_cast some_
  exact Int.floor_lt.mpr (mul_lt_of_lt_one_left rows fraction)

end Shares

/-! ## The scale -/

/-- The greatest of a first value and others, which stays below what they do. -/
theorem foldl_max_spec {α : Type*} (values : α → ℚ) (items : List α) (first bound : ℚ) (small : first ≤ bound)
    (bounded : ∀ item ∈ items, values item ≤ bound) :
    first ≤ items.foldl (fun most item => max most (values item)) first ∧
      (∀ item ∈ items, values item ≤ items.foldl (fun most item => max most (values item)) first) ∧
      items.foldl (fun most item => max most (values item)) first ≤ bound := by
  induction items generalizing first with
  | nil => exact ⟨le_rfl, by simp, small⟩
  | cons item rest ih =>
    obtain ⟨here, others⟩ := List.forall_mem_cons.mp bounded
    obtain ⟨grown, taken, below⟩ := ih (max first (values item)) (max_le small here) others
    rw [List.foldl_cons]
    exact ⟨(le_max_left _ _).trans grown, List.forall_mem_cons.mpr ⟨(le_max_right _ _).trans grown, taken⟩, below⟩

/-- What the summaries of a day amount to: nothing negative, and no petawatt-hours. -/
def Bounded (status : EnergyStatus ℚ) : Prop :=
  ∀ series ∈ [status.solarProductionHourly, status.gridImportHourly, status.gridExportHourly], ∀ hour,
    0 ≤ series.values hour ∧ series.values hour < 10 ^ 15

variable {status : EnergyStatus ℚ}

theorem maxNegative_spec (bounded : Bounded status) :
    1000 ≤ maxNegative status ∧ (∀ hour, status.solarProductionHourly.values hour ≤ maxNegative status) ∧
      maxNegative status ≤ 2 * 10 ^ 15 := by
  have values (hour : Fin 24) : status.solarProductionHourly.values hour ≤ 2 * 10 ^ 15 := by
    linarith [(bounded status.solarProductionHourly (by simp) hour).2]
  obtain ⟨least, most, below⟩ := foldl_max_spec status.solarProductionHourly.values (List.finRange 24)
    ((1000 : Int) : ℚ) (2 * 10 ^ 15) (by norm_num) fun hour _ => values hour
  exact ⟨by exact_mod_cast least, fun hour => most hour (List.mem_finRange hour), below⟩

theorem maxPositive_spec (bounded : Bounded status) :
    1000 ≤ maxPositive status ∧
      (∀ hour, status.gridExportHourly.values hour + status.gridImportHourly.values hour ≤ maxPositive status) ∧
      maxPositive status ≤ 2 * 10 ^ 15 := by
  have values (hour : Fin 24) :
      status.gridExportHourly.values hour + status.gridImportHourly.values hour ≤ 2 * 10 ^ 15 := by
    linarith [(bounded status.gridImportHourly (by simp) hour).2,
        (bounded status.gridExportHourly (by simp) hour).2]
  obtain ⟨least, most, below⟩ := foldl_max_spec
    (fun hour => status.gridExportHourly.values hour + status.gridImportHourly.values hour) (List.finRange 24)
    ((1000 : Int) : ℚ) (2 * 10 ^ 15) (by norm_num) fun hour _ => values hour
  exact ⟨by exact_mod_cast least, fun hour => most hour (List.mem_finRange hour), below⟩

/-- The heights share 74 rows, of which the axis is the first below the bars that
go up; there is always one for it. -/
theorem graphScale_spec (bounded : Bounded status) :
    0 ≤ (graphScale ℚ graphBounds status).positiveHeight ∧ 0 ≤ (graphScale ℚ graphBounds status).negativeHeight ∧
      (graphScale ℚ graphBounds status).positiveHeight ≤ 73 ∧
      (graphScale ℚ graphBounds status).positiveHeight + (graphScale ℚ graphBounds status).negativeHeight ≤ 74 ∧
      (graphScale ℚ graphBounds status).axisLeft.y = 118 + (graphScale ℚ graphBounds status).positiveHeight := by
  obtain ⟨positive, _, _⟩ := maxPositive_spec bounded
  obtain ⟨negative, _, _⟩ := maxNegative_spec bounded
  have total : 0 < maxPositive status + maxNegative status := by linarith
  have share (part : ℚ) (nonneg : 0 ≤ part) (le : part ≤ maxPositive status + maxNegative status) :
      asInt .u32 (74 * (part / (maxPositive status + maxNegative status))) =
        ⌊74 * (part / (maxPositive status + maxNegative status))⌋ := by
    have fraction : part / (maxPositive status + maxNegative status) ≤ 1 := (div_le_one total).mpr le
    exact asInt_eq_floor (by positivity) (by linarith)
  have one := share (maxPositive status) (by linarith) (by linarith)
  have two := share (maxNegative status) (by linarith) (by linarith)
  set up := 74 * (maxPositive status / (maxPositive status + maxNegative status)) with upIs
  set down := 74 * (maxNegative status / (maxPositive status + maxNegative status)) with downIs
  have sum : up + down = 74 := by
    rw [upIs, downIs, ← mul_add, ← add_div, div_self total.ne', mul_one]
  have upNonneg : 0 ≤ up := mul_nonneg (by norm_num) (div_nonneg (by linarith) total.le)
  have downPos : 0 < down := mul_pos (by norm_num) (div_pos (by linarith) total)
  have heights : (graphScale ℚ graphBounds status).positiveHeight = ⌊up⌋ ∧
      (graphScale ℚ graphBounds status).negativeHeight = ⌊down⌋ := ⟨one, two⟩
  have upFloor := Int.floor_le up
  have downFloor := Int.floor_le down
  have below : ⌊up⌋ ≤ 73 := Int.lt_add_one_iff.mp (Int.floor_lt.mpr (by push_cast; linarith))
  have together : ⌊up⌋ + ⌊down⌋ ≤ 74 := by
    have le : ((⌊up⌋ + ⌊down⌋ : Int) : ℚ) ≤ (74 : Int) := by
      push_cast
      linarith
    exact_mod_cast le
  have upLower : 0 ≤ ⌊up⌋ := Int.floor_nonneg.mpr upNonneg
  refine ⟨heights.1 ▸ upLower, heights.2 ▸ Int.floor_nonneg.mpr downPos.le, heights.1 ▸ below,
    heights.1 ▸ heights.2 ▸ together, ?_⟩
  show (111 : Int) + (7 + IntType.i32.wrap (asInt .u32 up)) = 118 + _
  rw [heights.1, one, IntType.wrap_of_holds
      ⟨by simp only [IntType.least]; omega, by simp only [IntType.greatest]; omega⟩]
  omega

/-! ## Bars -/

/-- The heights of an hour's bars. -/
theorem hour_heights (bounded : Bounded status) (hour : Fin 24) :
    let scale := graphScale ℚ graphBounds status
    let solar := barHeight (status.solarProductionHourly.values hour) scale.maxNegative scale.negativeHeight
    let import_ := barHeight (status.gridImportHourly.values hour) scale.maxPositive scale.positiveHeight
    let export_ := barHeight (status.gridExportHourly.values hour) scale.maxPositive scale.positiveHeight
    0 ≤ solar ∧ solar ≤ scale.negativeHeight ∧ 0 ≤ import_ ∧ 0 ≤ export_ ∧
    import_ + export_ ≤ scale.positiveHeight := by
  obtain ⟨up, down, upLow, together, _⟩ := graphScale_spec bounded
  obtain ⟨positive, grid, _⟩ := maxPositive_spec bounded
  obtain ⟨negative, sun, _⟩ := maxNegative_spec bounded
  have solar := (bounded status.solarProductionHourly (by simp) hour).1
  have import_ := (bounded status.gridImportHourly (by simp) hour).1
  have export_ := (bounded status.gridExportHourly (by simp) hour).1
  have sum := grid hour
  have mostPositive : (0 : ℚ) < (graphScale ℚ graphBounds status).maxPositive := by
    show 0 < maxPositive status
    linarith
  have mostNegative : (0 : ℚ) < (graphScale ℚ graphBounds status).maxNegative := by
    show 0 < maxNegative status
    linarith
  have solarBounds := barHeight_bounds solar (sun hour) mostNegative down (by omega)
  have importBounds := barHeight_bounds import_
      ((le_add_of_nonneg_left export_).trans sum) mostPositive up (by omega)
  have exportBounds := barHeight_bounds export_
      ((le_add_of_nonneg_right import_).trans sum) mostPositive up (by omega)
  exact ⟨solarBounds.1, solarBounds.2, importBounds.1, exportBounds.1,
    barHeight_add_le import_ export_ (by rwa [add_comm]) mostPositive up (by omega)⟩

/-- Which bars an hour has, and where. -/
theorem drawHour_bars (execution : Execution) (bounded : Bounded status) (hour : Fin 24) :
    Adds (hourBars graphBounds status (graphScale ℚ graphBounds status) hour : List (Event ℚ))
      (drawHour execution graphBounds status (graphScale ℚ graphBounds status) hour) := by
  obtain ⟨up, down, upLow, together, axis⟩ := graphScale_spec bounded
  obtain ⟨_, _, importNonneg, exportNonneg, sum⟩ := hour_heights bounded hour
  have none_ {value : ℚ} (nonneg : 0 ≤ value) (nothing : ¬ 0 < value) (most : ℚ) (height : Int) :
      barHeight value most height = 0 := by
    rw [le_antisymm (not_lt.mp nothing) nonneg, barHeight, zero_div, zero_mul, asInt_eq_floor le_rfl (by norm_num),
      Int.floor_zero]
  refine drawHour_adds (by omega) (fun nothing => ?_) (fun nothing => ?_) importNonneg exportNonneg (by omega)
  · exact none_ (bounded status.gridImportHourly (by simp) hour).1 nothing _ _
  · exact none_ (bounded status.gridExportHourly (by simp) hour).1 nothing _ _

/-! ## The graph -/

/-- A drawing between the padding above and the padding below. -/
def InFrame (drawing : Drawing ℚ) : Prop :=
  drawing.rows ⊆ Set.Ico (graphBounds.topLeft.y + padding)
    (graphBounds.topLeft.y + graphBounds.size.height - padding)

theorem inFrame_iff {drawing : Drawing ℚ} : InFrame drawing ↔ drawing.rows ⊆ Set.Ico 118 192 := Iff.rfl

/-- Nothing but drawings in the frame. -/
def Framed (event : Event ℚ) : Prop := ∃ drawing, event = .drawn drawing ∧ InFrame drawing

theorem bar_framed {x top : Int} {width : ℕ} {rows : Int} {fill : BinaryColor}
    (inside : 0 < rows → 118 ≤ top ∧ top + rows ≤ 192) : ∀ event ∈ bar x top width rows fill, Framed event := by
  refine bar_forall fun some_ => ⟨_, rfl, inFrame_iff.mpr ?_⟩
  obtain ⟨lower, upper⟩ := inside some_
  have length : (rows.toNat : Int) = rows := Int.toNat_of_nonneg some_.le
  refine Set.Ico_subset_Ico ?_ ?_ <;> simp [length] <;> omega

variable {stopped : Stop → Prop} {execution : Execution}

theorem drawHour_framed (bounded : Bounded status) (hour : Fin 24) :
    Emits Framed stopped (drawHour execution graphBounds status (graphScale ℚ graphBounds status) hour) := by
  obtain ⟨_, solarLe, importNonneg, exportNonneg, sum⟩ := hour_heights bounded hour
  obtain ⟨up, down, upLow, together, axis⟩ := graphScale_spec bounded
  refine (drawHour_bars execution bounded hour).emits ?_
  refine List.forall_mem_append.mpr ⟨List.forall_mem_append.mpr ⟨?_, ?_⟩, ?_⟩
  · exact bar_framed fun _ => ⟨by omega, by omega⟩
  · exact bar_framed fun _ => ⟨by omega, by omega⟩
  · exact bar_framed fun _ => ⟨by omega, by omega⟩

theorem dottedLine_framed {start : Point} {width : ℕ} (inside : 118 ≤ start.y ∧ start.y < 192) :
    Emits Framed stopped (drawDottedLine start width : Draw ℚ Unit) := by
  refine emits_draw ⟨_, rfl, inFrame_iff.mpr ?_⟩
  rintro row ⟨point, member, rfl⟩
  obtain ⟨index, _, rfl⟩ := List.mem_map.mp member
  exact inside

theorem asInt_limit {most : ℚ} (nonneg : 0 ≤ most) (small : most ≤ 2 * 10 ^ 15) :
    asInt .i64 most ≤ 2 * 10 ^ 15 := by
  exact_mod_cast (asInt_i64_le nonneg).trans small

/-- A limit of at most two petawatt-hours is passed within a million million guides. -/
theorem guides_framed {most : ℚ} {drawGuide : Int → Draw ℚ Unit} (nonneg : 0 ≤ most) (small : most ≤ 2 * 10 ^ 15)
    (ends : stopped .unfinished ∨ 10 ^ 12 < execution.iterations)
    (drawn : ∀ guide, 0 ≤ guide → guide < asInt .i64 most → Emits Framed stopped (drawGuide guide)) :
    Emits Framed stopped (guides execution (asInt .i64 most) drawGuide execution.iterations 2000) := by
  have limit := asInt_limit nonneg small
  refine guides_end (by unfold lastGuide; omega) drawn _ (by omega) (by omega) (by unfold lastGuide; omega)
    (ends.imp_right fun many => ⟨by omega, by omega⟩)

theorem renderGraph_framed (bounded : Bounded status)
    (ends : stopped .unfinished ∨ 10 ^ 12 < execution.iterations) :
    Emits Framed stopped (renderGraph execution graphBounds status : Draw ℚ Unit) := by
  obtain ⟨up, down, upLow, together, axis⟩ := graphScale_spec bounded
  obtain ⟨positive, _, positiveSmall⟩ := maxPositive_spec bounded
  obtain ⟨negative, _, negativeSmall⟩ := maxNegative_spec bounded
  have positiveNonneg : 0 ≤ maxPositive status := by linarith
  have negativeNonneg : 0 ≤ maxNegative status := by linarith
  unfold renderGraph
  refine Emits.bind (emits_draw ⟨_, rfl, inFrame_iff.mpr ?_⟩) fun _ => ?_
  · simp only [Drawing.rows, Point.add_y, add_zero, min_self, max_self, withStroke]
    intro row member
    have same : row = (graphScale ℚ graphBounds status).axisLeft.y := by simpa using member
    exact ⟨by omega, by omega⟩
  refine Emits.bind (Emits.bind (guides_framed negativeNonneg negativeSmall ends fun guide start below => ?_)
    fun _ => guides_framed positiveNonneg positiveSmall ends fun guide start below => ?_) fun _ => ?_
  · obtain ⟨lower, upper, strict⟩ := guideOffset_bounds start below down (by omega)
    refine dottedLine_framed ⟨?_, ?_⟩
    · rw [Point.add_y]
      omega
    · -- Without rows below the axis the guides are on it.
      rw [Point.add_y]
      rcases down.eq_or_lt with none_ | some_
      · omega
      · have nearer := strict some_
        omega
  · obtain ⟨lower, upper, strict⟩ := guideOffset_bounds start below up (by omega)
    refine dottedLine_framed ⟨?_, ?_⟩ <;> rw [Point.sub_y] <;> omega
  · exact emits_forM fun hour _ => drawHour_framed bounded hour

/-- A limit of guides that iterations enough come to. -/
theorem guides_counted {most : ℚ} (nonneg : 0 ≤ most) (small : most ≤ 2 * 10 ^ 15) {iterations : ℕ}
    (many : 10 ^ 12 < iterations) :
    asInt .i64 most ≤ lastGuide ∧ asInt .i64 most ≤ 2000 + 2000 * ((iterations : Int) - 1) := by
  have limit := asInt_limit nonneg small
  constructor
  · unfold lastGuide
    omega
  · omega

/-- A graph that comes to an end is its axis, its guides and its bars. -/
theorem renderGraph_events (bounded : Bounded status) (many : 10 ^ 12 < execution.iterations) :
    Adds (graphEvents graphBounds status) (renderGraph execution graphBounds status : Draw ℚ Unit) := by
  obtain ⟨positive, _, positiveSmall⟩ := maxPositive_spec bounded
  obtain ⟨negative, _, negativeSmall⟩ := maxNegative_spec bounded
  obtain ⟨below, belowEnds⟩ := guides_counted (by linarith) negativeSmall many
  obtain ⟨above, aboveEnds⟩ := guides_counted (by linarith) positiveSmall many
  exact renderGraph_adds (drawHour_bars execution bounded) below above ⟨by omega, belowEnds, aboveEnds⟩

/-- **The graph stays in its frame and stacks.** For hourly values that are not
negative and below 10 to the 15, the axis, the guides and the bars lie between
the paddings of the graph's rectangle, however far the rendering comes. It comes
to an end, with no arithmetic out of its type, and has then drawn the axis, the
guides and the bars of the day. In each hour the bar of what is imported stands
directly on the one of what is exported, together they are no higher than the
part above the axis, and the solar bar is no higher than the part below. -/
theorem graph_stays_in_frame (execution : Execution) (status : EnergyStatus ℚ) (bounded : Bounded status) :
    (∀ event ∈ (renderGraph execution graphBounds status []).2,
        ∃ drawing : Drawing ℚ, event = .drawn drawing ∧ drawing.rows ⊆ Set.Ico
          (graphBounds.topLeft.y + padding) (graphBounds.topLeft.y + graphBounds.size.height - padding)) ∧
      (10 ^ 12 < execution.iterations →
        renderGraph execution graphBounds status ([] : List (Event ℚ)) = (.ok (), graphEvents graphBounds status)) ∧
      ∀ hour (events : List (Event ℚ)),
        let scale := graphScale ℚ graphBounds status
        let solar := barHeight (status.solarProductionHourly.values hour) scale.maxNegative scale.negativeHeight
        let import_ := barHeight (status.gridImportHourly.values hour) scale.maxPositive scale.positiveHeight
        let export_ := barHeight (status.gridExportHourly.values hour) scale.maxPositive scale.positiveHeight
        let x := barLeft graphBounds hour
        let width := barWidth graphBounds
        (0 ≤ solar ∧ solar ≤ scale.negativeHeight ∧ 0 ≤ import_ ∧ 0 ≤ export_ ∧
            import_ + export_ ≤ scale.positiveHeight) ∧
          drawHour execution graphBounds status scale hour events =
            (.ok (), events ++ (bar x scale.axisLeft.y width solar black ++
              bar x (scale.axisLeft.y + 1 - export_) width export_ white ++
              bar x (scale.axisLeft.y + 1 - export_ - import_) width import_ black)) := by
  refine ⟨?_, fun many => ?_, fun hour events =>
      ⟨hour_heights bounded hour, (drawHour_bars execution bounded hour).run events⟩⟩
  · have framed : Emits Framed (fun _ => True) (renderGraph execution graphBounds status) :=
      renderGraph_framed bounded (Or.inl trivial)
    exact framed.all
  · exact (renderGraph_events bounded many).run []

/-- Sun in every hour, and power both ways. -/
def sunnyDay : EnergyStatus ℚ :=
  { EnergyStatus.default with
    solarProductionHourly := { HourlyData.default with values := fun _ => 5000 }
    gridImportHourly := { HourlyData.default with values := fun _ => 2000 }
    gridExportHourly := { HourlyData.default with values := fun _ => 1000 } }

theorem sunnyDay_bounded : Bounded sunnyDay := by
  intro series member hour
  simp only [sunnyDay, List.mem_cons, List.not_mem_nil, or_false] at member
  rcases member with rfl | rfl | rfl <;> norm_num

/-- With guides on both sides of the axis. -/
theorem sunnyDay_stays_in_frame :
    (∀ event ∈ (renderGraph ⟨true, 10 ^ 12 + 1⟩ graphBounds sunnyDay []).2,
        ∃ drawing : Drawing ℚ, event = .drawn drawing ∧ drawing.rows ⊆ Set.Ico
          (graphBounds.topLeft.y + padding) (graphBounds.topLeft.y + graphBounds.size.height - padding)) ∧
      renderGraph ⟨true, 10 ^ 12 + 1⟩ graphBounds sunnyDay ([] : List (Event ℚ)) =
        (.ok (), graphEvents graphBounds sunnyDay) :=
  ⟨(graph_stays_in_frame ⟨true, 10 ^ 12 + 1⟩ sunnyDay sunnyDay_bounded).1,
    (graph_stays_in_frame ⟨true, 10 ^ 12 + 1⟩ sunnyDay sunnyDay_bounded).2.1 (Nat.lt_succ_self _)⟩

end EnergyDisplay.Renderer

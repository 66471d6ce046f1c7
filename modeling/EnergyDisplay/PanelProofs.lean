import EnergyDisplay.FloatGraphProofs

/-! Where a rendering draws. The rows of numbers have fixed places on the panel; the
graph takes as many of its rows as the values of the day ask for, and never more
than it has. -/
namespace EnergyDisplay.Renderer

open Fallible
open FloatFormat (binary64 binary32 Value)

/-! ## Regions -/

/-- A box lies in the region, with a margin around it. -/
def Rectangle.Surrounds (region box : Rectangle) (margin : ℕ) : Prop :=
  region.topLeft.x ≤ box.topLeft.x - margin ∧
    box.topLeft.x + box.size.width + margin ≤ region.topLeft.x + region.size.width ∧
    region.topLeft.y ≤ box.topLeft.y - margin ∧
    box.topLeft.y + box.size.height + margin ≤ region.topLeft.y + region.size.height

instance (region box : Rectangle) (margin : ℕ) : Decidable (region.Surrounds box margin) :=
  inferInstanceAs (Decidable (_ ∧ _ ∧ _ ∧ _))

def Rectangle.Contains (region : Rectangle) (point : Point) (margin : ℕ) : Prop :=
  region.Surrounds ⟨point, ⟨1, 1⟩⟩ margin

instance (region : Rectangle) (point : Point) (margin : ℕ) : Decidable (region.Contains point margin) :=
  inferInstanceAs (Decidable (region.Surrounds _ _))

/-- The box of a text, or the pixels of a shape; half of a stroke, rounded down, is
outside of its shape. -/
def Drawing.Inside {G : Type} (region : Rectangle) : Drawing G → Prop
  | .line start stop style =>
    region.Contains start (style.strokeWidth / 2) ∧ region.Contains stop (style.strokeWidth / 2)
  | .rectangle bounds style => region.Surrounds bounds (style.strokeWidth / 2)
  | .pixels points _ => ∀ point ∈ points, region.Contains point 0
  | .text _ bounds _ _ _ => region.Surrounds bounds 0
  | .icon _ bounds _ _ => region.Surrounds bounds 0

/-- Nothing but a drawing in the region. -/
def Confined {G : Type} (region : Rectangle) (event : Event G) : Prop :=
  ∃ drawing, event = .drawn drawing ∧ drawing.Inside region

/-- The whole screen. -/
def panel : Rectangle := ⟨⟨0, 0⟩, ⟨width, height⟩⟩

/-- The rows between the paddings of the graph, and one more for its axis. -/
def graphFrame : Rectangle :=
  ⟨⟨graphBounds.topLeft.x, graphBounds.topLeft.y + padding⟩,
    ⟨graphBounds.size.width, graphBounds.size.height - 2 * padding + 1⟩⟩

theorem Rectangle.Surrounds.trans {outer inner box : Rectangle} {margin : ℕ} (one : outer.Surrounds inner 0)
    (two : inner.Surrounds box margin) : outer.Surrounds box margin := by
  unfold Surrounds at one two ⊢
  omega

theorem Confined.mono {G : Type} {outer inner : Rectangle} {event : Event G} (surrounds : outer.Surrounds inner 0)
    (confined : Confined inner event) : Confined outer event := by
  obtain ⟨drawing, rfl, inside⟩ := confined
  refine ⟨drawing, rfl, ?_⟩
  cases drawing with
  | line => exact ⟨surrounds.trans inside.1, surrounds.trans inside.2⟩
  | rectangle => exact surrounds.trans inside
  | pixels => exact fun point member => surrounds.trans (inside point member)
  | text => exact surrounds.trans inside
  | icon => exact surrounds.trans inside

/-! ## Rows of numbers -/

section Rows

variable {F G : Type} {region bounds : Rectangle} {stopped : Stop → Prop}

theorem rectangle_confined {stroke : BinaryColor} {fill : Option BinaryColor} (inside : region.Surrounds bounds 0) :
    Emits (Confined region) stopped (drawRectangle bounds stroke fill : Draw G Unit) :=
  emits_draw ⟨_, rfl, show region.Surrounds bounds (1 / 2) from inside⟩

theorem text_confined {text : Formatting.DisplayString} {color : BinaryColor} {fontSize : G} {alignment : Alignment}
    (inside : region.Surrounds bounds 0) :
    Emits (Confined region) stopped (drawText text bounds color fontSize alignment) :=
  emits_draw ⟨_, rfl, inside⟩

theorem icon_confined {icon : Char} {color : BinaryColor} {fontSize : G} (inside : region.Surrounds bounds 0) :
    Emits (Confined region) stopped (drawIcon icon bounds color fontSize) :=
  emits_draw ⟨_, rfl, inside⟩

theorem separator_confined {atTop : Bool} (inside : region.Surrounds bounds 0) (some_ : 0 < bounds.size.width)
    (high : 0 < bounds.size.height) :
    Emits (Confined region) stopped (drawHorizontalSeparator bounds atTop : Draw G Unit) := by
  refine emits_draw ⟨_, rfl, ?_⟩
  unfold Rectangle.Surrounds at inside
  simp only [Drawing.Inside, Rectangle.Contains, Rectangle.Surrounds, withStroke]
  split <;> omega

variable [IntCast G]

theorem textWithSubtext_confined {text subtext : Formatting.DisplayString} {foreground background : BinaryColor}
    (inside : region.Surrounds bounds 0) (high : 45 ≤ bounds.size.height) :
    Emits (Confined region) stopped
      (drawTextWithSubtext bounds text subtext foreground background : Draw G Unit) := by
  refine (emits_drawIf (rectangle_confined inside)).bind fun _ => ?_
  refine (text_confined ?_).bind fun _ => text_confined ?_
  · unfold Rectangle.Surrounds at inside ⊢
    exact ⟨inside.1, inside.2.1, inside.2.2.1, by push_cast; omega⟩
  · unfold Rectangle.Surrounds at inside ⊢
    dsimp only
    omega

theorem renderStatusBar_confined (now : Option LocalDateTime) :
    Emits (Confined panel) stopped (renderStatusBar statusBounds now : Draw G Unit) :=
  (emits_draw ⟨_, rfl, show panel.Surrounds _ 0 by decide⟩).bind fun _ =>
    emits_draw ⟨_, rfl, show panel.Surrounds _ 0 by decide⟩

variable [FloatText F] [IntCast F] [LT F] [DecidableLT F] [Div F] {status : EnergyStatus F}

theorem solar_confined {split : Bool} :
    Emits (Confined panel) stopped (drawSolar split (rectangle 274 1 124 75) status : Draw G Unit) := by
  unfold drawSolar
  refine Emits.ite (fun _ => ?_) fun _ => textWithSubtext_confined (by decide) (by decide)
  refine (text_confined (by decide)).bind fun _ => ?_
  exact (text_confined (by decide)).bind fun _ => text_confined (by decide)

theorem renderEnergyRow_confined [Zero F] (split : Bool) (status : EnergyStatus F) :
    Emits (Confined panel) stopped (renderEnergyRow split energyBounds status : Draw G Unit) := by
  unfold renderEnergyRow
  refine (rectangle_confined (by decide)).bind fun _ => ?_
  refine (icon_confined (by decide)).bind fun _ => ?_
  refine ((text_confined (by decide)).bind fun _ => text_confined (by decide)).bind fun _ => ?_
  refine (rectangle_confined (by decide)).bind fun _ => ?_
  refine (icon_confined (by decide)).bind fun _ => ?_
  exact solar_confined.bind fun _ => separator_confined (by decide) (by decide) (by decide)

omit [IntCast G] [FloatText F] [IntCast F] [LT F] [DecidableLT F] [Div F] in
theorem batteryIcon_confined [AsInt F] {percentage : F} :
    Emits (Confined panel) stopped (drawBatteryIcon (rectangle 1 75 37 37) percentage : Draw G Unit) := by
  unfold drawBatteryIcon
  refine (rectangle_confined (by decide)).bind fun _ => ?_
  refine (emits_draw ⟨_, rfl, show panel.Surrounds _ (2 / 2) by decide⟩).bind fun _ => ?_
  refine (emits_draw ⟨_, rfl, show panel.Surrounds _ 0 by decide⟩).bind fun _ => ?_
  refine emits_forM fun segment member => emits_draw ⟨_, rfl, ?_⟩
  have few : batterySegments percentage ≤ 4 := by
    unfold batterySegments
    dsimp only
    split_ifs <;> omega
  have inside := (List.mem_range.mp member).trans_le few
  simp only [Drawing.Inside, Rectangle.Surrounds, panel, rectangle, width, height, withFill]
  omega

theorem renderBatteryRow_confined [Zero F] [AsInt F] (status : EnergyStatus F) :
    Emits (Confined panel) stopped (renderBatteryRow batteryBounds status : Draw G Unit) := by
  unfold renderBatteryRow
  refine batteryIcon_confined.bind fun _ => ?_
  refine (text_confined (by decide)).bind fun _ => ?_
  refine (text_confined (by decide)).bind fun _ => ?_
  exact (text_confined (by decide)).bind fun _ => separator_confined (by decide) (by decide) (by decide)

/-- With powers whose sum is an `i32`. -/
theorem renderHeatpumpRow_confined [FloatCore F] [Div G] (execution : Execution) (status : EnergyStatus F)
    (power : IntType.i32.Holds (status.heatpumpPower + status.heatpumpPowerBuh)) :
    Emits (Confined panel) stopped (renderHeatpumpRow execution heatpumpBounds status : Draw G Unit) := by
  unfold renderHeatpumpRow
  refine (textWithSubtext_confined (by decide) (by decide)).bind fun _ => ?_
  refine (rectangle_confined (by decide)).bind fun _ => ?_
  rw [arithmetic_of_holds power, pure_bind]
  refine (text_confined (by decide)).bind fun _ => ?_
  refine (text_confined (by decide)).bind fun _ => ?_
  refine (emits_drawIf (icon_confined (by decide))).bind fun _ => ?_
  refine (emits_drawIf (rectangle_confined (by decide))).bind fun _ => ?_
  refine (icon_confined (by decide)).bind fun _ => ?_
  refine (icon_confined (by decide)).bind fun _ => ?_
  refine (text_confined (by decide)).bind fun _ => ?_
  exact (text_confined (by decide)).bind fun _ => separator_confined (by decide) (by decide) (by decide)

end Rows

/-! ## The graph -/

theorem bar_confined {x top : Int} {width : ℕ} {rows : Int} {fill : BinaryColor}
    (inside : 0 < rows → graphFrame.Surrounds ⟨⟨x, top⟩, ⟨width, rows.toNat⟩⟩ 0) :
    ∀ event ∈ (bar x top width rows fill : List (Event F32)), Confined graphFrame event :=
  bar_forall fun some_ => ⟨_, rfl, show graphFrame.Surrounds _ (1 / 2) from inside some_⟩

/-- The bars of the day are next to one another between the margins. -/
theorem barLeft_spec (hour : Fin 24) :
    barLeft graphBounds hour = 9 + 16 * (hour : ℕ) ∧ barWidth graphBounds = 15 := by
  refine ⟨?_, rfl⟩
  show (6 : Int) + 1 + 2 + (hour : ℕ) * ((15 : ℕ) + 1 : Int) = _
  omega

theorem dottedLine_confined {stopped : Stop → Prop} {start : Point} (left : start.x = 1)
    (inside : 118 ≤ start.y ∧ start.y ≤ 192) :
    Emits (Confined graphFrame) stopped (drawDottedLine start 397 : Draw F32 Unit) := by
  refine emits_draw ⟨_, rfl, ?_⟩
  rintro point member
  obtain ⟨index, range, rfl⟩ := List.mem_map.mp member
  obtain ⟨dot, last, rfl⟩ : ∃ dot < 133, index = ((dot : ℕ) : Int) := by simpa using range
  refine ⟨?_, ?_, ?_, ?_⟩
  · show (1 : Int) ≤ start.x + 3 * (dot : ℕ) - (0 : ℕ)
    omega
  · show start.x + 3 * (dot : ℕ) + (1 : ℕ) + (0 : ℕ) ≤ 1 + (398 : ℕ)
    omega
  · show (118 : Int) ≤ start.y - (0 : ℕ)
    omega
  · show start.y + (1 : ℕ) + (0 : ℕ) ≤ 118 + (75 : ℕ)
    omega

section Graph

variable {status : EnergyStatus F64} {stopped : Stop → Prop} (execution : Execution) (counted : Counted status)
  (positiveGuided : Value.asInt .i64 (maxPositive status) ≤ lastGuide)
  (negativeGuided : Value.asInt .i64 (maxNegative status) ≤ lastGuide)

include positiveGuided negativeGuided

/-- The axis lies below the part of the graph for import and export. -/
theorem axis_spec :
    (graphScale F32 graphBounds status).axisLeft =
      ⟨1, 118 + (graphScale F32 graphBounds status).positiveHeight⟩ := by
  obtain ⟨up, down, together⟩ := heights_spec positiveGuided negativeGuided
  have holds : IntType.i32.Holds (graphScale F32 graphBounds status).positiveHeight :=
    ⟨by simp only [IntType.least]; omega, by simp only [IntType.greatest]; omega⟩
  have wrapped := IntType.wrap_of_holds holds
  show (⟨1 + 0, 111 + (7 + IntType.i32.wrap (graphScale F32 graphBounds status).positiveHeight)⟩ : Point) = _
  rw [wrapped, Point.mk.injEq]
  omega

include counted in
/-- Which bars an hour has, and where. -/
theorem drawHour_draws (hour : Fin 24) :
    Adds (hourBars graphBounds status (graphScale F32 graphBounds status) hour : List (Event F32))
      (drawHour execution graphBounds status (graphScale F32 graphBounds status) hour) := by
  obtain ⟨up, down, together⟩ := heights_spec positiveGuided negativeGuided
  obtain ⟨most, held, limitIs, least, -⟩ := finite_of_guided (maxPositive_spec64 status).1 positiveGuided
  obtain ⟨_, _, importNonneg, exportNonneg, sum⟩ := hour_spec counted positiveGuided negativeGuided hour
  have axis := axis_spec positiveGuided negativeGuided
  have zero : barHeight (0 : F64) (graphScale F32 graphBounds status).maxPositive
      (graphScale F32 graphBounds status).positiveHeight = 0 :=
    barHeight_zero limitIs (by linarith) up (by omega)
  refine drawHour_adds ?_ (fun nothing => ?_) (fun nothing => ?_) importNonneg exportNonneg (by omega)
  · rw [axis]
    dsimp only
    omega
  · rw [Value.eq_zero (counted status.gridImportHourly (by simp) hour) nothing, zero]
  · rw [Value.eq_zero (counted status.gridExportHourly (by simp) hour) nothing, zero]

include counted in
theorem drawHour_confined (hour : Fin 24) :
    Emits (Confined graphFrame) stopped
      (drawHour execution graphBounds status (graphScale F32 graphBounds status) hour : Draw F32 Unit) := by
  obtain ⟨solarNonneg, solarLe, importNonneg, exportNonneg, sum⟩ :=
    hour_spec counted positiveGuided negativeGuided hour
  obtain ⟨up, down, together⟩ := heights_spec positiveGuided negativeGuided
  have axis := axis_spec positiveGuided negativeGuided
  obtain ⟨left, wide⟩ := barLeft_spec hour
  refine (drawHour_draws execution counted positiveGuided negativeGuided hour).emits ?_
  have inside {top rows : Int} (above : 118 ≤ top) (below : top + rows ≤ 193) (some_ : 0 < rows) :
      graphFrame.Surrounds ⟨⟨barLeft graphBounds hour, top⟩, ⟨barWidth graphBounds, rows.toNat⟩⟩ 0 := by
    have last := hour.isLt
    rw [left, wide]
    refine ⟨?_, ?_, ?_, ?_⟩
    · show (1 : Int) ≤ 9 + 16 * (hour : ℕ) - (0 : ℕ)
      omega
    · show 9 + 16 * ((hour : ℕ) : Int) + (15 : ℕ) + (0 : ℕ) ≤ 1 + (398 : ℕ)
      omega
    · show (118 : Int) ≤ top - (0 : ℕ)
      omega
    · show top + (rows.toNat : ℕ) + (0 : ℕ) ≤ 118 + (75 : ℕ)
      omega
  refine List.forall_mem_append.mpr ⟨List.forall_mem_append.mpr ⟨?_, ?_⟩, ?_⟩
  · exact bar_confined (inside (by rw [axis]; dsimp only; omega) (by rw [axis]; dsimp only; omega))
  · exact bar_confined (inside (by rw [axis]; dsimp only; omega) (by rw [axis]; dsimp only; omega))
  · exact bar_confined (inside (by rw [axis]; dsimp only; omega) (by rw [axis]; dsimp only; omega))

include counted in
theorem renderGraph_confined (ends : stopped .unfinished ∨ lastGuide ≤ execution.iterations) :
    Emits (Confined graphFrame) stopped (renderGraph execution graphBounds status : Draw F32 Unit) := by
  obtain ⟨up, down, together⟩ := heights_spec positiveGuided negativeGuided
  have axis := axis_spec positiveGuided negativeGuided
  have guided {most : Int} {drawGuide : Int → Draw F32 Unit} (bounded : most ≤ lastGuide)
      (drawn : ∀ guide, 0 ≤ guide → guide < most → Emits (Confined graphFrame) stopped (drawGuide guide)) :
      Emits (Confined graphFrame) stopped (guides execution most drawGuide execution.iterations 2000) := by
    refine guides_end bounded drawn _ (by decide) (by decide) (by decide) (ends.imp_right fun many => ?_)
    unfold lastGuide at many bounded
    omega
  unfold renderGraph
  refine Emits.bind (emits_draw ⟨_, rfl, ?_⟩) fun _ => ?_
  · rw [axis]
    have inside {x : Int} (left : 1 ≤ x) (right : x ≤ 398) :
        graphFrame.Contains ⟨x, 118 + (graphScale F32 graphBounds status).positiveHeight⟩ 0 := by
      refine ⟨?_, ?_, ?_, ?_⟩
      · show (1 : Int) ≤ x - (0 : ℕ)
        omega
      · show x + (1 : ℕ) + (0 : ℕ) ≤ 1 + (398 : ℕ)
        omega
      · show (118 : Int) ≤ 118 + (graphScale F32 graphBounds status).positiveHeight - (0 : ℕ)
        omega
      · show 118 + (graphScale F32 graphBounds status).positiveHeight + (1 : ℕ) + (0 : ℕ) ≤ 118 + (75 : ℕ)
        omega
    refine ⟨inside le_rfl (by decide), ?_⟩
    show graphFrame.Contains ⟨1 + 397, 118 + (graphScale F32 graphBounds status).positiveHeight + 0⟩ (1 / 2)
    rw [add_zero]
    exact inside (by decide) le_rfl
  refine Emits.bind (Emits.bind (guided negativeGuided fun guide start below => ?_) fun _ =>
    guided positiveGuided fun guide start below => ?_) fun _ => ?_
  · have offset : 0 ≤ (guideOffset guide (graphScale F32 graphBounds status).maxNegative
          (graphScale F32 graphBounds status).negativeHeight).y ∧
        (guideOffset guide (graphScale F32 graphBounds status).maxNegative
          (graphScale F32 graphBounds status).negativeHeight).y ≤
            (graphScale F32 graphBounds status).negativeHeight :=
      guideOffset_spec (maxNegative_spec64 status).1 negativeGuided start below down (by omega)
    rw [axis]
    refine dottedLine_confined rfl ⟨?_, ?_⟩ <;> rw [Point.add_y] <;> dsimp only <;> omega
  · have offset : 0 ≤ (guideOffset guide (graphScale F32 graphBounds status).maxPositive
          (graphScale F32 graphBounds status).positiveHeight).y ∧
        (guideOffset guide (graphScale F32 graphBounds status).maxPositive
          (graphScale F32 graphBounds status).positiveHeight).y ≤
            (graphScale F32 graphBounds status).positiveHeight :=
      guideOffset_spec (maxPositive_spec64 status).1 positiveGuided start below up (by omega)
    rw [axis]
    refine dottedLine_confined rfl ⟨?_, ?_⟩ <;> rw [Point.sub_y] <;> dsimp only <;> omega
  · exact emits_forM fun hour _ => drawHour_confined execution counted positiveGuided negativeGuided hour

include counted in
/-- A graph that comes to an end is its axis, its guides and its bars. -/
theorem renderGraph_draws (many : lastGuide ≤ execution.iterations) :
    Adds (graphEvents graphBounds status) (renderGraph execution graphBounds status : Draw F32 Unit) := by
  refine renderGraph_adds (drawHour_draws execution counted positiveGuided negativeGuided) negativeGuided
    positiveGuided ?_
  have negative : AsInt.asInt .i64 (maxNegative status) ≤ lastGuide := negativeGuided
  have positive : AsInt.asInt .i64 (maxPositive status) ≤ lastGuide := positiveGuided
  unfold lastGuide at many negative positive
  omega

end Graph

/-! ## The screen -/

section Screen

variable [FloatText F64]

/-- **Nothing is drawn beside the panel.** In the floats of the device, on every
dashboard whose hours are numbers that are not negative and no more than the guides
can count: a rendering draws inside the panel and its graph in its frame, with no
arithmetic out of its type, and comes to an end; the graph is then its axis, its
guides and the bars of the day. In each hour the bar of what is
imported stands directly on the one of what is exported, together they are no higher
than the part above the axis, and the solar bar is no higher than the part below. -/
theorem rendering_stays_on_panel (execution : Execution) (split : Bool) (status : EnergyStatus F64)
    (now : Option LocalDateTime) (inRange : InRange status) (counted : Counted status) :
    (∀ event ∈ (render execution split status now ([] : List (Event F32))).2, Confined panel event) ∧
      (∀ event ∈ (renderGraph execution graphBounds status ([] : List (Event F32))).2, Confined graphFrame event) ∧
      (lastGuide ≤ execution.iterations →
        (render execution split status now ([] : List (Event F32))).1 = .ok () ∧
          renderGraph execution graphBounds status ([] : List (Event F32)) =
            (.ok (), graphEvents graphBounds status)) ∧
      ∀ hour (events : List (Event F32)),
        let scale := graphScale F32 graphBounds status
        let solar := barHeight (status.solarProductionHourly.values hour) scale.maxNegative scale.negativeHeight
        let import_ := barHeight (status.gridImportHourly.values hour) scale.maxPositive scale.positiveHeight
        let export_ := barHeight (status.gridExportHourly.values hour) scale.maxPositive scale.positiveHeight
        let x := barLeft graphBounds hour
        let width := barWidth graphBounds
        (0 ≤ solar ∧ solar ≤ scale.negativeHeight ∧ 0 ≤ import_ ∧ 0 ≤ export_ ∧
            import_ + export_ ≤ scale.positiveHeight) ∧
          drawHour execution graphBounds status scale hour events =
            (.ok (), events ++ (bar x scale.axisLeft.y width solar black ++
              bar x (scale.axisLeft.y + 1 - export_) width export_ white ++
              bar x (scale.axisLeft.y + 1 - export_ - import_) width import_ black)) := by
  have positiveGuided := not_lt.mp fun beyond => ((maxPositive_spec64 status).2.2.mp beyond).elim
    fun hour tooMuch => absurd tooMuch (inRange.grid hour).not_gt
  have negativeGuided := not_lt.mp fun beyond => ((maxNegative_spec64 status).2.mp beyond).elim
    fun hour tooMuch => absurd tooMuch (inRange.solar hour).not_gt
  have graph {stopped : Stop → Prop} (ends : stopped .unfinished ∨ lastGuide ≤ execution.iterations) :
      Emits (Confined graphFrame) stopped (renderGraph execution graphBounds status : Draw F32 Unit) :=
    renderGraph_confined execution counted positiveGuided negativeGuided ends
  have screen {stopped : Stop → Prop} (ends : stopped .unfinished ∨ lastGuide ≤ execution.iterations) :
      Emits (Confined panel) stopped (render execution split status now : Draw F32 Unit) := by
    refine (renderEnergyRow_confined split status).bind fun _ => ?_
    refine (renderBatteryRow_confined status).bind fun _ => ?_
    refine ((graph ends).mono (fun _ => Confined.mono (by decide)) fun _ stop => stop).bind fun _ => ?_
    exact (renderStatusBar_confined now).bind fun _ => renderHeatpumpRow_confined execution status inRange.power
  have anyway : Emits (Confined panel) (fun _ => True) (render execution split status now : Draw F32 Unit) :=
    screen (Or.inl trivial)
  have framed : Emits (Confined graphFrame) (fun _ => True)
      (renderGraph execution graphBounds status : Draw F32 Unit) := graph (Or.inl trivial)
  refine ⟨anyway.all, framed.all, fun many => ?_, fun hour events =>
    ⟨hour_spec counted positiveGuided negativeGuided hour,
      (drawHour_draws execution counted positiveGuided negativeGuided hour).run events⟩⟩
  refine ⟨?_, (renderGraph_draws execution counted positiveGuided negativeGuided many).run []⟩
  have ended : Emits (Confined panel) (fun _ => False) (render execution split status now : Draw F32 Unit) :=
    screen (Or.inr many)
  cases outcome : (render execution split status now ([] : List (Event F32))).1 with
  | ok => rfl
  | error stop => exact ((ended.outcome []).2 stop outcome).elim

end Screen

/-- So much in every hour of a series. -/
def steady (wattHours : Int) : HourlyData F64 := { HourlyData.default with values := fun _ => (wattHours : F64) }

/-- A day on which the sun gives more than is used, and at night too little. -/
def steadyDay : EnergyStatus F64 :=
  { EnergyStatus.default with
    solarProductionHourly := steady 3000
    gridImportHourly := steady 700
    gridExportHourly := steady 2000 }

theorem steadyDay_inRange : InRange steadyDay where
  power := by decide
  solar _ := by
    show Value.asInt .i64 ((3000 : Int) : F64) ≤ lastGuide
    decide +kernel
  grid _ := by
    show Value.asInt .i64 (((2000 : Int) : F64) + ((700 : Int) : F64)) ≤ lastGuide
    decide +kernel

theorem steadyDay_counted : Counted steadyDay := by
  have some_ (wattHours : Int) (few : |wattHours| < 2 ^ 53) (nonneg : 0 ≤ wattHours) :
      (0 : F64) ≤ (wattHours : F64) := by
    rw [Value.intCast_eq few]
    exact Value.finite_le_finite.mpr (by exact_mod_cast nonneg)
  intro series member hour
  simp only [List.mem_cons, List.not_mem_nil, or_false] at member
  rcases member with rfl | rfl | rfl
  · exact some_ 3000 (by decide) (by decide)
  · exact some_ 700 (by decide) (by decide)
  · exact some_ 2000 (by decide) (by decide)

/-- It is drawn inside the panel. -/
theorem rendering_stays_on_panel_steady :
    (∀ event ∈ (render ⟨true, lastGuide.toNat⟩ true steadyDay none ([] : List (Event F32))).2,
        Confined panel event) ∧
      (render ⟨true, lastGuide.toNat⟩ true steadyDay none ([] : List (Event F32))).1 = .ok () := by
  obtain ⟨inside, -, ends, -⟩ :=
    rendering_stays_on_panel ⟨true, lastGuide.toNat⟩ true steadyDay none steadyDay_inRange steadyDay_counted
  exact ⟨inside, (ends (Int.self_le_toNat lastGuide)).1⟩

end EnergyDisplay.Renderer

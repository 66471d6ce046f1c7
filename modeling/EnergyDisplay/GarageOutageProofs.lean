import EnergyDisplay.CombinedSolarProofs

/-! An outage of the garage inverter. Its status payload carries no energy
counter and is read as a counter at zero, so the combined counter drops and
the hour takes a new baseline; when the inverter is back, its whole counter
counts as production of the hour. The condition found here says exactly when
the outage leaves no trace. -/
namespace EnergyDisplay

namespace HourlyData

variable {data : HourlyData ℚ} {last : ℚ} {previous now : LocalDateTime}

/-- In the open hour the baseline moves only if the counter dropped. -/
theorem Tracks.append_start (open_ : data.Tracks last previous) (cumulative : ℚ)
    (sameDate : previous.sameDate now = true) (sameHour : previous.hour = now.hour) :
    (data.appendValue cumulative now).valuesAtHourStart now.slot =
      if cumulative < last then cumulative else data.valuesAtHourStart now.slot := by
  have date : data.dateChanged now = false := by
    simp [dateChanged_of_update open_.lastUpdate, sameDate]
  split
  case isTrue dropped =>
    have opens : data.rebaselines cumulative now = true := by
      simp [rebaselines, open_.lastValue, dropped]
    rw [append_rebaselined date opens]
    simp [setBaseline]
  case isFalse grown =>
    rw [append_counted date (open_.counts sameHour (not_lt.mp grown))]

end HourlyData

namespace Dashboard

/-- A time within the hour `hour` of one local date. -/
def During (hour now : LocalDateTime) : Prop := now.sameDate hour = true ∧ now.hour = hour.hour

/-- Readings of the two solar sources within one local hour. -/
structure SharedHour (events : List (Update ℚ × LocalDateTime)) (hour : LocalDateTime) : Prop where
  sources : ∀ event ∈ events, (∃ home, event.1 = .solar home) ∨ ∃ garage, event.1 = .garageSolar garage
  during : ∀ event ∈ events, During hour event.2

/-- The invariant: the hour is open, and tracks the sum of the cached counters. -/
def OpenHour (dashboard : Dashboard ℚ) (hour : LocalDateTime) : Prop :=
  ∃ last, During hour last ∧ (dashboard.hourly .solarProduction).Tracks
    (dashboard.solar.energyToday + dashboard.garageSolar.energyToday) last

variable {dashboard : Dashboard ℚ} {hour now : LocalDateTime}
  {events : List (Update ℚ × LocalDateTime)}

/-- Step lemma: a reading of either source leaves the hour open. -/
theorem apply_open (dashboard : Dashboard ℚ) {update : Update ℚ}
    (source : (∃ home, update = .solar home) ∨ ∃ garage, update = .garageSolar garage)
    (during : During hour now) : (dashboard.apply update (some now)).OpenHour hour := by
  refine ⟨now, during, ?_⟩
  rw [hourly_of_reading (solar_cumulative dashboard now source)]
  exact HourlyData.append_tracks _ _ _

/-- Run lemma: the caches hold the last reading of each source, and after any
reading the hour is open. -/
theorem applySynced_open (shared : SharedHour events hour) :
    ((default : Dashboard ℚ).applySynced events).solar.energyToday =
        (homeReadings events).getLast?.getD 0 ∧
      ((default : Dashboard ℚ).applySynced events).garageSolar.energyToday =
        (garageReadings events).getLast?.getD 0 ∧
      (events ≠ [] → ((default : Dashboard ℚ).applySynced events).OpenHour hour) := by
  induction events using List.reverseRecOn with
  | nil => exact ⟨rfl, rfl, fun nothing => absurd rfl nothing⟩
  | append_singleton events event ih =>
    obtain ⟨update, now⟩ := event
    obtain ⟨home, garage, _⟩ := ih ⟨fun event member => shared.sources event (by simp [member]),
      fun event member => shared.during event (by simp [member])⟩
    have source := shared.sources (update, now) (by simp)
    have applied : (default : Dashboard ℚ).applySynced (events ++ [(update, now)]) =
        ((default : Dashboard ℚ).applySynced events).apply update (some now) := by
      simp [applySynced]
    rw [applied]
    refine ⟨?_, ?_, fun _ => apply_open _ source (shared.during (update, now) (by simp))⟩
    · obtain ⟨reading, rfl⟩ | ⟨reading, rfl⟩ := source
      · simp [apply, updateCombinedSolar, homeReadings]
      · simpa [apply, updateCombinedSolar, homeReadings] using home
    · obtain ⟨reading, rfl⟩ | ⟨reading, rfl⟩ := source
      · simpa [apply, updateCombinedSolar, garageReadings] using garage
      · simp [apply, updateCombinedSolar, garageReadings]

/-- What a garage reading makes of the open hour. -/
theorem garage_reading (reading : GarageSolarData ℚ) (open_ : dashboard.OpenHour hour)
    (during : During hour now) :
    let after := dashboard.apply (.garageSolar reading) (some now)
    let start := (after.hourly .solarProduction).valuesAtHourStart hour.slot
    (start = if reading.energyToday < dashboard.garageSolar.energyToday then
        dashboard.solar.energyToday + reading.energyToday
      else (dashboard.hourly .solarProduction).valuesAtHourStart hour.slot) ∧
      (after.hourly .solarProduction).values hour.slot =
        (dashboard.solar.energyToday + reading.energyToday - start) * 1000 := by
  intro after start
  obtain ⟨last, before, tracks⟩ := open_
  have appended : after.hourly .solarProduction =
      (dashboard.hourly .solarProduction).appendValue
        (dashboard.solar.energyToday + reading.energyToday) now :=
    hourly_of_reading rfl
  have slot : now.slot = hour.slot := LocalDateTime.slot_of_hour during.2
  have date := LocalDateTime.sameDate_trans before.1 (LocalDateTime.sameDate_symm during.1)
  have moved := tracks.append_start (dashboard.solar.energyToday + reading.energyToday) date
    (before.2.trans during.2.symm)
  have counted := (HourlyData.append_tracks (dashboard.hourly .solarProduction)
    (dashboard.solar.energyToday + reading.energyToday) now).counted
  rw [← appended, slot] at moved counted
  exact ⟨by simpa using moved, counted⟩

/-- The baseline a counter takes that reads zero and then `back`, above a
`home` counter that stays. -/
theorem baseline_survives_iff {home garage back baseline : ℚ} (grown : garage ≤ back) :
    (home + back - if back < 0 then home + back else if 0 < garage then home else baseline) * 1000 =
        (home + back - baseline) * 1000 ↔
      (0 < garage → baseline = home) ∧ (back < 0 → baseline = home + back) := by
  by_cases negative : back < 0
  · have off : ¬ 0 < garage := by linarith
    simp only [negative, off, if_true, false_implies, true_implies, true_and]
    constructor <;> intro same <;> linarith
  · by_cases producing : 0 < garage
    · simp only [negative, producing, if_true, if_false, false_implies, true_implies, and_true]
      constructor <;> intro same <;> linarith
    · simp [negative, producing]

/-- **An outage is neutral exactly when it loses nothing the hour counts.** The
two sources report within one local hour, `home` and `garage` their last
counters; then the inverter goes down, and comes back with a counter that has
not dropped. The hour shows what it would show without the outage if and only
if, unless the garage counter was not positive, the hour still counts from
`home` alone, and, for a counter that comes back negative, it counts from the
very sum the inverter comes back with. -/
theorem garage_outage_neutral_iff (events : List (Update ℚ × LocalDateTime))
    (hour down back : LocalDateTime) (reading : GarageSolarData ℚ) (home garage : ℚ)
    (shared : SharedHour events hour) (during : During hour down ∧ During hour back)
    (homeLast : (homeReadings events).getLast? = some home)
    (garageLast : (garageReadings events).getLast? = some garage)
    (grown : garage ≤ reading.energyToday) :
    let dashboard := default.applySynced events
    let baseline := (dashboard.hourly .solarProduction).valuesAtHourStart hour.slot
    let outage := [(.garageSolar .default, down), (.garageSolar reading, back)]
    ((dashboard.applySynced outage).hourly .solarProduction).values hour.slot =
        ((dashboard.applySynced [(.garageSolar reading, back)]).hourly .solarProduction).values
          hour.slot ↔
      (0 < garage → baseline = home) ∧
        (reading.energyToday < 0 → baseline = home + reading.energyToday) := by
  intro dashboard baseline outage
  obtain ⟨homeCached, garageCached, opened⟩ := applySynced_open shared
  have readings : events ≠ [] := by
    rintro rfl
    cases homeLast
  have open_ : dashboard.OpenHour hour := opened readings
  have homeNow : dashboard.solar.energyToday = home := by simp [dashboard, homeCached, homeLast]
  have garageNow : dashboard.garageSolar.energyToday = garage := by
    simp [dashboard, garageCached, garageLast]
  -- Without the outage the hour counts on from its baseline.
  obtain ⟨startAlone, alone⟩ := garage_reading reading open_ during.2
  -- With it, a counter at zero is read first, then the one that is back.
  obtain ⟨startDown, _⟩ := garage_reading .default open_ during.1
  obtain ⟨startBack, shown⟩ := garage_reading reading
    (apply_open dashboard (Or.inr ⟨.default, rfl⟩) during.1) during.2
  rw [if_neg (by rw [garageNow]; exact not_lt.mpr grown)] at startAlone
  have homeDown : (dashboard.apply (.garageSolar .default) (some down)).solar.energyToday = home :=
    homeNow
  have garageDown :
      (dashboard.apply (.garageSolar .default) (some down)).garageSolar.energyToday = 0 := rfl
  change ((((dashboard.apply (.garageSolar .default) (some down)).apply (.garageSolar reading)
      (some back)).hourly .solarProduction).values hour.slot =
    ((dashboard.apply (.garageSolar reading) (some back)).hourly .solarProduction).values hour.slot) ↔ _
  rw [shown, alone, startBack, startDown, startAlone, homeDown, garageDown, homeNow, garageNow,
    GarageSolarData.default, add_zero]
  exact baseline_survives_iff grown

/-- Home at 8 kWh and a garage inverter that has not produced yet. -/
def idleGarage : List (Update ℚ × LocalDateTime) :=
  [(.solar { SolarData.default with energyToday := 8 }, .morning), (.garageSolar ⟨0, 0⟩, .morning)]

theorem idle_garage_outage_neutral :
    let dashboard := default.applySynced idleGarage
    let outage := [(.garageSolar .default, .morning), (.garageSolar ⟨300, 1⟩, .morning)]
    ((dashboard.applySynced outage).hourly .solarProduction).values LocalDateTime.morning.slot =
      ((dashboard.applySynced [(.garageSolar ⟨300, 1⟩, .morning)]).hourly .solarProduction).values
        LocalDateTime.morning.slot := by
  have during : During .morning .morning := ⟨rfl, rfl⟩
  have shared : SharedHour idleGarage .morning :=
    ⟨by simp [idleGarage], by simp [idleGarage, during]⟩
  have grown : (0 : ℚ) ≤ 1 := by norm_num
  exact (garage_outage_neutral_iff idleGarage .morning .morning .morning ⟨300, 1⟩ 8 0 shared
    ⟨during, during⟩ rfl rfl grown).mpr ⟨by norm_num, by norm_num⟩

/-- Garage at 2 kWh, then home at 8: the hour counts from a garage reading. -/
def bothProducing : List (Update ℚ × LocalDateTime) :=
  [(.garageSolar ⟨750, 2⟩, .morning), (.solar { SolarData.default with energyToday := 8 }, .morning),
    (.garageSolar ⟨750, 2⟩, .morning)]

/-- One outage later the hour shows the 2000 Wh the garage inverter has made
since midnight, where it showed 8000. -/
theorem outage_changes_production :
    SharedHour bothProducing .morning ∧ (homeReadings bothProducing).Pairwise (· ≤ ·) ∧
      (garageReadings bothProducing).Pairwise (· ≤ ·) ∧
      (homeReadings bothProducing).getLast? = some 8 ∧
      (garageReadings bothProducing).getLast? = some 2 ∧
      let dashboard := default.applySynced bothProducing
      ((dashboard.applySynced [(.garageSolar ⟨750, 2⟩, .morning)]).hourly .solarProduction).values 10 =
          8000 ∧
        ((dashboard.applySynced [(.garageSolar .default, .morning),
          (.garageSolar ⟨750, 2⟩, .morning)]).hourly .solarProduction).values 10 = 2000 := by
  refine ⟨⟨?_, ?_⟩, ?_, ?_, rfl, rfl, by decide +kernel, by decide +kernel⟩
  · simp [bothProducing]
  · simp [bothProducing, During, LocalDateTime.sameDate]
  · simp [bothProducing]
  · simp [bothProducing]

end Dashboard

end EnergyDisplay

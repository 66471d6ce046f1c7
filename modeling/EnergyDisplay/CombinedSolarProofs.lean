import EnergyDisplay.SeriesProjection

/-! The combined solar series within one hour. Its counter is the sum of two
sources that report separately, and a source that has not reported yet counts
as zero. The hour therefore shows what both counters have reached, less the
single reading that opened it: it stays within the gain of the two sources
exactly when the source that reports second starts at zero. -/
namespace EnergyDisplay.Dashboard

/-- Energy readings of the home inverter, in order. -/
def homeReadings (events : List (Update ℚ × LocalDateTime)) : List ℚ :=
  events.filterMap fun event => match event.1 with
    | .solar home => some home.energyToday
    | _ => none

/-- Energy readings of the garage inverter, in order. -/
def garageReadings (events : List (Update ℚ × LocalDateTime)) : List ℚ :=
  events.filterMap fun event => match event.1 with
    | .garageSolar garage => some garage.energyToday
    | _ => none

/-- What a counter gained from its first reading to its last; a source without
a reading gained nothing. -/
def gain (readings : List ℚ) : ℚ := readings.getLast?.getD 0 - readings.head?.getD 0

/-- Readings of the two solar sources in one hour of one local date, each
counter non-negative and non-decreasing. -/
structure SolarHour (events : List (Update ℚ × LocalDateTime)) (hour : LocalDateTime) : Prop where
  sources : ∀ event ∈ events, (∃ home, event.1 = .solar home) ∨ ∃ garage, event.1 = .garageSolar garage
  inHour : ∀ event ∈ events, event.2.sameDate hour = true ∧ event.2.hour = hour.hour
  home : (0 :: homeReadings events).Pairwise (· ≤ ·)
  garage : (0 :: garageReadings events).Pairwise (· ≤ ·)

/-- The source that did not report first starts at zero, or not at all. -/
def SecondSourceStartsAtZero : List (Update ℚ × LocalDateTime) → Prop
  | (.solar _, _) :: rest => (garageReadings rest).head?.getD 0 = 0
  | (.garageSolar _, _) :: rest => (homeReadings rest).head?.getD 0 = 0
  | _ => True

/-- Inside the hour: the series tracks the sum of the cached counters, and the
baseline is still the reading that opened the hour. -/
structure InHour (dashboard : Dashboard ℚ) (hour : LocalDateTime) (baseline : ℚ) : Prop where
  tracks : ∃ now, (dashboard.hourly .solarProduction).Tracks
      (dashboard.solar.energyToday + dashboard.garageSolar.energyToday) now ∧
    now.sameDate hour = true ∧ now.hour = hour.hour
  baseline : (dashboard.hourly .solarProduction).valuesAtHourStart hour.slot = baseline

variable {dashboard : Dashboard ℚ} {update : Update ℚ} {now hour : LocalDateTime} {baseline : ℚ}
  {event : Update ℚ × LocalDateTime} {events : List (Update ℚ × LocalDateTime)}

@[simp] theorem homeReadings_nil : homeReadings [] = [] := rfl

@[simp] theorem garageReadings_nil : garageReadings [] = [] := rfl

@[simp] theorem homeReadings_home (reading : SolarData ℚ) :
    homeReadings ((.solar reading, now) :: events) = reading.energyToday :: homeReadings events := rfl

@[simp] theorem homeReadings_garage (reading : GarageSolarData ℚ) :
    homeReadings ((.garageSolar reading, now) :: events) = homeReadings events := rfl

@[simp] theorem garageReadings_home (reading : SolarData ℚ) :
    garageReadings ((.solar reading, now) :: events) = garageReadings events := rfl

@[simp] theorem garageReadings_garage (reading : GarageSolarData ℚ) :
    garageReadings ((.garageSolar reading, now) :: events) =
      reading.energyToday :: garageReadings events := rfl

theorem gain_cons (first : ℚ) (rest : List ℚ) :
    gain (first :: rest) = rest.getLast?.getD first - first := by
  simp [gain, List.getLast?_cons]

/-- Of a non-decreasing counter that starts at zero or above. -/
theorem first_nonneg {readings : List ℚ} (rising : (0 :: readings).Pairwise (· ≤ ·)) :
    0 ≤ readings.head?.getD 0 := by
  cases readings with
  | nil => simp
  | cons first rest => exact (List.pairwise_cons.mp rising).1 first List.mem_cons_self

/-- Any reading of a solar source shows the series the sum of the counters as
they are after it. -/
theorem solar_cumulative (dashboard : Dashboard ℚ) (now : LocalDateTime)
    (source : (∃ home, update = .solar home) ∨ ∃ garage, update = .garageSolar garage) :
    dashboard.cumulative update .solarProduction =
      some ((dashboard.apply update (some now)).solar.energyToday +
        (dashboard.apply update (some now)).garageSolar.energyToday) := by
  obtain ⟨home, rfl⟩ | ⟨garage, rfl⟩ := source <;> rfl

/-- Step lemma: a counter that has not dropped counts on from the baseline. -/
theorem apply_in_hour (inside : dashboard.InHour hour baseline)
    (source : (∃ home, update = .solar home) ∨ ∃ garage, update = .garageSolar garage)
    (here : now.sameDate hour = true ∧ now.hour = hour.hour)
    (home : dashboard.solar.energyToday ≤ (dashboard.apply update (some now)).solar.energyToday)
    (garage : dashboard.garageSolar.energyToday ≤
      (dashboard.apply update (some now)).garageSolar.energyToday) :
    (dashboard.apply update (some now)).InHour hour baseline := by
  obtain ⟨last, tracks, date, sameHour⟩ := inside.tracks
  have reads := solar_cumulative dashboard now source
  have sameDate : (dashboard.hourly .solarProduction).dateChanged now = false := by
    have := LocalDateTime.sameDate_trans date (LocalDateTime.sameDate_symm here.1)
    simp [HourlyData.dateChanged_of_update tracks.lastUpdate, this]
  have counts := tracks.counts (sameHour.trans here.2.symm) (add_le_add home garage)
  refine ⟨⟨now, ?_, here⟩, ?_⟩
  · rw [hourly_of_reading reads]
    exact HourlyData.append_tracks _ _ _
  · rw [hourly_of_reading reads, HourlyData.append_counted sameDate counts]
    exact inside.baseline

/-- The first reading of a run opens the hour at the sum it shows. -/
theorem first_in_hour
    (source : (∃ home, update = .solar home) ∨ ∃ garage, update = .garageSolar garage)
    (here : now.sameDate hour = true ∧ now.hour = hour.hour) :
    (default.apply update (some now)).InHour hour
      ((default.apply update (some now)).solar.energyToday +
        (default.apply update (some now)).garageSolar.energyToday) := by
  have reads := solar_cumulative default now source
  refine ⟨⟨now, ?_, here⟩, ?_⟩
  · rw [hourly_of_reading reads]
    exact HourlyData.append_tracks _ _ _
  · rw [hourly_of_reading reads, ← LocalDateTime.slot_of_hour here.2,
      HourlyData.append_first rfl rfl]
    simp [HourlyData.setBaseline]

/-- Run lemma: the hour stays open on its baseline, and the cached counters
end at the last reading of each source. -/
theorem applySynced_in_hour (inside : dashboard.InHour hour baseline)
    (sources : ∀ event ∈ events,
      (∃ home, event.1 = .solar home) ∨ ∃ garage, event.1 = .garageSolar garage)
    (here : ∀ event ∈ events, event.2.sameDate hour = true ∧ event.2.hour = hour.hour)
    (home : (dashboard.solar.energyToday :: homeReadings events).Pairwise (· ≤ ·))
    (garage : (dashboard.garageSolar.energyToday :: garageReadings events).Pairwise (· ≤ ·)) :
    (dashboard.applySynced events).InHour hour baseline ∧
      (dashboard.applySynced events).solar.energyToday =
        (homeReadings events).getLast?.getD dashboard.solar.energyToday ∧
      (dashboard.applySynced events).garageSolar.energyToday =
        (garageReadings events).getLast?.getD dashboard.garageSolar.energyToday := by
  induction events generalizing dashboard with
  | nil => exact ⟨inside, rfl, rfl⟩
  | cons event rest ih =>
    obtain ⟨update, now⟩ := event
    have source := sources (update, now) (by simp)
    have inHour := apply_in_hour inside source (here (update, now) (by simp))
    have sources' := (List.forall_mem_cons.mp sources).2
    have here' := (List.forall_mem_cons.mp here).2
    obtain ⟨reading, rfl⟩ | ⟨reading, rfl⟩ := source
    · obtain ⟨grown, rising⟩ := List.pairwise_cons.mp home
      obtain ⟨inside', home', garage'⟩ :=
        ih (inHour (grown _ List.mem_cons_self) le_rfl) sources' here' rising garage
      refine ⟨inside', home'.trans ?_, garage'⟩
      rw [homeReadings_home, List.getLast?_cons]
      rfl
    · obtain ⟨grown, rising⟩ := List.pairwise_cons.mp garage
      obtain ⟨inside', home', garage'⟩ :=
        ih (inHour le_rfl (grown _ List.mem_cons_self)) sources' here' home rising
      refine ⟨inside', home', garage'.trans ?_⟩
      rw [garageReadings_garage, List.getLast?_cons]
      rfl

/-- What the hour shows when it was opened at `baseline`. -/
theorem value_in_hour (inside : dashboard.InHour hour baseline) :
    (dashboard.hourly .solarProduction).values hour.slot =
      (dashboard.solar.energyToday + dashboard.garageSolar.energyToday - baseline) * 1000 := by
  obtain ⟨last, tracks, _, sameHour⟩ := inside.tracks
  have counted := tracks.counted
  rw [LocalDateTime.slot_of_hour sameHour, inside.baseline] at counted
  exact counted

/-- **The combined hour stays within the gain of its sources exactly when the
second source starts at zero.** From the empty dashboard, for readings of the
two sources in any order within one hour, each counter non-negative and
non-decreasing. -/
theorem solar_hour_within_gain_iff (events : List (Update ℚ × LocalDateTime)) (hour : LocalDateTime)
    (readings : SolarHour events hour) :
    ((default.applySynced events).hourly .solarProduction).values hour.slot ≤
        1000 * (gain (homeReadings events) + gain (garageReadings events)) ↔
      SecondSourceStartsAtZero events := by
  cases events with
  | nil => simp [applySynced, hourly, default, EnergyStatus.default, HourlyData.default, gain,
      homeReadings, garageReadings, SecondSourceStartsAtZero]
  | cons event rest =>
    obtain ⟨update, now⟩ := event
    obtain ⟨source, sources⟩ := List.forall_mem_cons.mp readings.sources
    obtain ⟨hereFirst, here⟩ := List.forall_mem_cons.mp readings.inHour
    have opened := first_in_hour source hereFirst
    obtain ⟨reading, rfl⟩ | ⟨reading, rfl⟩ := source
    · have rising := (List.pairwise_cons.mp readings.home).2
      obtain ⟨inside, home, garage⟩ := applySynced_in_hour opened sources here rising readings.garage
      have shown := value_in_hour inside
      have second := first_nonneg readings.garage
      change ((default.applySynced _).hourly _).values _ ≤ _ ↔ (garageReadings rest).head?.getD 0 = 0
      rw [applySynced_cons, shown, home, garage, homeReadings_home, gain_cons, gain]
      simp only [garageReadings_home, default, apply, updateCombinedSolar, SolarData.default,
        GarageSolarData.default] at second ⊢
      constructor
      · intro within
        linarith
      · intro zero
        linarith
    · have rising := (List.pairwise_cons.mp readings.garage).2
      obtain ⟨inside, home, garage⟩ := applySynced_in_hour opened sources here readings.home rising
      have shown := value_in_hour inside
      have second := first_nonneg readings.home
      change ((default.applySynced _).hourly _).values _ ≤ _ ↔ (homeReadings rest).head?.getD 0 = 0
      rw [applySynced_cons, shown, home, garage, garageReadings_garage, gain_cons, gain]
      simp only [homeReadings_garage, default, apply, updateCombinedSolar, SolarData.default,
        GarageSolarData.default] at second ⊢
      constructor
      · intro within
        linarith
      · intro zero
        linarith

/-- The home inverter alone, at 8 and then 9 kWh. -/
def homeOnly : List (Update ℚ × LocalDateTime) :=
  [(.solar { SolarData.default with energyToday := 8 }, .morning),
    (.solar { SolarData.default with energyToday := 9 }, .morning)]

theorem home_only_within_gain :
    ((default.applySynced homeOnly).hourly .solarProduction).values LocalDateTime.morning.slot ≤
        1000 * (gain (homeReadings homeOnly) + gain (garageReadings homeOnly)) ↔
      SecondSourceStartsAtZero homeOnly := by
  refine solar_hour_within_gain_iff homeOnly .morning ⟨?_, ?_, ?_, ?_⟩
  · simp [homeOnly]
  · simp [homeOnly, LocalDateTime.sameDate]
  · simp [homeOnly]
    norm_num
  · simp [homeOnly]

/-- The home inverter at 8 kWh, then the first reading of the garage, at 2. -/
def homeThenGarage : List (Update ℚ × LocalDateTime) :=
  [(.solar { SolarData.default with energyToday := 8 }, .morning),
    (.garageSolar { GarageSolarData.default with energyToday := 2 }, .morning)]

/-- Neither source gained anything, and the hour shows 2000 Wh. -/
theorem second_source_counted_whole :
    SolarHour homeThenGarage .morning ∧
      gain (homeReadings homeThenGarage) + gain (garageReadings homeThenGarage) = 0 ∧
      ((default.applySynced homeThenGarage).hourly .solarProduction).values
        LocalDateTime.morning.slot = 2000 := by
  refine ⟨⟨?_, ?_, ?_, ?_⟩, by decide +kernel, by decide +kernel⟩
  · simp [homeThenGarage]
  · simp [homeThenGarage, LocalDateTime.sameDate]
  · simp [homeThenGarage]
  · simp [homeThenGarage]

end EnergyDisplay.Dashboard

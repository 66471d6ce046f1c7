import EnergyDisplay.Routing

/-! Which day a retained summary is of. The hourly buckets belong to the
Brussels day of the stamp, `decode_summary` dates them by its UTC day, and
`is_for` compares that date with the Brussels day of the clock. -/
namespace EnergyDisplay

open Calendar

namespace Timestamp

variable {timestamp : Timestamp}

theorem utcDay_eq (timestamp : Timestamp) : timestamp.utcDay = timestamp.second / 86400 := by
  unfold utcDay second
  omega

end Timestamp

variable {F : Type} {t u : Timestamp} {here there : LocalDateTime}

/-- The clock shows the date of the Brussels day. -/
theorem localDatetime_date (shown : localDatetime u = some here) :
    here.year = (civil (brusselsSecond u / 86400)).year ∧
      here.month = (civil (brusselsSecond u / 86400)).month ∧
      here.day = (civil (brusselsSecond u / 86400)).day := by
  unfold localDatetime at shown
  split at shown
  · cases shown
  · cases shown
    exact ⟨rfl, rfl, rfl⟩

theorem localDatetime_isSome (valid : validTimestamp u = true) : ∃ here, localDatetime u = some here := by
  simp [localDatetime, valid]

/-- Two days with the same date are the same. -/
theorem civil_eq_iff {first second : Int} :
    ((civil first).year = (civil second).year ∧ (civil first).month = (civil second).month ∧
      (civil first).day = (civil second).day) ↔ first = second := by
  constructor
  · rintro ⟨year, month, day⟩
    exact civil_injective (CivilDate.ext year month day)
  · rintro rfl
    exact ⟨rfl, rfl, rfl⟩

theorem sameLocalDate_iff (shownT : localDatetime t = some there) (shownU : localDatetime u = some here) :
    (there.year = here.year ∧ there.month = here.month ∧ there.day = here.day) ↔
      brusselsSecond t / 86400 = brusselsSecond u / 86400 := by
  obtain ⟨yearT, monthT, dayT⟩ := localDatetime_date shownT
  obtain ⟨yearU, monthU, dayU⟩ := localDatetime_date shownU
  rw [yearT, monthT, dayT, yearU, monthU, dayU]
  exact civil_eq_iff

/-- A summary dated by the UTC day of its stamp is for that Brussels day. -/
theorem isFor_iff {summary : DailySummary F} (dated : summary.date = t.utcDate)
    (shown : localDatetime u = some here) :
    summary.isFor here = true ↔ t.second / 86400 = brusselsSecond u / 86400 := by
  obtain ⟨year, month, day⟩ := localDatetime_date shown
  simp only [DailySummary.isFor, dated, Timestamp.utcDate, Bool.and_eq_true, beq_iff_eq, and_assoc, year,
    month, day, Timestamp.utcDay_eq]
  exact civil_eq_iff

theorem decodeSummary_stamped {fromSlice : List UInt8 → Option (DailySummaryWire F × ℕ)}
    {parse : String → Option Timestamp} {payload : List UInt8} {wire : DailySummaryWire F}
    (decoded : decodeJson fromSlice payload = .ok wire) (stamped : parse wire.timestamp = some t) :
    ∃ summary, decodeSummary fromSlice parse payload = .ok (.dailySummary summary) ∧
      summary.date = t.utcDate := by
  unfold decodeSummary
  rw [decoded]
  simp [bind, Except.bind, stamped, pure, Except.pure]

/-- A summary passes as one of the current day exactly when its stamp is of the
same Brussels day, if the stamp is not of the hour or two in which Brussels is
a day ahead of UTC, or the clock is at neither of the two days. In these hours
a summary of today is taken for one of yesterday. -/
theorem summary_day_agrees_iff (fromSlice : List UInt8 → Option (DailySummaryWire F × ℕ))
    (parse : String → Option Timestamp) {payload : List UInt8} {wire : DailySummaryWire F}
    (decoded : decodeJson fromSlice payload = .ok wire) (stamped : parse wire.timestamp = some t)
    (validT : validTimestamp t = true) (validU : validTimestamp u = true) :
    ∃ summary there here, decodeSummary fromSlice parse payload = .ok (.dailySummary summary) ∧
      localDatetime t = some there ∧ localDatetime u = some here ∧
      ((summary.isFor here = true ↔
          there.year = here.year ∧ there.month = here.month ∧ there.day = here.day) ↔
        t.second % 86400 + centralOffset t.second < 86400 ∨
          (u.second + centralOffset u.second) / 86400 ≠ t.second / 86400 ∧
            (u.second + centralOffset u.second) / 86400 ≠ t.second / 86400 + 1) := by
  obtain ⟨summary, succeeds, dated⟩ := decodeSummary_stamped decoded stamped
  obtain ⟨there, shownT⟩ := localDatetime_isSome validT
  obtain ⟨here, shownU⟩ := localDatetime_isSome validU
  refine ⟨summary, there, here, succeeds, shownT, shownU, ?_⟩
  rw [isFor_iff dated shownU, sameLocalDate_iff shownT shownU]
  unfold brusselsSecond
  rw [localDay_cases t.second]
  generalize (u.second + centralOffset u.second) / 86400 = day
  split <;> omega

/-! ## A restart after midnight -/

/-- An hourly series of zeros, as JSON. -/
def zeroSeriesText : String :=
  let zeros := String.intercalate "," (List.replicate 24 "0.0")
  "\x7b\"values_at_hour_start\":[" ++ zeros ++ "],\"values\":[" ++ zeros ++ "]\x7d"

def summaryPayload (stamp : String) : List UInt8 :=
  let text := "\x7b\"timestamp\":\"" ++ stamp ++ "\",\"grid_import\":" ++ zeroSeriesText ++
    ",\"grid_export\":" ++ zeroSeriesText ++ ",\"solar_production\":" ++ zeroSeriesText ++ "\x7d"
  text.toUTF8.data.toList

def summaryWire (stamp : String) : DailySummaryWire ℕ where
  timestamp := stamp
  gridImport := .default
  gridExport := .default
  solarProduction := .default

/-- A JSON parser that knows the payload of one stamp. -/
def readStamped (stamp : String) (payload : List UInt8) : Option (DailySummaryWire ℕ × ℕ) :=
  if payload = summaryPayload stamp then some (summaryWire stamp, payload.length) else none

/-- A timestamp parser that knows a time after midnight in Brussels and one
before noon. -/
def parseStamp (text : String) : Option Timestamp :=
  if text = "2026-09-08T22:30:00Z" then some ⟨1788906600000000000⟩
  else if text = "2026-09-09T08:15:00Z" then some ⟨1788941700000000000⟩
  else none

theorem decodeJson_stamped (stamp : String) :
    decodeJson (readStamped stamp) (summaryPayload stamp) = .ok (summaryWire stamp) := by
  simp [decodeJson, readStamped]

theorem summary_of_the_morning_agrees :
    ∃ summary there here,
      decodeSummary (readStamped "2026-09-09T08:15:00Z") parseStamp
        (summaryPayload "2026-09-09T08:15:00Z") = .ok (.dailySummary summary) ∧
      localDatetime ⟨1788941700000000000⟩ = some there ∧
      localDatetime ⟨1788906600000000000⟩ = some here ∧
      (summary.isFor here = true ↔
        there.year = here.year ∧ there.month = here.month ∧ there.day = here.day) := by
  obtain ⟨summary, there, here, succeeds, shownT, shownU, agrees⟩ :=
    summary_day_agrees_iff (readStamped "2026-09-09T08:15:00Z") parseStamp
      (decodeJson_stamped "2026-09-09T08:15:00Z")
      (show parseStamp "2026-09-09T08:15:00Z" = some ⟨1788941700000000000⟩ by decide)
      (by decide) (show validTimestamp ⟨1788906600000000000⟩ = true by decide)
  exact ⟨summary, there, here, succeeds, shownT, shownU, agrees.mpr (Or.inl (by decide))⟩

/-- Half past midnight in Brussels on the 9th, the summary of that very moment
is one of another day. -/
theorem summary_after_midnight_rejected :
    ∃ summary here,
      decodeSummary (readStamped "2026-09-08T22:30:00Z") parseStamp
        (summaryPayload "2026-09-08T22:30:00Z") = .ok (.dailySummary summary) ∧
      localDatetime ⟨1788906600000000000⟩ = some here ∧
      ¬(summary.isFor here = true ↔
        here.year = here.year ∧ here.month = here.month ∧ here.day = here.day) := by
  obtain ⟨summary, succeeds, dated⟩ := decodeSummary_stamped
    (decodeJson_stamped "2026-09-08T22:30:00Z")
    (show parseStamp "2026-09-08T22:30:00Z" = some ⟨1788906600000000000⟩ by decide)
  have shown : localDatetime ⟨1788906600000000000⟩ = some
      { year := 2026, month := 9, day := 9, weekday := 3, hour := 0, minute := 30 } := by decide
  refine ⟨summary, _, succeeds, shown, ?_⟩
  intro agrees
  have current := (isFor_iff dated shown).mp (agrees.mpr ⟨rfl, rfl, rfl⟩)
  revert current
  decide

end EnergyDisplay

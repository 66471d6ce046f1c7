import EnergyDisplay.ExactWire
import Mathlib.Data.ZMod.Defs

/-! Every summary that can be published can be restored: the payload fits its
buffer, its packet fits the buffer it comes back in, and reading it by the names
of the fields gives each series its own arrays. -/
namespace EnergyDisplay

open JsonText

/-! ## Lengths -/

theorem utf8Size_marks : '"'.utf8Size = 1 ∧ ':'.utf8Size = 1 ∧ ','.utf8Size = 1 ∧ '['.utf8Size = 1 ∧
    ']'.utf8Size = 1 ∧ '\x7b'.utf8Size = 1 ∧ '\x7d'.utf8Size = 1 := by
  decide

theorem compact_string_length (value : List Char) : utf8Len (compact (.string value)) = utf8Len value + 2 := by
  simp only [compact, utf8Len_cons, utf8Len_append, utf8Len_nil, utf8Size_marks]
  omega

theorem compact_array_length (items : List Json) :
    utf8Len (compact (.array items)) = utf8Len (compactItems items) + 2 := by
  simp only [compact, utf8Len_cons, utf8Len_append, utf8Len_nil, utf8Size_marks]
  omega

theorem compact_object_length (members : List (List Char × Json)) :
    utf8Len (compact (.object members)) = utf8Len (compactMembers members) + 2 := by
  simp only [compact, utf8Len_cons, utf8Len_append, utf8Len_nil, utf8Size_marks]
  omega

/-- Items no longer than a bound, with a comma after each but the last. -/
theorem compactItems_length {items : List Json} {bound : ℕ} (some_ : items ≠ [])
    (short : ∀ item ∈ items, utf8Len (compact item) ≤ bound) :
    utf8Len (compactItems items) + 1 ≤ (bound + 1) * items.length := by
  induction items with
  | nil => exact absurd rfl some_
  | cons item rest ih =>
    obtain ⟨first, others⟩ := List.forall_mem_cons.mp short
    cases rest with
    | nil =>
      simp only [compactItems, List.length_singleton, Nat.mul_one]
      omega
    | cons next rest =>
      have more := ih (by simp) others
      rw [compactItems, utf8Len_append, utf8Len_cons, List.length_cons, Nat.mul_succ]
      simp only [utf8Size_marks]
      omega

/-- A member takes two quotes and a colon, and a comma or the end of the object. -/
theorem compactMembers_length (members : List (List Char × Json)) (some_ : members ≠ []) :
    utf8Len (compactMembers members) + 1 =
      (members.map fun member => utf8Len member.1 + 4 + utf8Len (compact member.2)).sum := by
  induction members with
  | nil => exact absurd rfl some_
  | cons member rest ih =>
    obtain ⟨name, json⟩ := member
    cases rest with
    | nil =>
      simp only [compactMembers, utf8Len_cons, utf8Len_append, utf8Size_marks, List.map_cons, List.map_nil,
        List.sum_cons, List.sum_nil]
      omega
    | cons next rest =>
      have more := ih (by simp)
      rw [List.map_cons, List.sum_cons, ← more]
      simp only [compactMembers, utf8Len_cons, utf8Len_append, utf8Size_marks]
      omega

variable {F : Type} {library : WireLibrary F} {data : HourlyData F} {snapshot : Mqtt.SummarySnapshot F}

/-! ## A series -/

/-- Every value and every baseline is finite. -/
def WireLibrary.Finite (library : WireLibrary F) (data : HourlyData F) : Prop :=
  ∀ hour, library.isFinite (data.valuesAtHourStart hour) = true ∧ library.isFinite (data.values hour) = true

theorem number_eq {value : F} (finite : library.isFinite value = true) :
    library.number value = .number (library.formatNumber value) := if_pos finite

section Series

variable {values : Fin 24 → F}

theorem hours_simple (documented : library.Documented)
    (finite : ∀ hour, library.isFinite (values hour) = true) : (library.hours values).Simple := by
  refine simpleItems_iff.mpr fun item member => ?_
  obtain ⟨hour, rfl⟩ := List.mem_ofFn.mp member
  rw [number_eq (finite hour)]
  exact documented.number _ (finite hour)

/-- 24 numbers of 24 bytes, 23 commas and two brackets. -/
theorem hours_length (documented : library.Documented)
    (finite : ∀ hour, library.isFinite (values hour) = true) : utf8Len (compact (library.hours values)) ≤ 601 := by
  have short : ∀ item ∈ List.ofFn fun hour => library.number (values hour), utf8Len (compact item) ≤ 24 := by
    intro item member
    obtain ⟨hour, rfl⟩ := List.mem_ofFn.mp member
    rw [number_eq (finite hour), compact]
    exact documented.number_short _ (finite hour)
  have items := compactItems_length (by simp) short
  rw [List.length_ofFn] at items
  rw [WireLibrary.hours, compact_array_length]
  omega

theorem mapM_readNumber (documented : library.Documented) {numbers : List F}
    (finite : ∀ value ∈ numbers, library.isFinite value = true) :
    (numbers.map library.number).mapM library.readNumber = some numbers := by
  induction numbers with
  | nil => rfl
  | cons value rest ih =>
    obtain ⟨first, others⟩ := List.forall_mem_cons.mp finite
    simp [number_eq first, documented.number_read value first, ih others]

theorem readHours_hours (documented : library.Documented)
    (finite : ∀ hour, library.isFinite (values hour) = true) :
    readHours library.readNumber (library.hours values) = some values := by
  have all : ∀ value ∈ List.ofFn values, library.isFinite value = true := by
    intro value member
    obtain ⟨hour, rfl⟩ := List.mem_ofFn.mp member
    exact finite hour
  have numbers := mapM_readNumber documented all
  rw [List.map_ofFn] at numbers
  have read : readHours library.readNumber (library.hours values) =
      if all : (List.ofFn values).length = 24 then some fun hour : Fin 24 => (List.ofFn values)[hour] else none :=
    congrArg (Option.bind · _) numbers
  rw [read, dif_pos List.length_ofFn]
  congr 1
  funext hour
  exact List.getElem_ofFn ..

/-! ## A series as a whole -/

variable (documented : library.Documented)

include documented

theorem series_simple (finite : library.Finite data) : (library.series data).Simple :=
  ⟨List.all_iff_forall_prop.mp rfl, hours_simple documented fun hour => (finite hour).1,
    List.all_iff_forall_prop.mp rfl, hours_simple documented fun hour => (finite hour).2, trivial⟩

theorem series_length (finite : library.Finite data) : utf8Len (compact (library.series data)) ≤ 1237 := by
  have starts := hours_length documented fun hour => (finite hour).1
  have values := hours_length documented fun hour => (finite hour).2
  have members := compactMembers_length [
    ("values_at_hour_start".toList, library.hours data.valuesAtHourStart),
    ("values".toList, library.hours data.values)] (by simp)
  have names : utf8Len "values_at_hour_start".toList = 20 ∧ utf8Len "values".toList = 6 := by decide
  simp only [List.map_cons, List.map_nil, List.sum_cons, List.sum_nil, names] at members
  rw [WireLibrary.series, compact_object_length]
  omega

/-- A series comes back with its arrays, and without what is skipped. -/
theorem readSeries_series [Zero F] (finite : library.Finite data) :
    readSeries library.readNumber (library.series data) = some data.skipped := by
  have starts : readHours library.readNumber (library.hours data.valuesAtHourStart) = some _ :=
    readHours_hours documented fun hour => (finite hour).1
  have values : readHours library.readNumber (library.hours data.values) = some _ :=
    readHours_hours documented fun hour => (finite hour).2
  show (do
    let valuesAtHourStart ← readHours library.readNumber (library.hours data.valuesAtHourStart)
    let values ← readHours library.readNumber (library.hours data.values)
    return { HourlyData.default with
      valuesAtHourStart := valuesAtHourStart
      values := values }) = some data.skipped
  rw [starts, values]
  rfl

end Series

/-! ## The payload -/

namespace Mqtt

variable {text : List Char}

/-- Every series of the snapshot is finite. -/
def SummarySnapshot.Finite (snapshot : SummarySnapshot F) (library : WireLibrary F) : Prop :=
  library.Finite snapshot.gridImport ∧ library.Finite snapshot.gridExport ∧
    library.Finite snapshot.solarProduction

theorem summaryTimestamp_eq (documented : library.Documented)
    (valid : validTimestamp snapshot.timestamp = true) :
    ∃ timestamp, summaryTimestamp library snapshot = some timestamp ∧
      timestamp.items = library.formatTimestamp snapshot.timestamp := by
  have short := documented.timestamp_short snapshot.timestamp valid
  exact HeaplessString.pushStr_fits (by simpa using short)

section Payload

variable (documented : library.Documented) (finite : snapshot.Finite library)

include documented finite

theorem summaryJson_simple (plain : ∀ character ∈ text, Plain character) :
    (summaryJson library snapshot text).Simple := by
  obtain ⟨imports, exports, solar⟩ := finite
  exact ⟨List.all_iff_forall_prop.mp rfl, plain, List.all_iff_forall_prop.mp rfl, series_simple documented imports,
    List.all_iff_forall_prop.mp rfl, series_simple documented exports, List.all_iff_forall_prop.mp rfl,
    series_simple documented solar, trivial⟩

/-- The payload is JSON. -/
theorem summaryJson_value (plain : ∀ character ∈ text, Plain character) :
    Value (compact (summaryJson library snapshot text)) (summaryJson library snapshot text) :=
  compact_value (summaryJson_simple documented finite plain)

/-- The longest payload there is. -/
theorem summaryJson_length (short : utf8Len text ≤ 32) :
    utf8Len (compact (summaryJson library snapshot text)) ≤ 3809 := by
  obtain ⟨imports, exports, solar⟩ := finite
  have importLength := series_length documented imports
  have exportLength := series_length documented exports
  have solarLength := series_length documented solar
  have members := compactMembers_length [
    ("timestamp".toList, .string text),
    ("grid_import".toList, library.series snapshot.gridImport),
    ("grid_export".toList, library.series snapshot.gridExport),
    ("solar_production".toList, library.series snapshot.solarProduction)] (by simp)
  have names : utf8Len "timestamp".toList = 9 ∧ utf8Len "grid_import".toList = 11 ∧
      utf8Len "grid_export".toList = 11 ∧ utf8Len "solar_production".toList = 16 := by decide
  simp only [List.map_cons, List.map_nil, List.sum_cons, List.sum_nil, names, compact_string_length] at members
  rw [summaryJson, compact_object_length]
  omega

/-- Each field is found under its name. -/
theorem readSummary_summaryJson [Zero F] (short : utf8Len text ≤ 32) :
    readSummary library.readNumber (summaryJson library snapshot text) = some {
      timestamp := String.ofList text
      gridImport := snapshot.gridImport.skipped
      gridExport := snapshot.gridExport.skipped
      solarProduction := snapshot.solarProduction.skipped } := by
  obtain ⟨imports, exports, solar⟩ := finite
  have timestamp : readText 32 (.string text) = some (String.ofList text) := if_pos short
  show (do
    let timestamp ← readText 32 (.string text)
    let gridImport ← readSeries library.readNumber (library.series snapshot.gridImport)
    let gridExport ← readSeries library.readNumber (library.series snapshot.gridExport)
    let solarProduction ← readSeries library.readNumber (library.series snapshot.solarProduction)
    return ({
      timestamp := timestamp
      gridImport := gridImport
      gridExport := gridExport
      solarProduction := solarProduction } : DailySummaryWire F)) = some _
  rw [timestamp, readSeries_series documented imports, readSeries_series documented exports,
    readSeries_series documented solar]
  rfl

end Payload

/-- A payload that is read to its end. -/
theorem decodeSummary_of {fromSlice : List UInt8 → Option (DailySummaryWire F × ℕ)}
    {parse : String → Option Timestamp} {payload : List UInt8} {wire : DailySummaryWire F} {timestamp : Timestamp}
    (read : fromSlice payload = some (wire, payload.length)) (parsed : parse wire.timestamp = some timestamp) :
    decodeSummary fromSlice parse payload = .ok (.dailySummary {
      date := timestamp.utcDate
      solarProduction := wire.solarProduction
      gridImport := wire.gridImport
      gridExport := wire.gridExport }) := by
  have whole : decodeJson fromSlice payload = .ok wire := by
    simp [decodeJson, read]
  rw [decodeSummary, whole]
  simp [bind, Except.bind, parsed, pure, Except.pure]

/-- What is written is decoded under its topic. -/
theorem decodeUpdate_summaryJson [Zero F] (documented : library.Documented) (others : Readers F)
    (finite : snapshot.Finite library) (plain : ∀ character ∈ text, Plain character) (short : utf8Len text ≤ 32)
    {timestamp : Timestamp} (parsed : library.parseTimestamp text = some timestamp) :
    decodeUpdate (library.readers others) Routing.summaryTopic
        (utf8Bytes (compact (summaryJson library snapshot text))) = .ok (.dailySummary {
      date := timestamp.utcDate
      solarProduction := snapshot.solarProduction.skipped
      gridImport := snapshot.gridImport.skipped
      gridExport := snapshot.gridExport.skipped }) := by
  have read := documented.read _ (summaryJson_simple documented finite plain)
  have wire := readSummary_summaryJson documented finite short
  generalize summaryJson library snapshot text = json at read wire ⊢
  have reads : (library.readers others).summary (utf8Bytes (compact json)) =
      (readSummary library.readNumber json).map (·, (utf8Bytes (compact json)).length) := by
    simp [WireLibrary.readers, read, Option.map_eq_bind]
  rw [wire] at reads
  have stamped : (library.readers others).timestamp (String.ofList text) = some timestamp := by
    simpa [WireLibrary.readers] using parsed
  rw [decodeUpdate_summary]
  exact decodeSummary_of reads stamped

/-! ## The packet -/

theorem variableByteInteger_length {value : ℕ} (small : value < 16384) :
    (variableByteInteger value).length ≤ 2 := by
  rw [variableByteInteger]
  split
  case isTrue => simp
  case isFalse =>
    rw [variableByteInteger, if_pos (by omega)]
    rfl

/-- The topic is named, and the packet has an identifier and no properties. -/
theorem publishPacket_length (duplicate : Bool) (packetIdentifier : ℕ) {payload : List UInt8}
    (short : payload.length ≤ 3809) :
    (publishPacket duplicate packetIdentifier Routing.summaryTopic payload).length ≤ 3836 := by
  have topic : (utf8Bytes Routing.summaryTopic.toList).length = 19 := by decide
  have body : (uint16 19 ++ utf8Bytes Routing.summaryTopic.toList ++ uint16 packetIdentifier ++ [0] ++
      payload).length = 24 + payload.length := by
    simp only [uint16, List.length_append, List.length_cons, List.length_nil, topic]
  have header := variableByteInteger_length (show 24 + payload.length < 16384 by omega)
  rw [publishPacket, topic, List.length_cons, List.length_append, body]
  omega

/-- **Every summary that can be published can be restored.** A snapshot of this
century whose numbers are finite is encoded, in 3809 bytes at most; the packet
that carries it fits the buffer it is received in; and decoding the payload under
its topic gives the date of the timestamp, and for every series the arrays of
the snapshot. -/
theorem published_summary_is_restored [Zero F] (library : WireLibrary F) (documented : library.Documented)
    (others : Readers F) (snapshot : SummarySnapshot F) (finite : snapshot.Finite library)
    (valid : validTimestamp snapshot.timestamp = true) :
    ∃ timestamp payload, summaryTimestamp library snapshot = some timestamp ∧
      encodeSummary library snapshot timestamp.items summaryPayloadBytes = some payload ∧
      (∀ duplicate packetIdentifier,
        (publishPacket duplicate packetIdentifier Routing.summaryTopic payload).length ≤ receiveScratchBytes) ∧
      decodeUpdate (library.readers others) Routing.summaryTopic payload = .ok (.dailySummary {
        date := snapshot.timestamp.utcDate
        solarProduction := snapshot.solarProduction.skipped
        gridImport := snapshot.gridImport.skipped
        gridExport := snapshot.gridExport.skipped }) := by
  obtain ⟨timestamp, formatted, text⟩ := summaryTimestamp_eq documented valid
  have simple := summaryJson_simple documented finite (documented.timestamp_plain _ valid)
  have short := documented.timestamp_short _ valid
  have length := summaryJson_length documented finite short
  rw [← text] at simple length
  refine ⟨timestamp, utf8Bytes (compact (summaryJson library snapshot timestamp.items)), formatted, ?_, ?_, ?_⟩
  · exact documented.written _ _ simple (length.trans (by decide))
  · intro duplicate packetIdentifier
    have packet := publishPacket_length duplicate packetIdentifier ((length_utf8Bytes _).trans_le length)
    exact packet.trans (by decide)
  · rw [text]
    exact decodeUpdate_summaryJson documented others finite (documented.timestamp_plain _ valid) short
      (documented.timestamp_read _ valid)

/-- An afternoon with an hour of each series. -/
def afternoon : SummarySnapshot (Fin 1000) where
  timestamp := ⟨1789491600236376961⟩
  gridImport := { HourlyData.default with values := fun hour => if hour.val = 0 then 51 else 0 }
  gridExport := { HourlyData.default with values := fun hour => if hour.val = 12 then 427 else 0 }
  solarProduction := { HourlyData.default with
    valuesAtHourStart := fun hour => if hour.val = 17 then 46 else 0
    values := fun hour => if hour.val = 17 then 700 else 0 }
  applied := []

/-- No other payload is read. -/
def summariesOnly : Readers (Fin 1000) :=
  ⟨fun _ => none, fun _ => none, fun _ => none, fun _ => none, fun _ => none, fun _ => none, fun _ => none,
    fun _ => none, fun _ => none⟩

theorem afternoon_is_restored :
    ∃ timestamp payload, summaryTimestamp exactWire afternoon = some timestamp ∧
      encodeSummary exactWire afternoon timestamp.items summaryPayloadBytes = some payload ∧
      (∀ duplicate packetIdentifier,
        (publishPacket duplicate packetIdentifier Routing.summaryTopic payload).length ≤ receiveScratchBytes) ∧
      decodeUpdate (exactWire.readers summariesOnly) Routing.summaryTopic payload = .ok (.dailySummary {
        date := ⟨2026, 9, 15⟩
        solarProduction := afternoon.solarProduction.skipped
        gridImport := afternoon.gridImport.skipped
        gridExport := afternoon.gridExport.skipped }) :=
  published_summary_is_restored exactWire exactWire_documented summariesOnly afternoon
    ⟨fun _ => ⟨rfl, rfl⟩, fun _ => ⟨rfl, rfl⟩, fun _ => ⟨rfl, rfl⟩⟩ (by decide)

end Mqtt

end EnergyDisplay

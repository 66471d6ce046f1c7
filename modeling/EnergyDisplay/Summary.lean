import EnergyDisplay.Lib.CompactJson
import EnergyDisplay.Lib.Heapless
import EnergyDisplay.Mqtt
import EnergyDisplay.Routing

/-! The payload of a published summary: what `encode_summary` of
`firmware/src/tasks/mqtt.rs` writes, and what `serde` derives for reading it in
`crates/dashboard-core`. The two `DailySummaryWire` are declared apart, and only
the names of their fields tie them together.

JSON is written and read by `serde-json-core`, numbers by `core` and `ryu`, and
timestamps by `jiff`; what they do comes in as one record. -/
namespace EnergyDisplay

open JsonText

/-- The libraries. `fromSlice` says how many bytes it has read, and `readNumber`
what a field of type `f64` makes of a value: `null` is a number to it, `NaN`. -/
structure WireLibrary (F : Type) where
  isFinite : F → Bool
  formatNumber : F → List Char
  readNumber : Json → Option F
  formatTimestamp : Timestamp → List Char
  parseTimestamp : List Char → Option Timestamp
  toSlice : Json → ℕ → Option (List UInt8)
  fromSlice : List UInt8 → Option (Json × ℕ)

/-- What is relied on: a finite number is written as one, in at most 24 bytes,
and read back; so is a timestamp of this century, in at most 32; JSON is written
without spaces, if there is room, and read back. -/
structure WireLibrary.Documented {F : Type} (library : WireLibrary F) : Prop where
  number : ∀ value, library.isFinite value = true → Number (library.formatNumber value)
  number_short : ∀ value, library.isFinite value = true → utf8Len (library.formatNumber value) ≤ 24
  number_read : ∀ value, library.isFinite value = true →
    library.readNumber (.number (library.formatNumber value)) = some value
  timestamp_plain : ∀ timestamp, validTimestamp timestamp = true →
    ∀ character ∈ library.formatTimestamp timestamp, Plain character
  timestamp_short : ∀ timestamp, validTimestamp timestamp = true →
    utf8Len (library.formatTimestamp timestamp) ≤ 32
  timestamp_read : ∀ timestamp, validTimestamp timestamp = true →
    library.parseTimestamp (library.formatTimestamp timestamp) = some timestamp
  written : ∀ (json : Json) size, json.Simple → utf8Len (compact json) ≤ size →
    library.toSlice json size = some (utf8Bytes (compact json))
  read : ∀ json : Json, json.Simple →
    library.fromSlice (utf8Bytes (compact json)) = some (json, utf8Len (compact json))

variable {F : Type}

/-! ## Writing -/

namespace WireLibrary

/-- `serialize_f64`. -/
def number (library : WireLibrary F) (value : F) : Json :=
  if library.isFinite value then .number (library.formatNumber value) else .null

/-- `Serialize` of an array. -/
def hours (library : WireLibrary F) (values : Fin 24 → F) : Json :=
  .array (List.ofFn fun hour => library.number (values hour))

/-- `Serialize` of `HourlyData`. -/
def series (library : WireLibrary F) (data : HourlyData F) : Json :=
  .object [
    ("values_at_hour_start".toList, library.hours data.valuesAtHourStart),
    ("values".toList, library.hours data.values)]

end WireLibrary

namespace Mqtt

def receiveScratchBytes : ℕ := 4096

def summaryPayloadBytes : ℕ := receiveScratchBytes

/-- `DailySummaryWire` of `mqtt.rs`, serialized. -/
def summaryJson (library : WireLibrary F) (snapshot : SummarySnapshot F) (timestamp : List Char) : Json :=
  .object [
    ("timestamp".toList, .string timestamp),
    ("grid_import".toList, library.series snapshot.gridImport),
    ("grid_export".toList, library.series snapshot.gridExport),
    ("solar_production".toList, library.series snapshot.solarProduction)]

def encodeSummary (library : WireLibrary F) (snapshot : SummarySnapshot F) (timestamp : List Char)
    (size : ℕ) : Option (List UInt8) :=
  library.toSlice (summaryJson library snapshot timestamp) size

/-- The timestamp as `publish_summary_if_needed` writes it. -/
def summaryTimestamp (library : WireLibrary F) (snapshot : SummarySnapshot F) : Option (HeaplessString 32) :=
  HeaplessString.pushStr .empty (library.formatTimestamp snapshot.timestamp)

/-- The payload `publish_summary_if_needed` hands to the client. -/
def summaryPayload (library : WireLibrary F) (snapshot : SummarySnapshot F) : Option (List UInt8) := do
  let timestamp ← summaryTimestamp library snapshot
  encodeSummary library snapshot timestamp.items summaryPayloadBytes

/-! ## The packet

A PUBLISH of MQTT 5 as the options of `publish_summary_if_needed` ask for it:
at least once, retained, and without properties. -/

def uint16 (value : ℕ) : List UInt8 := [UInt8.ofNat (value / 256), UInt8.ofNat value]

/-- Seven bits a byte, the lowest first. -/
def variableByteInteger (value : ℕ) : List UInt8 :=
  if value < 128 then [UInt8.ofNat value]
  else UInt8.ofNat (value % 128 + 128) :: variableByteInteger (value / 128)
termination_by value
decreasing_by omega

def publishPacket (duplicate : Bool) (packetIdentifier : ℕ) (topic : String) (payload : List UInt8) :
    List UInt8 :=
  let body := uint16 (utf8Bytes topic.toList).length ++ utf8Bytes topic.toList ++ uint16 packetIdentifier ++
    [0] ++ payload
  (if duplicate then 0x3b else 0x33) :: (variableByteInteger body.length ++ body)

end Mqtt

/-! ## Reading -/

section Reading

/-- A field of a derived `Deserialize`: once, among whatever else there is. -/
def wireField (name : String) (members : List (List Char × Json)) : Option Json :=
  match members.filter fun member => member.1 = name.toList with
  | [member] => some member.2
  | _ => none

/-- `Deserialize` of `[f64; 24]`. -/
def readHours (readNumber : Json → Option F) : Json → Option (Fin 24 → F)
  | .array items => do
    let values ← items.mapM readNumber
    if all : values.length = 24 then some fun hour => values[hour] else none
  | _ => none

/-- `Deserialize` of `HourlyData`. -/
def readSeries [Zero F] (readNumber : Json → Option F) : Json → Option (HourlyData F)
  | .object members => do
    let valuesAtHourStart ← readHours readNumber (← wireField "values_at_hour_start" members)
    let values ← readHours readNumber (← wireField "values" members)
    return { HourlyData.default with
      valuesAtHourStart := valuesAtHourStart
      values := values }
  | _ => none

/-- `Deserialize` of `heapless::String`. -/
def readText (capacity : ℕ) : Json → Option String
  | .string value => if utf8Len value ≤ capacity then some (String.ofList value) else none
  | _ => none

/-- `Deserialize` of `DailySummaryWire` in `routing.rs`. -/
def readSummary [Zero F] (readNumber : Json → Option F) : Json → Option (DailySummaryWire F)
  | .object members => do
    let timestamp ← readText 32 (← wireField "timestamp" members)
    let gridImport ← readSeries readNumber (← wireField "grid_import" members)
    let gridExport ← readSeries readNumber (← wireField "grid_export" members)
    let solarProduction ← readSeries readNumber (← wireField "solar_production" members)
    return {
      timestamp := timestamp
      gridImport := gridImport
      gridExport := gridExport
      solarProduction := solarProduction }
  | _ => none

/-- The readers `decode_update` takes for a summary; the others stay what they
are. -/
def WireLibrary.readers [Zero F] (library : WireLibrary F) (others : Readers F) : Readers F :=
  { others with
    summary := fun payload => do
      let (json, consumed) ← library.fromSlice payload
      return (← readSummary library.readNumber json, consumed)
    timestamp := fun text => library.parseTimestamp text.toList }

end Reading

end EnergyDisplay

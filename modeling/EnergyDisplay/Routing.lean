import EnergyDisplay.Clock
import EnergyDisplay.Lib.Utf8

/-! The decoding of what the broker sends, from
`crates/dashboard-core/src/routing.rs`. The JSON parser and the parsers of
numbers and timestamps are libraries and come in as arguments. -/
namespace EnergyDisplay

inductive DecodeError where
  | unknownTopic
  | ignoredTopic
  | invalidUtf8
  | invalidPayload
  | trailingData
  deriving DecidableEq

/-- `u8::is_ascii_whitespace`: space, tab, line feed, form feed and carriage
return. -/
def isAsciiWhitespace (byte : UInt8) : Bool :=
  byte == 32 || byte == 9 || byte == 10 || byte == 12 || byte == 13

/-- `fromSlice` reads a value and says how many bytes it took. -/
def decodeJson {α : Type} (fromSlice : List UInt8 → Option (α × ℕ)) (payload : List UInt8) :
    Except DecodeError α :=
  match fromSlice payload with
  | none => .error .invalidPayload
  | some (value, consumed) =>
    if (payload.drop consumed).all isAsciiWhitespace then .ok value else .error .trailingData

structure DailySummaryWire (F : Type) where
  timestamp : String
  gridImport : HourlyData F
  gridExport : HourlyData F
  solarProduction : HourlyData F

def decodeSummary {F : Type} (fromSlice : List UInt8 → Option (DailySummaryWire F × ℕ))
    (parse : String → Option Timestamp) (payload : List UInt8) : Except DecodeError (Update F) := do
  let summary ← decodeJson fromSlice payload
  match parse summary.timestamp with
  | none => .error .invalidPayload
  | some timestamp =>
    return .dailySummary {
      date := timestamp.utcDate
      solarProduction := summary.solarProduction
      gridImport := summary.gridImport
      gridExport := summary.gridExport }

/-! ## Topics -/

namespace Routing

def heatpumpDataTopic : String := "espaltherma/ATTR"

def heatpumpPowerTopic : String := "home/zigbee/HeatpumpPower"

def heatpumpBackupPowerTopic : String := "home/zigbee/HeatpumpPowerBUH"

def heatpumpCopTopic : String := "energy/heatpump/status/cop"

def heatpumpModeTopic : String := "energy/heatpump/status/mode"

def heatpumpRecommendTopic : String := "energy/heatpump/status/relay/recommend"

def heatpumpForceTopic : String := "energy/heatpump/status/relay/force"

def outdoorSensorTopic : String := "home/zigbee/BuitenSensor"

def solarTopic : String := "energy/solar"

def garageSolarTopic : String := "energy/solar_garage"

def gridTopic : String := "energy/p1/state"

def summaryTopic : String := "energy/daylysummary"

end Routing

structure PowerData where
  power : Int

/-- `serde_json_core::from_slice` at each of its types, and the two parsers. -/
structure Readers (F : Type) where
  heatpump : List UInt8 → Option (HeatpumpData F × ℕ)
  power : List UInt8 → Option (PowerData × ℕ)
  temperature : List UInt8 → Option (TemperatureData F × ℕ)
  solar : List UInt8 → Option (SolarData F × ℕ)
  garageSolar : List UInt8 → Option (GarageSolarData F × ℕ)
  grid : List UInt8 → Option (GridData F × ℕ)
  summary : List UInt8 → Option (DailySummaryWire F × ℕ)
  number : List Char → Option F
  timestamp : String → Option Timestamp

def decodeNumber {F : Type} (parse : List Char → Option F) (payload : List UInt8) : Except DecodeError F :=
  match fromUtf8 payload with
  | none => .error .invalidUtf8
  | some text => (parse text).elim (.error .invalidPayload) .ok

def decodeRelay (payload : List UInt8) : Except DecodeError Bool :=
  match fromUtf8 payload with
  | none => .error .invalidUtf8
  | some text => .ok (text == "ON".toList)

open Routing in
def decodeUpdate {F : Type} (readers : Readers F) (topic : String) (payload : List UInt8) :
    Except DecodeError (Update F) :=
  if topic = heatpumpDataTopic then (decodeJson readers.heatpump payload).map .heatpump
  else if topic = heatpumpPowerTopic then
    (decodeJson readers.power payload).map fun data => .heatpumpPower data.power
  else if topic = heatpumpBackupPowerTopic then
    (decodeJson readers.power payload).map fun data => .heatpumpBackupPower data.power
  else if topic = heatpumpCopTopic then (decodeNumber readers.number payload).map .heatpumpCop
  else if topic = heatpumpModeTopic then .error .ignoredTopic
  else if topic = heatpumpRecommendTopic then (decodeRelay payload).map .heatpumpRecommend
  else if topic = heatpumpForceTopic then (decodeRelay payload).map .heatpumpForce
  else if topic = outdoorSensorTopic then (decodeJson readers.temperature payload).map .outdoorSensor
  else if topic = solarTopic then (decodeJson readers.solar payload).map .solar
  else if topic = garageSolarTopic then (decodeJson readers.garageSolar payload).map .garageSolar
  else if topic = gridTopic then (decodeJson readers.grid payload).map .grid
  else if topic = summaryTopic then decodeSummary readers.summary readers.timestamp payload
  else .error .unknownTopic

@[simp] theorem decodeUpdate_summary {F : Type} (readers : Readers F) (payload : List UInt8) :
    decodeUpdate readers Routing.summaryTopic payload =
      decodeSummary readers.summary readers.timestamp payload := rfl

end EnergyDisplay

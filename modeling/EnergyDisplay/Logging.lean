import EnergyDisplay.Lib.Heapless

/-! The JSON formatter of `firmware/src/logging.rs`. It writes into a bounded
string and ignores what is refused. Texts are lists of characters. -/
namespace EnergyDisplay.Logging

def structuredLogMessageCapacity : ℕ := 1024

/-- `PANIC_MESSAGE_CAPACITY` of `panic_store.rs`. -/
def panicMessageCapacity : ℕ := 512

def structuredLogAppName : List Char := "energydisplay".toList

def structuredLogHostname : List Char := "energydisplay".toList

inductive Level where
  | error
  | warn
  | info
  | debug
  | trace
  deriving DecidableEq

def levelName : Level → List Char
  | .error => "error".toList
  | .warn => "warn".toList
  | .info => "info".toList
  | .debug => "debug".toList
  | .trace => "trace".toList

/-- `log::Record`. The arguments are the pieces they are formatted in. -/
structure Record where
  level : Level
  target : List Char
  args : List (List Char)
  modulePath : Option (List Char)
  file : Option (List Char)
  line : Option UInt32

def Record.message (record : Record) : List Char := record.args.flatten

variable {N : ℕ}

/-- `output.push_str(text).ok()`. -/
def pushOk (output : HeaplessString N) (text : List Char) : HeaplessString N :=
  (output.pushStr text).getD output

namespace JsonWriter

/-- `{:04x}`, in the pieces the formatter pads with and writes. -/
def hex04 (code : ℕ) : List (List Char) :=
  let digits := Nat.toDigits 16 code
  List.replicate (4 - digits.length) ['0'] ++ [digits]

/-- What is pushed for a character. -/
def pieces (character : Char) : List (List Char) :=
  if character = '"' then [['\\', '"']]
  else if character = '\\' then [['\\', '\\']]
  else if character = '\n' then [['\\', 'n']]
  else if character = '\r' then [['\\', 'r']]
  else if character = '\t' then [['\\', 't']]
  else if character.toNat ≤ 0x1f then ['\\', 'u'] :: hex04 character.toNat
  else [[character]]

/-- `write_str`: the first refusal is an error. -/
def writeStr (output : HeaplessString N) : List Char → HeaplessString N × Bool
  | [] => (output, true)
  | character :: rest =>
    match output.writePieces (pieces character) with
    | (longer, true) => writeStr longer rest
    | (longer, false) => (longer, false)

/-- `fmt::write` of arguments. -/
def write (output : HeaplessString N) : List (List Char) → HeaplessString N × Bool
  | [] => (output, true)
  | value :: rest =>
    match writeStr output value with
    | (longer, true) => write longer rest
    | (longer, false) => (longer, false)

end JsonWriter

def jsonString (output : HeaplessString N) (value : List Char) : HeaplessString N :=
  let output := pushOk output ['"']
  let output := (JsonWriter.writeStr output value).1
  pushOk output ['"']

def jsonArguments (output : HeaplessString N) (value : List (List Char)) : HeaplessString N :=
  let output := pushOk output ['"']
  let output := (JsonWriter.write output value).1
  pushOk output ['"']

/-- What follows the last `::`, or all of a target without one:
`target.rsplit("::").next()`. -/
def component (target : List Char) : List Char := search target target
where
  search : List Char → List Char → List Char
    | [], found => found
    | character :: rest, found =>
      if character = ':' ∧ rest.head? = some ':' then search rest rest.tail else search rest found

def formatStructuredLogMessage (record : Record) : HeaplessString structuredLogMessageCapacity :=
  let output := pushOk .empty ['\x7b']
  let output := pushOk output "\"app_name\":".toList
  let output := jsonString output structuredLogAppName
  let output := pushOk output ",\"hostname\":".toList
  let output := jsonString output structuredLogHostname
  let output := pushOk output ",\"proc_id\":\"1\",\"device\":\"energy-display\",\"level\":".toList
  let output := jsonString output (levelName record.level)
  let output := pushOk output ",\"component\":".toList
  let output := jsonString output (component record.target)
  let output := pushOk output ",\"message\":".toList
  let output := jsonArguments output record.args
  let output := pushOk output ",\"_msg\":".toList
  let output := jsonArguments output record.args
  let output := pushOk output ",\"target\":".toList
  let output := jsonString output record.target
  let output :=
    match record.modulePath with
    | some modulePath => jsonString (pushOk output ",\"module_path\":".toList) modulePath
    | none => output
  let output :=
    match record.file with
    | some file => jsonString (pushOk output ",\"file\":".toList) file
    | none => output
  let output :=
    match record.line with
    | some line => (output.writePieces [",\"line\":".toList, Nat.toDigits 10 line.toNat]).1
    | none => output
  pushOk output ['\x7d']

/-- The record of `report_previous_panic`. -/
def previousPanic (message : List Char) : Record where
  level := .error
  target := "panic".toList
  args := ["previous boot panicked: ".toList, message]
  modulePath := none
  file := none
  line := none

example : component "a::b::::c".toList = "c".toList ∧ component "plain".toList = "plain".toList := by
  decide

end EnergyDisplay.Logging

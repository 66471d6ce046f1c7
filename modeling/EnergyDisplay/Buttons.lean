import EnergyDisplay.Lib.Runs

/-! The two buttons of `firmware/src/tasks/buttons.rs`, over ticks of any length:
`interval` whole ticks pass before the one in which `DEBOUNCE_INTERVAL` ends. The
pins are active-low. -/
namespace EnergyDisplay.Buttons

/-- Where `monitor` and `monitor_key` wait: for a falling edge, for the interval
after it, for the pin to be high, and for the interval after that. -/
inductive Monitor where
  | fallingEdge
  | pressed (left : ℕ)
  | high
  | released (left : ℕ)
  deriving DecidableEq

/-- A pin and the loop that monitors it. -/
structure Button where
  low : Bool
  monitor : Monitor
  deriving DecidableEq

def Button.idle : Button where
  low := false
  monitor := .fallingEdge

/-- One tick, to a level of the pin: the loop of `monitor` and of `monitor_key`. -/
def step (interval : ℕ) (button : Button) (low : Bool) : Button where
  low := low
  monitor :=
    match button.monitor with
    | .fallingEdge => if !button.low && low then .pressed interval else .fallingEdge
    | .pressed (left + 1) => .pressed left
    | .pressed 0 => if low then .high else .fallingEdge
    | .high => if low then .high else .released interval
    | .released (left + 1) => .released left
    | .released 0 => .fallingEdge

/-- What a debounced press does. -/
inductive Effect where
  | logged (name : List Char)
  | toggleQueued
  deriving DecidableEq

/-- What a tick does: the effects of a press, when it is one. -/
def onPress (effects : List Effect) (button : Button) (low : Bool) : List Effect :=
  match button.monitor with
  | .pressed 0 => if low then effects else []
  | _ => []

def monitor (name : List Char) : Button → Bool → List Effect := onPress [.logged name]

def monitorKey : Button → Bool → List Effect := onPress [.logged "KEY".toList, .toggleQueued]

end EnergyDisplay.Buttons

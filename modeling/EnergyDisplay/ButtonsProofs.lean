import EnergyDisplay.Buttons

/-! Debouncing. However the contact bounces within the interval, when it closes
and when it opens, a press is reported once; and whatever the pin does, reports
keep two intervals apart. -/
namespace EnergyDisplay.Buttons

open Runs

/-- A press that bounces for no longer than the interval: contact, bounces,
contact, so many ticks held, parting, bounces, and rest. -/
structure Press (interval : ℕ) where
  closing : List Bool
  held : ℕ
  opening : List Bool
  rest : ℕ
  closing_length : closing.length = interval
  opening_length : opening.length = interval

variable {interval : ℕ} {effects : List Effect}

/-- The levels of the pin. -/
def Press.signal (press : Press interval) : List Bool :=
  (true :: press.closing) ++ (true :: List.replicate press.held true) ++
    (false :: press.opening) ++ (false :: List.replicate press.rest false)

/-- While an interval passes the levels do not count. -/
theorem run_pressed (interval : ℕ) (levels : List Bool) (low : Bool) : ∃ last,
    run (step interval) ⟨low, .pressed levels.length⟩ levels = ⟨last, .pressed 0⟩ ∧
      observed (step interval) (onPress effects) ⟨low, .pressed levels.length⟩ levels = [] := by
  induction levels generalizing low with
  | nil => exact ⟨low, rfl, rfl⟩
  | cons level rest ih => exact ih level

theorem run_released (interval : ℕ) (levels : List Bool) (low : Bool) : ∃ last,
    run (step interval) ⟨low, .released levels.length⟩ levels = ⟨last, .released 0⟩ ∧
      observed (step interval) (onPress effects) ⟨low, .released levels.length⟩ levels = [] := by
  induction levels generalizing low with
  | nil => exact ⟨low, rfl, rfl⟩
  | cons level rest ih => exact ih level

/-- While nothing changes, neither does the state. -/
theorem run_steady (interval count : ℕ) (button : Button) (low : Bool)
    (steady : step interval button low = button) (quiet : onPress effects button low = []) :
    run (step interval) button (List.replicate count low) = button ∧
      observed (step interval) (onPress effects) button (List.replicate count low) = [] := by
  induction count with
  | zero => exact ⟨rfl, rfl⟩
  | succ count ih =>
    rw [List.replicate_succ, run_cons, observed_cons, steady, quiet]
    exact ih

/-- A press has its effects once, and leaves the button as it was. -/
theorem run_press (press : Press interval) :
    run (step interval) .idle press.signal = .idle ∧
      observed (step interval) (onPress effects) .idle press.signal = effects := by
  obtain ⟨closed, closes, quiet⟩ := run_pressed interval press.closing true
  obtain ⟨opened, opens, silent⟩ := run_released interval press.opening false
  rw [press.closing_length] at closes quiet
  rw [press.opening_length] at opens silent
  have closing : run (step interval) .idle (true :: press.closing) = ⟨closed, .pressed 0⟩ ∧
      observed (step interval) (onPress effects) .idle (true :: press.closing) = [] := ⟨closes, quiet⟩
  have holding :
      run (step interval) ⟨closed, .pressed 0⟩ (true :: List.replicate press.held true) = ⟨true, .high⟩ ∧
        observed (step interval) (onPress effects) ⟨closed, .pressed 0⟩ (true :: List.replicate press.held true) =
          effects := by
    obtain ⟨same, nothing⟩ := run_steady interval press.held ⟨true, .high⟩ true rfl rfl
    exact ⟨same, (congrArg (effects ++ ·) nothing).trans (List.append_nil _)⟩
  have opening : run (step interval) ⟨true, .high⟩ (false :: press.opening) = ⟨opened, .released 0⟩ ∧
      observed (step interval) (onPress effects) ⟨true, .high⟩ (false :: press.opening) = [] := ⟨opens, silent⟩
  have resting :
      run (step interval) ⟨opened, .released 0⟩ (false :: List.replicate press.rest false) = .idle ∧
        observed (step interval) (onPress effects) ⟨opened, .released 0⟩ (false :: List.replicate press.rest false) =
          [] :=
    run_steady interval press.rest .idle false rfl rfl
  unfold Press.signal
  simp only [run_append, observed_append, closing, holding, opening, resting, List.nil_append,
    List.append_nil, and_self]

/-- One press after the other. -/
theorem run_presses (presses : List (Press interval)) :
    run (step interval) .idle (presses.flatMap Press.signal) = .idle ∧
      observed (step interval) (onPress effects) .idle (presses.flatMap Press.signal) =
        presses.flatMap fun _ => effects := by
  induction presses with
  | nil => exact ⟨rfl, rfl⟩
  | cons press rest ih =>
    obtain ⟨idle, reported⟩ := run_press press
    rw [List.flatMap_cons, run_append, observed_append, idle, reported, List.flatMap_cons]
    exact ⟨ih.1, congrArg (effects ++ ·) ih.2⟩

/-! ## Any levels -/

/-- The presses that a tick reports. -/
def pressed (button : Button) (low : Bool) : ℕ :=
  match button.monitor with
  | .pressed 0 => if low then 1 else 0
  | _ => 0

theorem pressed_of_effect {button : Button} {low : Bool} (does : onPress effects button low ≠ []) :
    pressed button low = 1 := by
  unfold onPress at does
  split at does
  · next ends =>
    cases low with
    | true => simp [pressed, ends]
    | false => simp at does
  · exact absurd rfl does

/-- How far the monitor is on its way to the next report; behind a report it owes
what is left of the two intervals. -/
def progress (interval : ℕ) : Monitor → Int
  | .fallingEdge => 0
  | .pressed left => (interval + 1 - left : ℕ)
  | .high => -(interval + 2)
  | .released left => -(min left interval + 1)

/-- A tick brings the next report no more than one tick nearer. -/
theorem step_progress (interval : ℕ) (button : Button) (low : Bool) :
    (2 * interval + 4) * pressed button low + progress interval (step interval button low).monitor ≤
      progress interval button.monitor + 1 := by
  obtain ⟨before, monitor⟩ := button
  cases monitor with
  | fallingEdge =>
    simp only [pressed, step]
    split <;> simp only [progress] <;> omega
  | pressed left =>
    cases left with
    | zero =>
      cases low with
      | true =>
        simp only [pressed, step, progress, if_true]
        omega
      | false =>
        simp only [pressed, step, progress, Bool.false_eq_true, if_false]
        omega
    | succ left =>
      simp only [pressed, step, progress]
      omega
  | high =>
    simp only [pressed, step]
    split <;> simp only [progress] <;> omega
  | released left =>
    cases left with
    | zero =>
      simp only [pressed, step, progress]
      omega
    | succ left =>
      simp only [pressed, step, progress]
      omega

theorem progress_bounds (interval : ℕ) (monitor : Monitor) :
    -(interval + 2 : Int) ≤ progress interval monitor ∧ progress interval monitor ≤ interval + 1 := by
  cases monitor with
  | fallingEdge =>
    simp only [progress]
    omega
  | pressed left =>
    simp only [progress]
    omega
  | high =>
    simp only [progress]
    omega
  | released left =>
    simp only [progress]
    omega

theorem run_progress (interval : ℕ) (button : Button) (levels : List Bool) :
    (2 * interval + 4) * tally (step interval) pressed button levels +
        progress interval (run (step interval) button levels).monitor ≤
      progress interval button.monitor + levels.length := by
  induction levels generalizing button with
  | nil => simp
  | cons low rest ih =>
    have here := step_progress interval button low
    have later := ih (step interval button low)
    rw [tally, run_cons, List.length_cons]
    push_cast
    rw [Int.mul_add]
    omega

/-- A stretch from one report to another. -/
theorem reports_apart {button : Button} {first last : Bool} {between : List Bool}
    (one : onPress effects button first ≠ [])
    (two : onPress effects (run (step interval) button (first :: between)) last ≠ []) :
    2 * interval + 4 ≤ between.length + 1 := by
  have ends : tally (step interval) pressed button (first :: between ++ [last]) =
      1 + tally (step interval) pressed (step interval button first) between + 1 := by
    rw [tally_concat, pressed_of_effect two, tally, pressed_of_effect one]
  have bound := run_progress interval button (first :: between ++ [last])
  have start := progress_bounds interval button.monitor
  have stop := progress_bounds interval (run (step interval) button (first :: between ++ [last])).monitor
  have both : (2 * interval + 4 : Int) * 2 ≤
      (2 * interval + 4) * tally (step interval) pressed button (first :: between ++ [last]) :=
    Int.mul_le_mul_of_nonneg_left (by omega) (by omega)
  rw [List.length_append, List.length_cons, List.length_singleton] at bound
  push_cast at bound
  omega

/-- **Debounced.** Presses that bounce for no longer than the interval, closing and
opening, are reported once each, however long they last, and each press of KEY
queues one toggle. And in whatever state a monitor is and whatever levels its pin
has, from one report to the next it is at least two intervals. -/
theorem presses_reported_once (interval : ℕ) (name : List Char) :
    (∀ presses : List (Press interval),
      observed (step interval) (monitor name) .idle (presses.flatMap Press.signal) =
          presses.flatMap (fun _ => [.logged name]) ∧
        observed (step interval) monitorKey .idle (presses.flatMap Press.signal) =
          presses.flatMap fun _ => [.logged "KEY".toList, .toggleQueued]) ∧
    ∀ watches ∈ [monitor name, monitorKey], ∀ button first between last, watches button first ≠ [] →
      watches (run (step interval) button (first :: between)) last ≠ [] →
        2 * interval + 4 ≤ between.length + 1 := by
  refine ⟨fun presses => ⟨(run_presses presses).2, (run_presses presses).2⟩, ?_⟩
  intro watches member button first between last one two
  simp only [List.mem_cons, List.not_mem_nil, or_false] at member
  rcases member with rfl | rfl
  · exact reports_apart one two
  · exact reports_apart one two

end EnergyDisplay.Buttons

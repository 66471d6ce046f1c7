import Mathlib.Data.List.Induction
import Mathlib.Order.Basic

/-! Runs of a total step function, and the two rules the development uses:
an inductive invariant holds along a run, and a condition on single steps is
exactly what a run needs to keep a property in every state it reaches. -/
namespace EnergyDisplay.Runs

variable {σ ε : Type*} (step : σ → ε → σ)

/-- The state a list of events leads to. -/
def run (state : σ) (events : List ε) : σ := events.foldl step state

/-- Every state visited, the first one included. -/
def visited (state : σ) : List ε → List σ
  | [] => [state]
  | event :: rest => state :: visited (step state event) rest

/-- Each event satisfies the condition in the state it is applied to. -/
def StepsMeet (condition : σ → ε → Prop) (state : σ) : List ε → Prop
  | [] => True
  | event :: rest => condition state event ∧ StepsMeet condition (step state event) rest

instance decidableStepsMeet (condition : σ → ε → Prop) [∀ state event, Decidable (condition state event)] :
    ∀ state events, Decidable (StepsMeet step condition state events)
  | _, [] => .isTrue trivial
  | state, event :: rest =>
    have := decidableStepsMeet condition (step state event) rest
    inferInstanceAs (Decidable (condition state event ∧ StepsMeet step condition (step state event) rest))

variable {step} {state : σ} {events : List ε}

@[simp] theorem run_nil : run step state [] = state := rfl

@[simp] theorem run_cons (event : ε) :
    run step state (event :: events) = run step (step state event) events := rfl

theorem run_append (first second : List ε) :
    run step state (first ++ second) = run step (run step state first) second := List.foldl_append

theorem first_visited : state ∈ visited step state events := by
  cases events <;> simp [visited]

theorem last_visited : run step state events ∈ visited step state events := by
  induction events generalizing state with
  | nil => simp [visited]
  | cons event rest ih => exact List.mem_cons_of_mem _ ih

/-- The induction rule: an invariant each admitted event preserves holds at
the end of every run of admitted events. -/
theorem run_invariant {admitted : ε → Prop} {invariant : σ → Prop}
    (preserved : ∀ state event, invariant state → admitted event → invariant (step state event))
    (initially : invariant state) (all : ∀ event ∈ events, admitted event) :
    invariant (run step state events) := by
  induction events generalizing state with
  | nil => exact initially
  | cons event rest ih =>
    exact ih (preserved state event initially (all event (by simp)))
      (fun later member => all later (List.mem_cons_of_mem _ member))

/-- Two conditions on steps that agree under an invariant which either keeps
are met by the same runs. -/
theorem stepsMeet_congr {condition property : σ → ε → Prop} (invariant : σ → Prop)
    (exact : ∀ state event, invariant state → (property state event ↔ condition state event))
    (kept : ∀ state event, invariant state → condition state event → invariant (step state event))
    (initially : invariant state) :
    StepsMeet step property state events ↔ StepsMeet step condition state events := by
  induction events generalizing state with
  | nil => rfl
  | cons event rest ih =>
    simp only [StepsMeet]
    rw [exact state event initially]
    exact and_congr_right fun met => ih (kept state event initially met)

/-- When the condition preserves the invariant and breaking it breaks the
property at once, it is the exact condition: the property holds in every state
visited if and only if every step meets it. -/
theorem visited_iff_steps_meet {condition : σ → ε → Prop} {property : σ → Prop}
    (admitted : ε → Prop) (invariant : σ → Prop) (implies : ∀ state, invariant state → property state)
    (preserved : ∀ state event, invariant state → admitted event → condition state event →
      invariant (step state event))
    (broken : ∀ state event, invariant state → admitted event → ¬ condition state event →
      ¬ property (step state event))
    (initially : invariant state) (all : ∀ event ∈ events, admitted event) :
    (∀ target ∈ visited step state events, property target) ↔
      StepsMeet step condition state events := by
  induction events generalizing state with
  | nil => simpa [visited, StepsMeet] using implies state initially
  | cons event rest ih =>
    have here := all event (by simp)
    have later : ∀ other ∈ rest, admitted other := fun other member => all other (by simp [member])
    simp only [visited, List.forall_mem_cons, StepsMeet]
    by_cases met : condition state event
    · rw [ih (preserved state event initially here met) later]
      exact ⟨fun both => ⟨met, both.2⟩, fun both => ⟨implies state initially, both.2⟩⟩
    · refine ⟨fun both => ?_, fun both => absurd both.1 met⟩
      exact absurd (both.2 _ first_visited) (broken state event initially here met)

/-- What an invariant demands of admitted events, every run of them meets. -/
theorem stepsMeet_of_invariant {admitted : ε → Prop} {condition : σ → ε → Prop} (invariant : σ → Prop)
    (meets : ∀ state event, invariant state → admitted event → condition state event)
    (kept : ∀ state event, invariant state → admitted event → invariant (step state event))
    (initially : invariant state) (all : ∀ event ∈ events, admitted event) :
    StepsMeet step condition state events := by
  induction events generalizing state with
  | nil => trivial
  | cons event rest ih =>
    obtain ⟨here, later⟩ := List.forall_mem_cons.mp all
    exact ⟨meets state event initially here, ih (kept state event initially here) later⟩

/-- An invariant that the steps meeting a condition keep. -/
theorem StepsMeet.invariant {condition : σ → ε → Prop} (meets : StepsMeet step condition state events)
    (invariant : σ → Prop) (kept : ∀ state event, invariant state → condition state event →
      invariant (step state event)) (initially : invariant state) : invariant (run step state events) := by
  induction events generalizing state with
  | nil => exact initially
  | cons event rest ih => exact ih meets.2 (kept state event initially meets.1)

/-- Such an invariant holds in every state visited. -/
theorem StepsMeet.visited {condition : σ → ε → Prop} (meets : StepsMeet step condition state events)
    (invariant : σ → Prop) (kept : ∀ state event, invariant state → condition state event →
      invariant (step state event)) (initially : invariant state) :
    ∀ target ∈ Runs.visited step state events, invariant target := by
  induction events generalizing state with
  | nil => simpa [Runs.visited] using initially
  | cons event rest ih =>
    rw [Runs.visited, List.forall_mem_cons]
    exact ⟨initially, ih meets.2 (kept state event initially meets.1)⟩

/-- What it demands of the steps that meet the condition, their runs meet. -/
theorem StepsMeet.strengthen {condition property : σ → ε → Prop} (meets : StepsMeet step condition state events)
    (invariant : σ → Prop)
    (implies : ∀ state event, invariant state → condition state event → property state event)
    (kept : ∀ state event, invariant state → condition state event → invariant (step state event))
    (initially : invariant state) : StepsMeet step property state events := by
  induction events generalizing state with
  | nil => trivial
  | cons event rest ih =>
    exact ⟨implies state event initially meets.1, ih meets.2 (kept state event initially meets.1)⟩

/-- A condition that matters in some runs only. -/
theorem stepsMeet_imp {condition : σ → ε → Prop} {matters : Prop} :
    StepsMeet step (fun state event => matters → condition state event) state events ↔
      (matters → StepsMeet step condition state events) := by
  induction events generalizing state with
  | nil => simp [StepsMeet]
  | cons event rest ih => rw [StepsMeet, StepsMeet, ih, ← imp_and]

/-- Two machines stay related, if each admitted event and its translation keep them
so whenever the second machine meets the condition. -/
theorem StepsMeet.simulates {τ ε' : Type*} {translate : ε → ε'} {second : τ → ε' → τ} {state' : τ}
    {condition : τ → ε' → Prop} (meets : StepsMeet second condition state' (events.map translate))
    {admitted : ε → Prop} (related : σ → τ → Prop)
    (kept : ∀ one two event, related one two → admitted event → condition two (translate event) →
      related (step one event) (second two (translate event)))
    (initially : related state state') (all : ∀ event ∈ events, admitted event) :
    related (run step state events) (run second state' (events.map translate)) := by
  induction events generalizing state state' with
  | nil => exact initially
  | cons event rest ih =>
    obtain ⟨here, later⟩ := List.forall_mem_cons.mp all
    exact ih meets.2 (kept state state' event initially here meets.1) later

/-! ## What runs let in and out -/

/-- What is observed along a run, step after step. -/
def observed {ω : Type*} (step : σ → ε → σ) (observe : σ → ε → List ω) (state : σ) : List ε → List ω
  | [] => []
  | event :: rest => observe state event ++ observed step observe (step state event) rest

section Observed

variable {ω : Type*} {observe : σ → ε → List ω}

@[simp] theorem observed_nil : observed step observe state [] = [] := rfl

@[simp] theorem observed_cons (event : ε) : observed step observe state (event :: events) =
    observe state event ++ observed step observe (step state event) events := rfl

theorem observed_append (first second : List ε) : observed step observe state (first ++ second) =
    observed step observe state first ++ observed step observe (run step state first) second := by
  induction first generalizing state with
  | nil => rfl
  | cons event rest ih =>
    rw [List.cons_append, observed_cons, observed_cons, ih, List.append_assoc]
    rfl

theorem observed_forall {property : ω → Prop}
    (each : ∀ state event, ∀ item ∈ observe state event, property item) :
    ∀ item ∈ observed step observe state events, property item := by
  induction events generalizing state with
  | nil => simp
  | cons event rest ih =>
    intro item member
    rcases List.mem_append.mp member with here | later
    · exact each state event item here
    · exact ih item later

/-- What is made of an observation item by item can be made of each step's. -/
theorem observed_form {κ : Type*} (form : List ω → List κ) (nothing : form [] = [])
    (append : ∀ first second, form (first ++ second) = form first ++ form second) :
    observed step (fun state event => form (observe state event)) state events =
      form (observed step observe state events) := by
  induction events generalizing state with
  | nil => exact nothing.symm
  | cons event rest ih => rw [observed_cons, observed_cons, append, ih]

/-- Two observations that agree in every state of an invariant agree along
runs. -/
theorem observed_congr {observe' : σ → ε → List ω} (invariant : σ → Prop)
    (same : ∀ state event, invariant state → observe state event = observe' state event)
    (kept : ∀ state event, invariant state → invariant (step state event)) (initially : invariant state) :
    observed step observe state events = observed step observe' state events := by
  induction events generalizing state with
  | nil => rfl
  | cons event rest ih =>
    rw [observed_cons, observed_cons, same state event initially, ih (kept state event initially)]

/-- The rule of conservation: if each admitted step takes in at the back what
it lets in and gives from the front what it lets out, then so does a run. -/
theorem run_conserves {admitted : ε → Prop} (invariant : σ → Prop) {content : σ → List ω}
    {entering leaving : σ → ε → List ω}
    (preserved : ∀ state event, invariant state → admitted event → invariant (step state event))
    (conserved : ∀ state event, invariant state → admitted event →
      content state ++ entering state event = leaving state event ++ content (step state event))
    (initially : invariant state) (all : ∀ event ∈ events, admitted event) :
    content state ++ observed step entering state events =
      observed step leaving state events ++ content (run step state events) := by
  induction events generalizing state with
  | nil => simp
  | cons event rest ih =>
    have here := all event List.mem_cons_self
    have later : ∀ other ∈ rest, admitted other := fun other member =>
      all other (List.mem_cons_of_mem _ member)
    rw [observed_cons, observed_cons, run_cons, ← List.append_assoc, conserved state event initially here,
      List.append_assoc, ih (preserved state event initially here) later, List.append_assoc]

end Observed

/-! ## Counting along runs -/

/-- What the steps of a run count up to. -/
def tally (step : σ → ε → σ) (count : σ → ε → ℕ) (state : σ) : List ε → ℕ
  | [] => 0
  | event :: rest => count state event + tally step count (step state event) rest

@[simp] theorem tally_nil (count : σ → ε → ℕ) : tally step count state [] = 0 := rfl

theorem tally_concat (count : σ → ε → ℕ) (event : ε) : tally step count state (events ++ [event]) =
    tally step count state events + count (run step state events) event := by
  induction events generalizing state with
  | nil => simp [tally]
  | cons first rest ih => rw [List.cons_append, tally, tally, ih, run_cons, Nat.add_assoc]

theorem tally_add (first second : σ → ε → ℕ) :
    tally step (fun state event => first state event + second state event) state events =
      tally step first state events + tally step second state events := by
  induction events generalizing state with
  | nil => rfl
  | cons event rest ih =>
    rw [tally, tally, tally, ih]
    omega

/-- The rule of balance: what each step takes in it keeps or gives away, and so
does a run. -/
theorem run_balances {content : σ → ℕ} {entering leaving : σ → ε → ℕ}
    (balanced : ∀ state event, content state + entering state event =
      leaving state event + content (step state event)) :
    content state + tally step entering state events =
      tally step leaving state events + content (run step state events) := by
  induction events generalizing state with
  | nil => simp
  | cons event rest ih =>
    have here := balanced state event
    have later : content (step state event) + tally step entering (step state event) rest =
        tally step leaving (step state event) rest + content (run step (step state event) rest) := ih
    rw [tally, tally, run_cons]
    omega

/-- The rule of pace: if what is counted is due no earlier than an interval after
the last, and comes no earlier than due, then a run of some length counts no more
than fits. -/
theorem run_paced {count : σ → ε → ℕ} (due time : σ → ℕ) (interval : ℕ)
    (advances : ∀ state event, count state event * interval + due state ≤ due (step state event))
    (awaited : ∀ state event, count state event = 0 ∨ count state event = 1 ∧ due state ≤ time state)
    (passes : ∀ state event, time state ≤ time (step state event)) (initially : time state ≤ due state) :
    tally step count state events * interval + time state ≤ time (run step state events) + interval := by
  have later : ∀ events, tally step count state events * interval + due state ≤
      due (run step state events) := by
    intro events
    induction events using List.reverseRecOn with
    | nil => simp
    | append_singleton events event ih =>
      have here := advances (run step state events) event
      rw [tally_concat, run_append, run_cons, run_nil, Nat.add_mul]
      omega
  induction events using List.reverseRecOn with
  | nil => simp
  | append_singleton events event ih =>
    have passed := passes (run step state events) event
    rw [tally_concat, run_append, run_cons, run_nil]
    obtain nothing | ⟨once, ready⟩ := awaited (run step state events) event
    · rw [nothing, Nat.add_zero]
      omega
    · have before : tally step count state events * interval + due state ≤ due (run step state events) :=
        later events
      rw [once, Nat.add_mul]
      omega

end EnergyDisplay.Runs

import EnergyDisplay.Lib.Runs

/-! A client with room for one unacknowledged publication. A publication is
tracked from its call to its acknowledgement; while one is tracked, a call may
only send that one again. -/
namespace EnergyDisplay.Slot

open Runs

variable {α σ ε : Type*}

inductive Operation (α : Type*) where
  | publish (item : α)
  | republish (item : α)
  | acknowledged
  deriving DecidableEq

/-- What is tracked after an operation; a publication that finds the slot
taken is refused. -/
def track (slot : Option α) : Operation α → Option α
  | .publish item => slot.or (some item)
  | .republish _ => slot
  | .acknowledged => none

/-- An operation the client is ready for. -/
def Fits (slot : Option α) : Operation α → Prop
  | .publish _ => slot = none
  | .republish item => slot = some item
  | .acknowledged => True

/-- Operations that the client is ready for, one after the other. -/
def Consistent (slot : Option α) : List (Operation α) → Prop
  | [] => True
  | operation :: rest => Fits slot operation ∧ Consistent (track slot operation) rest

instance [DecidableEq α] (slot : Option α) : DecidablePred (Fits slot)
  | .publish _ => inferInstanceAs (Decidable (slot = none))
  | .republish item => inferInstanceAs (Decidable (slot = some item))
  | .acknowledged => inferInstanceAs (Decidable True)

instance decidableConsistent [DecidableEq α] :
    ∀ (slot : Option α) (operations : List (Operation α)), Decidable (Consistent slot operations)
  | _, [] => inferInstanceAs (Decidable True)
  | slot, operation :: rest =>
    have := decidableConsistent (track slot operation) rest
    inferInstanceAs (Decidable (Fits slot operation ∧ Consistent (track slot operation) rest))

variable {slot : Option α} {operations more : List (Operation α)}

theorem consistent_append : Consistent slot (operations ++ more) ↔
    Consistent slot operations ∧ Consistent (operations.foldl track slot) more := by
  induction operations generalizing slot with
  | nil => simp [Consistent]
  | cons operation rest ih => simp only [List.cons_append, Consistent, ih, List.foldl_cons, and_assoc]

/-- The operations along a run. -/
def operationsOf (step : σ → ε → σ) (operations : σ → ε → List (Operation α)) (state : σ) :
    List ε → List (Operation α)
  | [] => []
  | event :: rest => operations state event ++ operationsOf step operations (step state event) rest

/-- A machine that keeps the client's slot as part of its state uses it
consistently along a run exactly if each of its steps does. -/
theorem consistent_run_iff {step : σ → ε → σ} {operations : σ → ε → List (Operation α)}
    (slotOf : σ → Option α)
    (tracked : ∀ state event, slotOf (step state event) =
      (operations state event).foldl track (slotOf state)) {state : σ} {events : List ε} :
    Consistent (slotOf state) (operationsOf step operations state events) ↔
      StepsMeet step (fun state event => Consistent (slotOf state) (operations state event)) state
        events := by
  induction events generalizing state with
  | nil => simp [operationsOf, Consistent, StepsMeet]
  | cons event rest ih => rw [operationsOf, consistent_append, ← tracked, ih, StepsMeet]

end EnergyDisplay.Slot

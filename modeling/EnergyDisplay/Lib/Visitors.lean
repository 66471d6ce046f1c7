import EnergyDisplay.Lib.Fallible
import Mathlib.Data.List.Basic

/-! Programs that do nothing themselves but call a visitor. Whatever the visitor
is and whatever state it works on, such a program either makes the same calls or
stops before its end, so two passes of it see the same calls. -/
namespace EnergyDisplay.Fallible

variable {σ χ κ α β : Type}

/-- A program over any state, given a visitor. -/
abbrev Visitation (χ κ : Type) := ∀ σ : Type, (κ → Fallible σ χ Unit) → Fallible σ χ Unit

/-- The program makes these calls. -/
def Makes (program : Visitation χ κ) (calls : List κ) : Prop :=
  ∀ (σ : Type) (visitor : κ → Fallible σ χ Unit), program σ visitor = calls.forM visitor

/-- The program does not come to its end. -/
def Breaks (program : Visitation χ κ) : Prop :=
  ∀ (σ : Type) (visitor : κ → Fallible σ χ Unit) (state : σ), ∃ stop, (program σ visitor state).1 = .error stop

/-- The calls of a program, all of them allowed, do not depend on the visitor. -/
def Scripted (allowed : κ → Prop) (program : Visitation χ κ) : Prop :=
  (∃ calls, (∀ call ∈ calls, allowed call) ∧ Makes program calls) ∨ Breaks program

/-- A program over any state that neither reads nor changes it. -/
def Constant (program : ∀ σ : Type, Fallible σ χ α) : Prop :=
  (∃ value, ∀ σ, program σ = pure value) ∨ ∃ stop, ∀ σ, program σ = throw stop

theorem constant_pure (value : α) : Constant (fun _ => pure value : ∀ σ : Type, Fallible σ χ α) :=
  Or.inl ⟨value, fun _ => rfl⟩

theorem constant_throw (stop : χ) : Constant (fun _ => throw stop : ∀ σ : Type, Fallible σ χ α) :=
  Or.inr ⟨stop, fun _ => rfl⟩

theorem constant_ite {condition : Prop} [Decidable condition] {one other : ∀ σ : Type, Fallible σ χ α}
    (constant : Constant one) (constant' : Constant other) :
    Constant fun σ => if condition then one σ else other σ := by
  by_cases holds : condition
  · simpa only [holds, if_true] using constant
  · simpa only [holds, if_false] using constant'

theorem Constant.bind {one : ∀ σ : Type, Fallible σ χ α} {rest : α → ∀ σ : Type, Fallible σ χ β}
    (constant : Constant one) (others : ∀ value, Constant (rest value)) :
    Constant fun σ => one σ >>= fun value => rest value σ := by
  rcases constant with ⟨value, same⟩ | ⟨stop, same⟩
  · simp only [same, pure_bind]
    exact others value
  · simp only [same, throw_bind]
    exact constant_throw stop

variable {allowed : κ → Prop} {first second : Visitation χ κ}

theorem Breaks.ends {program : Visitation χ κ} (breaks : Breaks program) (visitor : κ → Fallible σ χ Unit)
    (state : σ) (post : Unit → σ → Prop) : Ends (program σ visitor) state post fun _ _ => True := by
  obtain ⟨stop, stopped⟩ := breaks σ visitor state
  rw [Ends]
  split
  case h_1 outcome =>
    rw [outcome] at stopped
    cases stopped
  case h_2 => trivial

theorem scripted_pure : Scripted allowed (fun _ _ => pure () : Visitation χ κ) :=
  Or.inl ⟨[], by simp, fun _ _ => rfl⟩

theorem scripted_throw (stop : χ) : Scripted allowed (fun _ _ => throw stop : Visitation χ κ) :=
  Or.inr fun _ _ _ => ⟨stop, rfl⟩

theorem scripted_call {call : κ} (fine : allowed call) :
    Scripted allowed (fun _ visitor => visitor call : Visitation χ κ) :=
  Or.inl ⟨[call], by simpa using fine, fun _ visitor => by simp [List.forM]⟩

theorem Scripted.bind (one : Scripted allowed first) (two : Scripted allowed second) :
    Scripted allowed fun σ visitor => first σ visitor >>= fun _ => second σ visitor := by
  rcases one with ⟨calls, fine, makes⟩ | breaks
  · rcases two with ⟨others, fine', makes'⟩ | breaks
    · refine Or.inl ⟨calls ++ others, List.forall_mem_append.mpr ⟨fine, fine'⟩, fun σ visitor => ?_⟩
      simp only [makes σ visitor, makes' σ visitor, List.forM_eq_forM, List.forM_append]
    · refine Or.inr fun σ visitor state => ?_
      simp only [Bind.bind]
      rcases first σ visitor state with ⟨outcome, after⟩
      cases outcome with
      | ok => exact breaks σ visitor after
      | error stop => exact ⟨stop, rfl⟩
  · refine Or.inr fun σ visitor state => ?_
    obtain ⟨stop, stopped⟩ := breaks σ visitor state
    refine ⟨stop, ?_⟩
    simp only [Bind.bind]
    rcases outcome : first σ visitor state with ⟨_, after⟩
    rw [outcome] at stopped
    cases stopped
    rfl

/-- What does not look at the state may decide what is called. -/
theorem Constant.scripted {one : ∀ σ : Type, Fallible σ χ α} {rest : α → Visitation χ κ}
    (constant : Constant one) (others : ∀ value, Scripted allowed (rest value)) :
    Scripted allowed fun σ visitor => one σ >>= fun value => rest value σ visitor := by
  rcases constant with ⟨value, same⟩ | ⟨stop, same⟩
  · simp only [same, pure_bind]
    exact others value
  · simp only [same, throw_bind]
    exact scripted_throw stop

theorem scripted_forM {items : List α} {body : α → Visitation χ κ}
    (each : ∀ item ∈ items, Scripted allowed (body item)) :
    Scripted allowed fun σ visitor => items.forM fun item => body item σ visitor := by
  induction items with
  | nil => exact scripted_pure
  | cons item rest ih =>
    obtain ⟨here, others⟩ := List.forall_mem_cons.mp each
    exact here.bind (ih others)

end EnergyDisplay.Fallible

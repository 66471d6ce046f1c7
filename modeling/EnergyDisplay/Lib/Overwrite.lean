import Mathlib.Data.List.Basic

/-! Writes of several kinds, where a write replaces the last one of its kind
and does not disturb the others. -/
namespace EnergyDisplay

variable {σ α κ : Type*}

/-- Writes of different kinds commute, and a later write of the same kind hides
an earlier one. -/
structure Overwrites (write : σ → α → σ) (kind : α → κ) : Prop where
  commute : ∀ state first second, kind first ≠ kind second →
    write (write state first) second = write (write state second) first
  absorb : ∀ state first second, kind first = kind second →
    write (write state first) second = write state second

/-- A write that is overwritten later might as well not have happened. -/
theorem Overwrites.drop_superseded {write : σ → α → σ} {kind : α → κ}
    (overwrites : Overwrites write kind) {old : α} {rest : List α}
    (superseded : ∃ later ∈ rest, kind later = kind old) (state : σ) :
    rest.foldl write (write state old) = rest.foldl write state := by
  induction rest generalizing state with
  | nil => simp at superseded
  | cons next rest ih =>
    rw [List.foldl_cons, List.foldl_cons]
    by_cases same : kind old = kind next
    · rw [overwrites.absorb state old next same]
    · obtain ⟨later, member, kinds⟩ := superseded
      have inside : later ∈ rest := by
        rcases List.mem_cons.mp member with rfl | inside
        · exact absurd kinds.symm same
        · exact inside
      rw [overwrites.commute state old next same]
      exact ih ⟨later, inside, kinds⟩ (write state next)

end EnergyDisplay

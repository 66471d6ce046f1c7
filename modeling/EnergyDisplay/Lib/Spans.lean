import Mathlib.Data.List.Induction
import Mathlib.Order.Nat

/-! Index ranges handed out one after the other: each begins where the last one
ended or later, and nothing marked falls in a gap. -/
namespace EnergyDisplay.Spans

/-- A half-open range of indices. -/
structure Span where
  start : ℕ
  stop : ℕ
  deriving DecidableEq

def Span.Contains (span : Span) (index : ℕ) : Prop := span.start ≤ index ∧ index < span.stop

variable {α : Type*}

/-- Items with non-empty ranges in increasing order up to `bound`, which leave
out nothing marked. -/
structure Covers (range : α → Span) (marked : ℕ → Prop) (items : List α) (bound : ℕ) : Prop where
  nonempty : ∀ item ∈ items, (range item).start < (range item).stop
  ordered : items.Pairwise fun first second => (range first).stop ≤ (range second).start
  bounded : ∀ item ∈ items, (range item).stop ≤ bound
  covered : ∀ index < bound, marked index → ∃ item ∈ items, (range item).Contains index

variable {range : α → Span} {marked : ℕ → Prop} {items : List α} {bound next index : ℕ} {item : α}

theorem covers_nil : Covers range marked [] 0 := ⟨by simp, by simp, by simp, by simp⟩

/-- A gap without marks may be skipped. -/
theorem Covers.skip (covers : Covers range marked items bound) (forward : bound ≤ next)
    (gap : ∀ index, bound ≤ index → index < next → ¬ marked index) :
    Covers range marked items next where
  nonempty := covers.nonempty
  ordered := covers.ordered
  bounded := fun item member => (covers.bounded item member).trans forward
  covered := by
    intro index inside mark
    by_cases before : index < bound
    · exact covers.covered index before mark
    · exact absurd mark (gap index (Nat.le_of_not_lt before) inside)

/-- One more range, and a gap without marks behind it. -/
theorem Covers.push (covers : Covers range marked items bound) (start : (range item).start = bound)
    (filled : (range item).start < (range item).stop) (forward : (range item).stop ≤ next)
    (gap : ∀ index, (range item).stop ≤ index → index < next → ¬ marked index) :
    Covers range marked (items ++ [item]) next where
  nonempty := List.forall_mem_append.mpr ⟨covers.nonempty, by simpa using filled⟩
  ordered := by
    refine List.pairwise_append.mpr ⟨covers.ordered, List.pairwise_singleton _ _, ?_⟩
    rintro first member second last
    obtain rfl := List.mem_singleton.mp last
    rw [start]
    exact covers.bounded first member
  bounded := by
    refine List.forall_mem_append.mpr ⟨fun first member => ?_, by simpa using forward⟩
    have := covers.bounded first member
    omega
  covered := by
    intro index inside mark
    by_cases before : index < bound
    · obtain ⟨first, member, contains⟩ := covers.covered index before mark
      exact ⟨first, List.mem_append_left _ member, contains⟩
    · by_cases here : index < (range item).stop
      · exact ⟨item, by simp, by omega, here⟩
      · exact absurd mark (gap index (Nat.le_of_not_lt here) inside)

/-- Each range takes an index of its own. -/
theorem length_le_of_ordered (nonempty : ∀ item ∈ items, (range item).start < (range item).stop)
    (ordered : items.Pairwise fun first second => (range first).stop ≤ (range second).start)
    (bounded : ∀ item ∈ items, (range item).stop ≤ bound) : items.length ≤ bound := by
  induction items using List.reverseRecOn generalizing bound with
  | nil => exact Nat.zero_le _
  | append_singleton items item ih =>
    obtain ⟨before, _, apart⟩ := List.pairwise_append.mp ordered
    have filled := nonempty item (by simp)
    have ends := bounded item (by simp)
    have fewer : items.length ≤ (range item).start :=
      ih (fun first member => nonempty first (by simp [member])) before
        (fun first member => apart first member item (by simp))
    rw [List.length_append, List.length_singleton]
    omega

theorem Covers.length_le (covers : Covers range marked items bound) : items.length ≤ bound :=
  length_le_of_ordered covers.nonempty covers.ordered covers.bounded

/-- Ranges in order contain an index once at most. -/
theorem Covers.unique (covers : Covers range marked items bound) {first second : α}
    (firstIn : first ∈ items) (secondIn : second ∈ items) (firstHas : (range first).Contains index)
    (secondHas : (range second).Contains index) : first = second := by
  obtain ⟨before, after, split⟩ := List.append_of_mem firstIn
  have ordered := covers.ordered
  rw [split, List.pairwise_append, List.pairwise_cons] at ordered
  obtain ⟨_, ⟨toAfter, _⟩, fromBefore⟩ := ordered
  obtain ⟨firstBegins, firstEnds⟩ := firstHas
  obtain ⟨secondBegins, secondEnds⟩ := secondHas
  rw [split, List.mem_append, List.mem_cons] at secondIn
  rcases secondIn with earlier | rfl | later
  · have := fromBefore second earlier first List.mem_cons_self
    omega
  · rfl
  · have := toAfter second later
    omega

end EnergyDisplay.Spans

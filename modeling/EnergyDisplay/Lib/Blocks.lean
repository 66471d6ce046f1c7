import Mathlib.Data.List.SplitBy

/-! Maximal blocks of consecutive related items, as `List.splitBy` finds them,
when items come in at the end: an item either opens a block of its own or
extends the last one. -/
namespace EnergyDisplay.Blocks

variable {α : Type*} {related : α → α → Bool} {list : List α} {last item : α}

/-- An item that is not related to the one before it opens a block. -/
theorem splitBy_concat_opens (apart : ∀ last ∈ list.getLast?, related last item = false) :
    (list ++ [item]).splitBy related = list.splitBy related ++ [[item]] := by
  rw [List.splitBy_append_cons [] apart]
  rfl

/-- The last block ends with the last item. -/
theorem splitBy_last (related : α → α → Bool) (ends : list.getLast? = some last) :
    ∃ blocks block, list.splitBy related = blocks ++ [block] ∧ block.getLast? = some last := by
  have some_ : list ≠ [] := by
    rintro rfl
    cases ends
  obtain ⟨blocks, block, split⟩ :=
    (List.eq_nil_or_concat (list.splitBy related)).resolve_left (List.splitBy_ne_nil.mpr some_)
  rw [List.concat_eq_append] at split
  refine ⟨blocks, block, split, ?_⟩
  have filled : block ≠ [] :=
    List.ne_nil_of_mem_splitBy (show block ∈ list.splitBy related by simp [split])
  have joined := List.flatten_splitBy related list
  rw [split, List.flatten_append, List.flatten_singleton] at joined
  rw [← ends, ← joined, List.getLast?_append_of_ne_nil _ filled]

/-- An item that is related to the one before it extends the last block. -/
theorem splitBy_concat_extends (related : α → α → Bool) (item : α)
    (ends : list.getLast? = some last) (joins : related last item = true) :
    ∃ blocks block, list.splitBy related = blocks ++ [block] ∧ block.getLast? = some last ∧
      (list ++ [item]).splitBy related = blocks ++ [block ++ [item]] := by
  obtain ⟨blocks, block, split, blockEnds⟩ := splitBy_last related ends
  refine ⟨blocks, block, split, blockEnds, ?_⟩
  obtain ⟨joined, filled, chained, separated⟩ := List.splitBy_eq_iff.mp split
  rw [List.splitBy_eq_iff]
  refine ⟨by simp [joined], ?_, ?_, ?_⟩
  · simp only [List.mem_append, List.mem_singleton, not_or] at filled ⊢
    exact ⟨filled.1, by simp⟩
  · intro part member
    rcases List.mem_append.mp member with before | here
    · exact chained part (List.mem_append_left _ before)
    · obtain rfl := List.mem_singleton.mp here
      refine List.isChain_append.mpr ⟨chained block (by simp), List.isChain_singleton _, ?_⟩
      rintro first member second ⟨⟩
      rw [blockEnds] at member
      cases member
      exact joins
  · rw [List.isChain_append] at separated ⊢
    obtain ⟨before, _, between⟩ := separated
    refine ⟨before, List.isChain_singleton _, ?_⟩
    rintro previous member extended ⟨⟩
    obtain ⟨previousFilled, blockFilled, apart⟩ := between previous member block rfl
    exact ⟨previousFilled, by simp, by rwa [List.head_append_of_ne_nil blockFilled]⟩

end EnergyDisplay.Blocks

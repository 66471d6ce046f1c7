import Mathlib.Data.List.Nodup
import Mathlib.Order.Fin.Basic

/-! Binary search as the slices of `core` do it: the window is halved until one
entry is left, whatever is met on the way, and only that entry is compared for
equality. Over strictly increasing keys it finds what a search from the front
would find. -/
namespace EnergyDisplay.BinarySearch

variable {α κ : Type*} [LinearOrder κ]

/-- The loop, with `size` entries left from `base` on. -/
def narrow (items : List α) (key : α → κ) (wanted : κ) (base size : ℕ) (filled : 0 < size)
    (inside : base + size ≤ items.length) : Fin items.length :=
  if more : 1 < size then
    let mid : Fin items.length := ⟨base + size / 2, by omega⟩
    if wanted < key items[mid] then
      narrow items key wanted base (size - size / 2) (by omega) (by omega)
    else narrow items key wanted mid (size - size / 2) (by omega) (by simp only [mid]; omega)
  else ⟨base, by omega⟩
termination_by size

/-- `binary_search_by_key`, without the place where the key would belong. -/
def binarySearchByKey (items : List α) (key : α → κ) (wanted : κ) : Option (Fin items.length) :=
  if filled : 0 < items.length then
    let index := narrow items key wanted 0 items.length filled (Nat.zero_add _).le
    if key items[index] = wanted then some index else none
  else none

variable {items : List α} {key : α → κ} {wanted : κ}

/-- Strictly increasing keys are met in the order of their indices. -/
theorem key_lt_iff (sorted : (items.map key).Pairwise (· < ·)) (first second : Fin items.length) :
    key items[first] < key items[second] ↔ first < second := by
  have ordered : ∀ first second : Fin items.length, first < second →
      key items[first] < key items[second] := by
    intro first second less
    exact List.pairwise_iff_getElem.mp (List.pairwise_map.mp sorted) first second first.isLt second.isLt less
  refine ⟨fun less => ?_, ordered first second⟩
  by_contra other
  rcases lt_or_eq_of_le (not_lt.mp other) with greater | rfl
  · exact lt_asymm less (ordered second first greater)
  · exact lt_irrefl _ less

/-- The window never loses the entry that is wanted. -/
theorem narrow_eq (sorted : (items.map key).Pairwise (· < ·)) {target : Fin items.length}
    (found : key items[target] = wanted) {base size : ℕ} {filled : 0 < size}
    {inside : base + size ≤ items.length} (lower : base ≤ target) (upper : target < base + size) :
    narrow items key wanted base size filled inside = target := by
  fun_induction narrow items key wanted base size filled inside with
  | case1 base size filled inside more mid less ih =>
    rw [← found, key_lt_iff sorted] at less
    have before : (target : ℕ) < base + size / 2 := less
    exact ih lower (by omega)
  | case2 base size filled inside more mid reached ih =>
    rw [← found, key_lt_iff sorted, not_lt] at reached
    refine ih reached ?_
    simp only [mid]
    omega
  | case3 base size filled inside one =>
    apply Fin.ext
    simp only
    omega

theorem binarySearchByKey_eq_some (sorted : (items.map key).Pairwise (· < ·)) {index : Fin items.length} :
    binarySearchByKey items key wanted = some index ↔ key items[index] = wanted := by
  have filled : 0 < items.length := (Nat.zero_le _).trans_lt index.isLt
  rw [binarySearchByKey, dif_pos filled]
  constructor
  · intro found
    simp only [Option.ite_none_right_eq_some, Option.some.injEq] at found
    obtain ⟨same, rfl⟩ := found
    exact same
  · intro found
    have reached : narrow items key wanted 0 items.length filled (Nat.zero_add _).le = index :=
      narrow_eq sorted found (Nat.zero_le _) (by rw [Nat.zero_add]; exact index.isLt)
    simp only [reached, found, if_true]

/-- A search from the front meets an entry under its key. -/
theorem find_of_mem (sorted : (items.map key).Pairwise (· < ·)) {item : α} (member : item ∈ items)
    (same : key item = wanted) : (items.find? fun item => key item == wanted) = some item := by
  have exists_ : (items.find? fun item => key item == wanted).isSome = true :=
    List.find?_isSome.mpr ⟨item, member, beq_iff_eq.mpr same⟩
  obtain ⟨first, found⟩ := Option.isSome_iff_exists.mp exists_
  have distinct : (items.map key).Nodup := sorted.imp fun less => less.ne
  have keys : key first = key item := Eq.trans (by simpa using List.find?_some found) same.symm
  rw [found, List.inj_on_of_nodup_map distinct (List.mem_of_find?_eq_some found) member keys]

/-- Binary search and a search from the front agree. -/
theorem binarySearchByKey_eq_find (sorted : (items.map key).Pairwise (· < ·)) (wanted : κ) :
    (binarySearchByKey items key wanted).map (fun index => items[index]) =
      items.find? fun item => key item == wanted := by
  cases searched : binarySearchByKey items key wanted with
  | none =>
    refine (List.find?_eq_none.mpr fun item member same => ?_).symm
    obtain ⟨index, inside, rfl⟩ := List.getElem_of_mem member
    let at_ : Fin items.length := ⟨index, inside⟩
    have here : key items[at_] = wanted := beq_iff_eq.mp same
    have found := (binarySearchByKey_eq_some sorted).mpr here
    rw [searched] at found
    cases found
  | some index =>
    have same := (binarySearchByKey_eq_some sorted).mp searched
    exact (find_of_mem sorted (List.getElem_mem index.isLt) same).symm

end EnergyDisplay.BinarySearch

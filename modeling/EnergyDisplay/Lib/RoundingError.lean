import EnergyDisplay.Lib.Float
import Mathlib.Tactic.FieldSimp
import Mathlib.Tactic.Ring

/-! How far floating-point arithmetic is off: half a unit in the last place for
every rounding, which is a bound for numbers up to a power of two and a part of
each number that has all its digits. A share is a quotient and a product, rounded
twice. -/
namespace EnergyDisplay

theorem halfEven_error (value : ℚ) : |(halfEven value : ℚ) - value| ≤ 1 / 2 := by
  have lower := Int.floor_le value
  have upper := Int.lt_floor_add_one value
  unfold halfEven
  split_ifs <;> push_cast <;> exact abs_le.mpr ⟨by linarith, by linarith⟩

namespace FloatFormat

variable {format : FloatFormat} {value : ℚ} {power : ℤ}

theorem round_error (format : FloatFormat) (value : ℚ) : |format.round value - value| ≤ format.unit value / 2 := by
  have positive := unit_pos format value
  have scaled : format.round value - value =
      (halfEven (value / format.unit value) - value / format.unit value) * format.unit value := by
    rw [round, sub_mul, div_mul_cancel₀ _ positive.ne']
  have half := mul_le_mul_of_nonneg_right (halfEven_error (value / format.unit value)) positive.le
  rw [scaled, abs_mul, abs_of_pos positive]
  linarith

theorem log_le_of_small (some_ : value ≠ 0) (small : |value| ≤ 2 ^ power) : Int.log 2 |value| ≤ power := by
  have reached : Int.log 2 |value| ≤ Int.log 2 (((2 : ℕ) : ℚ) ^ power) :=
    Int.log_mono_right (abs_pos.mpr some_) (by exact_mod_cast small)
  rwa [Int.log_zpow (by norm_num)] at reached

/-- Up to a power of two. -/
theorem round_error_le (inside : format.leastExponent + format.precision ≤ power) (small : |value| ≤ 2 ^ power) :
    |format.round value - value| ≤ 2 ^ (power - format.precision) := by
  have two : (2 : ℚ) ≠ 0 := by norm_num
  rcases eq_or_ne value 0 with rfl | some_
  · rw [round_zero, sub_zero, abs_zero]
    exact zpow_nonneg (by norm_num) _
  have digits := log_le_of_small some_ small
  have unit : format.unit value ≤ 2 ^ (power - format.precision + 1) :=
    zpow_le_zpow_right₀ (by norm_num) (max_le (by omega) (by omega))
  rw [zpow_add₀ two, zpow_one] at unit
  linarith [round_error format value]

/-- Of a number with all its digits. -/
theorem round_error_relative (normal : 2 ^ (format.leastExponent + (format.precision - 1)) ≤ |value|) :
    |format.round value - value| ≤ |value| * 2 ^ (-(format.precision : ℤ)) := by
  have two : (2 : ℚ) ≠ 0 := by norm_num
  have positive : 0 < |value| := lt_of_lt_of_le (zpow_pos (by norm_num) _) normal
  have digits : format.leastExponent + (format.precision - 1) ≤ Int.log 2 |value| := by
    rw [← Int.zpow_le_iff_le_log (by norm_num) positive]
    exact_mod_cast normal
  have unit : format.unit value = 2 ^ Int.log 2 |value| * (2 ^ (-(format.precision : ℤ)) * 2) := by
    rw [FloatFormat.unit, exponent, max_eq_right (by omega), sub_sub_eq_add_sub, add_sub_assoc, zpow_add₀ two,
      sub_eq_neg_add, zpow_add₀ two, zpow_one]
  have below : (2 : ℚ) ^ Int.log 2 |value| ≤ |value| := by
    exact_mod_cast Int.zpow_log_le_self (by norm_num) positive
  have bound := round_error format value
  rw [unit] at bound
  have scale : (0 : ℚ) < 2 ^ (-(format.precision : ℤ)) := zpow_pos (by norm_num) _
  calc |format.round value - value|
      ≤ 2 ^ Int.log 2 |value| * 2 ^ (-(format.precision : ℤ)) := by linarith
    _ ≤ |value| * 2 ^ (-(format.precision : ℤ)) := mul_le_mul_of_nonneg_right below scale.le

theorem round_error_of_one_le (format : FloatFormat) (inside : format.leastExponent + format.precision ≤ 1)
    (large : 1 ≤ value) : |format.round value - value| ≤ value / 2 ^ format.precision := by
  have absolute : |value| = value := abs_of_pos (by linarith)
  have normal : (2 : ℚ) ^ (format.leastExponent + (format.precision - 1)) ≤ |value| := by
    rw [absolute]
    exact (zpow_le_one_of_nonpos₀ (by norm_num) (by omega)).trans large
  have close := round_error_relative normal
  rwa [absolute, zpow_neg, zpow_natCast, ← div_eq_mul_inv] at close

/-- A power of two is not rounded beyond. -/
theorem abs_round_le (inside : format.leastExponent ≤ power) (small : |value| ≤ 2 ^ power) :
    |format.round value| ≤ 2 ^ power := by
  have two : (2 : ℚ) ≠ 0 := by norm_num
  rcases eq_or_ne value 0 with rfl | some_
  · rw [round_zero, abs_zero]
    exact zpow_nonneg (by norm_num) _
  have positive := unit_pos format value
  have digits := log_le_of_small some_ small
  have some_digits := format.some_digits
  have coarse : format.exponent value ≤ power := max_le inside (by omega)
  obtain ⟨gap, difference⟩ := Int.eq_ofNat_of_zero_le (sub_nonneg.mpr coarse)
  have units : (2 : ℚ) ^ power = ((2 ^ gap : ℤ) : ℚ) * format.unit value := by
    rw [FloatFormat.unit, Int.cast_pow, Int.cast_ofNat, ← zpow_natCast, ← zpow_add₀ two]
    congr 1
    omega
  have quotient : |value / format.unit value| ≤ ((2 ^ gap : ℤ) : ℚ) := by
    rw [abs_div, abs_of_pos positive, div_le_iff₀ positive, ← units]
    exact small
  rw [round, abs_mul, abs_of_pos positive, units]
  refine mul_le_mul_of_nonneg_right ?_ positive.le
  exact_mod_cast halfEven_abs_le quotient

/-! ## Shares -/

/-- The share of `value` in `most` of so many rows, as a format has it. -/
def share (format : FloatFormat) (value most rows : ℚ) : ℚ := format.round (format.round (value / most) * rows)

variable {most rows : ℚ}

theorem quotient_bounds (format : FloatFormat) (nonneg : 0 ≤ value) (le : value ≤ most) (positive : 0 < most) :
    0 ≤ format.round (value / most) ∧ format.round (value / most) ≤ 1 := by
  have quotient := div_nonneg nonneg positive.le
  have fraction := round_mono format quotient ((div_le_one positive).mpr le)
  rw [format.has_one.1] at fraction
  exact ⟨round_nonneg format quotient, fraction⟩

theorem share_bounds (nonneg : 0 ≤ value) (le : value ≤ most) (positive : 0 < most) (some_ : 0 ≤ rows)
    (held : format.Has rows) : 0 ≤ format.share value most rows ∧ format.share value most rows ≤ rows := by
  obtain ⟨lower, upper⟩ := quotient_bounds format nonneg le positive
  have product := round_mono format (mul_nonneg lower some_) (mul_le_of_le_one_left some_ upper)
  rw [held.1] at product
  exact ⟨round_nonneg format (mul_nonneg lower some_), product⟩

/-- Both roundings together. -/
theorem share_le (inside : format.leastExponent + format.precision ≤ 0) (nonneg : 0 ≤ value) (le : value ≤ most)
    (positive : 0 < most) (some_ : 0 ≤ rows) (small : rows ≤ 2 ^ power) (above : 0 ≤ power) :
    format.share value most rows ≤ value / most * rows + 2 ^ (power + 1 - format.precision) := by
  have two : (2 : ℚ) ≠ 0 := by norm_num
  have quotient := div_nonneg nonneg positive.le
  have fraction := (div_le_one positive).mpr le
  obtain ⟨lower, upper⟩ := quotient_bounds format nonneg le positive
  have first : |format.round (value / most) - value / most| ≤ 2 ^ (0 - (format.precision : ℤ)) :=
    round_error_le inside (by rwa [zpow_zero, abs_of_nonneg quotient])
  have second : |format.share value most rows - format.round (value / most) * rows| ≤
      2 ^ (power - format.precision) := by
    refine round_error_le (by omega) ?_
    rw [abs_of_nonneg (mul_nonneg lower some_)]
    exact (mul_le_of_le_one_left some_ upper).trans small
  have product : format.round (value / most) * rows ≤ value / most * rows + 2 ^ (power - format.precision) := by
    have scaled : (2 : ℚ) ^ (0 - (format.precision : ℤ)) * rows ≤ 2 ^ (power - format.precision) := by
      rw [zero_sub, sub_eq_neg_add, zpow_add₀ two]
      exact mul_le_mul_of_nonneg_left small (zpow_nonneg (by norm_num) _)
    have grown := mul_le_mul_of_nonneg_right (abs_le.mp first).2 some_
    linarith
  have double : (2 : ℚ) ^ (power + 1 - format.precision) =
      2 ^ (power - format.precision) + 2 ^ (power - format.precision) := by
    rw [add_sub_right_comm, zpow_add₀ two, zpow_one, mul_two]
  rw [double]
  linarith [(abs_le.mp second).2]

namespace Value

/-- What is up to a power of two that the format has stays finite. -/
theorem rounded_finite {number : ℚ} (inside : format.leastExponent ≤ power)
    (kept : (2 : ℚ) ^ power ≤ format.largest) (small : |number| ≤ 2 ^ power) :
    ∃ held, (rounded number : format.Value) = finite (format.round number) held := by
  have below := (abs_round_le inside small).trans kept
  exact ⟨_, dif_pos below⟩

/-- A number, and so far from another at most. -/
def Close (error : ℚ) (value : format.Value) (number : ℚ) : Prop :=
  ∃ (kept : ℚ) (held : format.Has kept), value = finite kept held ∧ |kept - number| ≤ error

section Close

variable {number other error otherError : ℚ} {first second : format.Value}

theorem Close.mono (close : Close error first number) (le : error ≤ otherError) :
    Close otherError first number := by
  obtain ⟨kept, held, same, near⟩ := close
  exact ⟨kept, held, same, near.trans le⟩

theorem close_finite (held : format.Has number) : Close 0 (finite number held) number :=
  ⟨number, held, rfl, by simp⟩

variable (inside : format.leastExponent + format.precision ≤ power) (kept : (2 : ℚ) ^ power ≤ format.largest)

include inside kept

/-- What is close to a number is rounded to what is close to it. -/
theorem close_rounded (near : |other - number| ≤ error) (small : |other| ≤ 2 ^ power) :
    Close (error + 2 ^ (power - format.precision)) (rounded other : format.Value) number := by
  obtain ⟨held, same⟩ := rounded_finite (show format.leastExponent ≤ power by omega) kept small
  refine ⟨_, held, same, ?_⟩
  have rounding := abs_sub_le (format.round other) other number
  linarith [round_error_le inside small]

/-- The errors of a difference add up. -/
theorem Close.sub (one : Close error first number) (two : Close otherError second other)
    (small : |number - other| + (error + otherError) ≤ 2 ^ power) :
    Close (error + otherError + 2 ^ (power - format.precision)) (first - second) (number - other) := by
  obtain ⟨a, aHeld, rfl, aNear⟩ := one
  obtain ⟨b, bHeld, rfl, bNear⟩ := two
  have near : |a - b - (number - other)| ≤ error + otherError := by
    rw [sub_sub_sub_comm]
    exact (abs_sub _ _).trans (add_le_add aNear bNear)
  refine close_rounded inside kept near ?_
  have apart := abs_sub_abs_le_abs_sub (a - b) (number - other)
  linarith

/-- A factor enlarges the error. -/
theorem Close.mul (one : Close error first number) {factor : ℚ} (held : format.Has factor) (nonneg : 0 ≤ factor)
    (small : (|number| + error) * factor ≤ 2 ^ power) :
    Close (error * factor + 2 ^ (power - format.precision)) (first * finite factor held) (number * factor) := by
  obtain ⟨a, aHeld, rfl, near⟩ := one
  have scaled : |a * factor - number * factor| ≤ error * factor := by
    rw [← sub_mul, abs_mul, abs_of_nonneg nonneg]
    exact mul_le_mul_of_nonneg_right near nonneg
  refine close_rounded inside kept scaled ?_
  have apart := abs_sub_abs_le_abs_sub a number
  rw [abs_mul, abs_of_nonneg nonneg]
  refine (mul_le_mul_of_nonneg_right ?_ nonneg).trans small
  linarith

end Close

/-- Nothing is lost up to a number of the format. -/
theorem rounded_below {number bound : ℚ} (held : format.Has bound) (nonneg : 0 ≤ number) (le : number ≤ bound) :
    ∃ kept, (rounded number : format.Value) = finite (format.round number) kept := by
  have upper := round_mono format nonneg le
  rw [held.1] at upper
  have inside : |format.round number| ≤ format.largest := by
    rw [abs_of_nonneg (round_nonneg format nonneg)]
    exact upper.trans ((le_abs_self bound).trans held.2)
  exact ⟨_, dif_pos inside⟩

section Shares

variable {first second rows : ℚ} (firstHeld : format.Has first) (secondHeld : format.Has second)
  (nonneg : 0 ≤ first) (le : first ≤ second) (positive : 0 < second)

include nonneg le positive

theorem finite_div : ∃ held, finite first firstHeld / finite second secondHeld =
    finite (format.round (first / second)) held := by
  obtain ⟨held, quotient⟩ :=
    rounded_below format.has_one (div_nonneg nonneg positive.le) ((div_le_one positive).mpr le)
  refine ⟨held, ?_⟩
  show (if second = 0 then _ else rounded (first / second) : format.Value) = _
  rw [if_neg positive.ne', quotient]

/-- The quotient before the rows, or after them. -/
theorem finite_share (some_ : 0 ≤ rows) (rowsHeld : format.Has rows) :
    ∃ held, finite first firstHeld / finite second secondHeld * finite rows rowsHeld =
        finite (format.share first second rows) held ∧
      finite rows rowsHeld * (finite first firstHeld / finite second secondHeld) =
        finite (format.share first second rows) held := by
  obtain ⟨quotientHeld, quotient⟩ := finite_div firstHeld secondHeld nonneg le positive
  obtain ⟨lower, upper⟩ := quotient_bounds format nonneg le positive
  obtain ⟨held, product⟩ := rounded_below rowsHeld (mul_nonneg lower some_) (mul_le_of_le_one_left some_ upper)
  refine ⟨held, ?_, ?_⟩
  · rw [quotient]
    exact product
  · rw [quotient]
    show rounded (rows * format.round (first / second)) = _
    rw [mul_comm, product]
    rfl

end Shares

/-! ## Values that are not negative -/

section NonNegative

variable {first second value : format.Value}

theorem nonneg_cases (nonneg : 0 ≤ value) : value = .infinite false ∨
    ∃ (number : ℚ) (held : format.Has number), value = .finite number held ∧ 0 ≤ number := by
  cases value with
  | nan => exact absurd rfl nonneg.2.1
  | infinite negative =>
    cases negative with
    | true => exact absurd nonneg.2.2 (by simp [order])
    | false => exact Or.inl rfl
  | finite number held => exact Or.inr ⟨number, held, rfl, finite_le_finite.mp nonneg⟩

theorem eq_zero (nonneg : 0 ≤ value) (none_ : ¬ 0 < value) : value = 0 := by
  rcases nonneg_cases nonneg with rfl | ⟨number, held, rfl, some_⟩
  · exact absurd ⟨nonneg.1, nonneg.2.1, WithBot.coe_lt_coe.mpr (WithTop.coe_lt_top 0)⟩ none_
  · have zero : number = 0 := le_antisymm (not_lt.mp fun positive => none_ (finite_lt_finite.mpr positive)) some_
    subst zero
    rfl

variable {most : ℚ} {mostHeld : format.Has most}

theorem not_infinite_le : ¬ (infinite false : format.Value) ≤ finite most mostHeld := fun below =>
  absurd below.2.2 (by simp [order])

/-- What is not negative and at most a number is a number. -/
theorem finite_of_le (nonneg : 0 ≤ value) (le : value ≤ finite most mostHeld) :
    ∃ (number : ℚ) (held : format.Has number), value = finite number held ∧ 0 ≤ number ∧ number ≤ most := by
  rcases nonneg_cases nonneg with rfl | ⟨number, held, rfl, some_⟩
  · exact absurd le not_infinite_le
  · exact ⟨number, held, rfl, some_, finite_le_finite.mp le⟩

/-- Of a sum that is at most a number both parts are numbers. -/
theorem finite_of_add_le (one : 0 ≤ first) (two : 0 ≤ second)
    (le : first + second ≠ .nan → first + second ≤ finite most mostHeld) :
    ∃ (a b : ℚ) (aHeld : format.Has a) (bHeld : format.Has b), first = finite a aHeld ∧
      second = finite b bHeld ∧ 0 ≤ a ∧ 0 ≤ b ∧ format.round (a + b) ≤ most := by
  rcases nonneg_cases one with rfl | ⟨a, aHeld, rfl, aNonneg⟩ <;>
    rcases nonneg_cases two with rfl | ⟨b, bHeld, rfl, bNonneg⟩
  · exact absurd (le nofun) not_infinite_le
  · exact absurd (le nofun) not_infinite_le
  · exact absurd (le nofun) not_infinite_le
  · refine ⟨a, b, aHeld, bHeld, rfl, rfl, aNonneg, bNonneg, ?_⟩
    replace le : (rounded (a + b) : format.Value) ≠ .nan → rounded (a + b) ≤ finite most mostHeld := le
    by_cases inside : |format.round (a + b)| ≤ format.largest
    · rw [rounded, dif_pos inside] at le
      exact finite_le_finite.mp (le (by simp))
    · rw [rounded, dif_neg inside, decide_eq_false (add_nonneg aNonneg bNonneg).not_gt] at le
      exact absurd (le (by simp)) not_infinite_le

end NonNegative

/-- A small number is cut off. -/
theorem asInt_finite {type : IntType} {number : ℚ} {held : format.Has number} (nonneg : 0 ≤ number)
    (small : number ≤ 10 ^ 9) : asInt type (finite number held) = ⌊number⌋ := by
  have upper : ⌊number⌋ ≤ 10 ^ 9 := by exact_mod_cast (Int.floor_le number).trans small
  have lower : 0 ≤ ⌊number⌋ := Int.floor_nonneg.mpr nonneg
  have holds : type.Holds ⌊number⌋ := by
    cases type <;> simp only [IntType.Holds, IntType.least, IntType.greatest] <;> omega
  rw [asInt, truncate_of_nonneg nonneg, IntType.saturate_of_holds holds]

end Value

end FloatFormat

end EnergyDisplay

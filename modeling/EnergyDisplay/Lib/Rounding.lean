import Mathlib.Algebra.Order.Round
import Mathlib.Data.Int.Log
import Mathlib.Data.Rat.Floor
import Mathlib.Tactic.Linarith
import Mathlib.Tactic.NormNum

/-! Rounding of rationals: towards zero, to the nearest integer with ties to the
even one, and to the nearest number of a binary floating-point format. A format
is a precision and a range of exponents; rounding is to a multiple of the unit
in the last place, which grows with the number, so that the proofs compare
numbers of one unit by their integer quotients and numbers of different units
by the power of two between them. -/
namespace EnergyDisplay

/-- Towards zero. -/
def truncate (value : ℚ) : ℤ := if 0 ≤ value then ⌊value⌋ else ⌈value⌉

theorem truncate_of_nonneg {value : ℚ} (nonneg : 0 ≤ value) : truncate value = ⌊value⌋ := if_pos nonneg

theorem truncate_nonneg {value : ℚ} (nonneg : 0 ≤ value) : 0 ≤ truncate value := by
  rw [truncate_of_nonneg nonneg]
  exact Int.floor_nonneg.mpr nonneg

theorem truncate_le {value : ℚ} {bound : ℤ} (nonneg : 0 ≤ value) (le : value ≤ bound) : truncate value ≤ bound := by
  rw [truncate_of_nonneg nonneg]
  exact_mod_cast (Int.floor_le value).trans le

theorem truncate_mono {first second : ℚ} (le : first ≤ second) : truncate first ≤ truncate second := by
  unfold truncate
  split
  case isTrue nonneg =>
    rw [if_pos (nonneg.trans le)]
    exact Int.floor_mono le
  case isFalse negative =>
    have below : ⌈first⌉ ≤ 0 := Int.ceil_le.mpr (by simpa using (not_le.mp negative).le)
    split
    case isTrue nonneg => exact below.trans (Int.floor_nonneg.mpr nonneg)
    case isFalse => exact Int.ceil_mono le

/-- The nearest integer, and the even one of two. -/
def halfEven (value : ℚ) : ℤ :=
  if value - ⌊value⌋ < 1 / 2 then ⌊value⌋
  else if 1 / 2 < value - ⌊value⌋ then ⌊value⌋ + 1
  else if ⌊value⌋ % 2 = 0 then ⌊value⌋
  else ⌊value⌋ + 1

theorem halfEven_bounds (value : ℚ) : ⌊value⌋ ≤ halfEven value ∧ halfEven value ≤ ⌊value⌋ + 1 := by
  unfold halfEven
  split_ifs <;> omega

@[simp] theorem halfEven_intCast (value : ℤ) : halfEven (value : ℚ) = value := by
  simp [halfEven]

theorem halfEven_mono {first second : ℚ} (le : first ≤ second) : halfEven first ≤ halfEven second := by
  rcases (Int.floor_mono le).lt_or_eq with less | same
  · have upper := (halfEven_bounds first).2
    have lower := (halfEven_bounds second).1
    omega
  · unfold halfEven
    rw [same]
    split_ifs <;> first | omega | linarith

theorem halfEven_abs_le {value : ℚ} {bound : ℤ} (le : |value| ≤ bound) : |halfEven value| ≤ bound := by
  obtain ⟨lower, upper⟩ := abs_le.mp le
  have low : halfEven ((-bound : ℤ) : ℚ) ≤ halfEven value := halfEven_mono (by simpa using lower)
  have high : halfEven value ≤ halfEven (bound : ℚ) := halfEven_mono upper
  rw [halfEven_intCast] at low high
  exact abs_le.mpr ⟨low, high⟩

/-- A binary floating-point format: the digits of a number, and the range of
the power of two that the last of them stands for. -/
structure FloatFormat where
  precision : ℕ
  leastExponent : ℤ
  greatestExponent : ℤ
  some_digits : 0 < precision
  least_nonpos : leastExponent ≤ 0
  greatest_nonneg : 0 ≤ greatestExponent

namespace FloatFormat

variable (format : FloatFormat)

/-- The exponent of the last digit of a number. -/
def exponent (value : ℚ) : ℤ := max format.leastExponent (Int.log 2 |value| - (format.precision - 1))

/-- The unit in the last place. -/
def unit (value : ℚ) : ℚ := 2 ^ format.exponent value

/-- The nearest number with the digits of the format, of any size. -/
def round (value : ℚ) : ℚ := halfEven (value / format.unit value) * format.unit value

def largest : ℚ := (2 ^ format.precision - 1) * 2 ^ format.greatestExponent

/-- The format has this number. -/
def Has (value : ℚ) : Prop := format.round value = value ∧ |value| ≤ format.largest

instance (value : ℚ) : Decidable (format.Has value) := inferInstanceAs (Decidable (_ ∧ _))

variable {format} {value first second : ℚ}

theorem unit_pos (format : FloatFormat) (value : ℚ) : 0 < format.unit value := zpow_pos (by norm_num) _

theorem round_of_quotient {quotient : ℤ} (whole : value / format.unit value = quotient) :
    format.round value = value := by
  rw [round, whole, halfEven_intCast, ← whole, div_mul_cancel₀ _ (unit_pos format value).ne']

/-- A number is at most `precision` digits of its unit. -/
theorem quotient_le (format : FloatFormat) (value : ℚ) :
    |value / format.unit value| ≤ ((2 ^ format.precision : ℤ) : ℚ) := by
  have below : |value| < 2 ^ (Int.log 2 |value| + 1) := Int.lt_zpow_succ_log_self (by norm_num) |value|
  have exponents : Int.log 2 |value| + 1 ≤ format.precision + format.exponent value := by
    have := le_max_right format.leastExponent (Int.log 2 |value| - (format.precision - 1))
    rw [← exponent] at this
    omega
  have raised : (2 : ℚ) ^ (Int.log 2 |value| + 1) ≤ 2 ^ ((format.precision : ℤ) + format.exponent value) :=
    zpow_le_zpow_right₀ (by norm_num) exponents
  rw [zpow_add₀ (by norm_num) (format.precision : ℤ), zpow_natCast] at raised
  rw [abs_div, abs_of_pos (unit_pos format value), div_le_iff₀ (unit_pos format value)]
  push_cast
  exact below.le.trans raised

@[simp] theorem round_zero : format.round 0 = 0 := by
  have zero : (0 : ℚ) / format.unit 0 = ((0 : ℤ) : ℚ) := by simp
  exact round_of_quotient zero

/-- A number of some unit that is no smaller than its own is not rounded. -/
theorem round_of_exponent_le {digits power : ℤ} (coarse : format.exponent (digits * 2 ^ power) ≤ power) :
    format.round (digits * 2 ^ power) = digits * 2 ^ power := by
  obtain ⟨gap, difference⟩ := Int.eq_ofNat_of_zero_le (sub_nonneg.mpr coarse)
  have quotient : (digits * 2 ^ power : ℚ) / format.unit (digits * 2 ^ power) = ((digits * 2 ^ gap : ℤ) : ℚ) := by
    rw [unit, mul_div_assoc, ← zpow_sub₀ (by norm_num), difference]
    push_cast
    rfl
  exact round_of_quotient quotient

/-- The own unit of a number of few digits is no larger than theirs. -/
theorem exponent_le_of_digits {digits power : ℤ} (some_ : digits ≠ 0) (few : |digits| < 2 ^ format.precision)
    (inside : format.leastExponent ≤ power) : format.exponent (digits * 2 ^ power) ≤ power := by
  have scale : (0 : ℚ) < 2 ^ power := zpow_pos (by norm_num) power
  have positive : (0 : ℚ) < |(digits : ℚ)| := abs_pos.mpr (by exact_mod_cast some_)
  have less : |(digits : ℚ)| < 2 ^ format.precision := by exact_mod_cast few
  have small : Int.log 2 |(digits * 2 ^ power : ℚ)| < format.precision + power := by
    rw [abs_mul, abs_of_pos scale, ← Int.lt_zpow_iff_log_lt (by norm_num) (mul_pos positive scale), Nat.cast_ofNat,
      zpow_add₀ (by norm_num), zpow_natCast]
    exact mul_lt_mul_of_pos_right less scale
  exact max_le inside (by omega)

/-- One digit more is a zero, carried into the next power of two. -/
theorem exists_fewer_digits {digits : ℤ} (power : ℤ) (most : |digits| = 2 ^ format.precision) :
    ∃ fewer : ℤ, (digits * 2 ^ power : ℚ) = fewer * 2 ^ (power + 1) ∧ |fewer| < 2 ^ format.precision := by
  obtain ⟨others, precision⟩ : ∃ others, format.precision = others + 1 :=
    Nat.exists_eq_succ_of_ne_zero format.some_digits.ne'
  have half : |(2 : ℤ) ^ others| < 2 ^ format.precision := by
    rw [abs_of_pos (by positivity), precision]
    exact pow_lt_pow_right₀ (by norm_num) (Nat.lt_succ_self others)
  have carried {sign : ℤ} (signed : digits = sign * 2 ^ format.precision) :
      (digits * 2 ^ power : ℚ) = ((sign * 2 ^ others : ℤ) : ℚ) * 2 ^ (power + 1) := by
    rw [signed, precision, zpow_add₀ (by norm_num)]
    push_cast
    ring
  rcases abs_choice digits with positive | negative
  · exact ⟨_, carried (by rw [← most, positive, one_mul]), by simpa using half⟩
  · refine ⟨_, carried (by rw [← most, negative, neg_one_mul, neg_neg]), ?_⟩
    rwa [abs_mul, abs_neg, abs_one, one_mul]

/-- What is a whole number of units of some exponent is not rounded. -/
theorem round_multiple (format : FloatFormat) {digits power : ℤ} (few : |digits| ≤ 2 ^ format.precision)
    (inside : format.leastExponent ≤ power) : format.round (digits * 2 ^ power) = digits * 2 ^ power := by
  have fewer {digits power : ℤ} (few : |digits| < 2 ^ format.precision) (inside : format.leastExponent ≤ power) :
      format.round (digits * 2 ^ power) = digits * 2 ^ power := by
    by_cases zero : digits = 0
    · simp [zero]
    · exact round_of_exponent_le (exponent_le_of_digits zero few inside)
  rcases few.lt_or_eq with few | most
  · exact fewer few inside
  · obtain ⟨others, same, few⟩ := exists_fewer_digits power most
    rw [same]
    exact fewer few (by omega)

theorem round_round (format : FloatFormat) (value : ℚ) : format.round (format.round value) = format.round value :=
  format.round_multiple (by exact_mod_cast halfEven_abs_le (quotient_le format value)) (le_max_left _ _)

theorem round_nonneg (format : FloatFormat) (nonneg : 0 ≤ value) : 0 ≤ format.round value := by
  have quotient : halfEven ((0 : ℤ) : ℚ) ≤ halfEven (value / format.unit value) :=
    halfEven_mono (by simpa using div_nonneg nonneg (unit_pos format value).le)
  rw [halfEven_intCast] at quotient
  exact mul_nonneg (by exact_mod_cast quotient) (unit_pos format value).le

theorem exponent_mono (format : FloatFormat) (positive : 0 < first) (le : first ≤ second) :
    format.exponent first ≤ format.exponent second := by
  have logs : Int.log 2 |first| ≤ Int.log 2 |second| := by
    rw [abs_of_pos positive, abs_of_pos (positive.trans_le le)]
    exact Int.log_mono_right positive le
  exact max_le_max_left _ (by omega)

/-- A number above the least unit has all digits. -/
theorem exponent_of_large {others : ℕ} (precision : format.precision = others + 1)
    (large : format.leastExponent < format.exponent value) :
    format.exponent value = Int.log 2 |value| - others := by
  unfold exponent at large ⊢
  omega

/-- What a rounded number is at most, and one with all digits at least. -/
theorem round_le (format : FloatFormat) (value : ℚ) :
    format.round value ≤ 2 ^ format.precision * format.unit value := by
  refine mul_le_mul_of_nonneg_right ?_ (unit_pos format value).le
  exact_mod_cast (abs_le.mp (halfEven_abs_le (quotient_le format value))).2

theorem le_round {others : ℕ} (positive : 0 < value) (all : format.exponent value = Int.log 2 value - others) :
    2 ^ others * format.unit value ≤ format.round value := by
  have two : (2 : ℚ) ≠ 0 := by norm_num
  refine mul_le_mul_of_nonneg_right ?_ (unit_pos format value).le
  have quotient : ((2 ^ others : ℤ) : ℚ) ≤ value / format.unit value := by
    rw [le_div_iff₀ (unit_pos format value), unit, all]
    push_cast
    rw [← zpow_natCast, ← zpow_add₀ two, add_sub_cancel]
    exact Int.zpow_log_le_self (by norm_num) positive
  have rounded := halfEven_mono quotient
  rw [halfEven_intCast] at rounded
  exact_mod_cast rounded

/-- Rounding keeps the order. -/
theorem round_mono (format : FloatFormat) (nonneg : 0 ≤ first) (le : first ≤ second) :
    format.round first ≤ format.round second := by
  rcases nonneg.eq_or_lt with rfl | positive
  · rw [round_zero]
    exact round_nonneg format le
  rcases (exponent_mono format positive le).lt_or_eq with less | same
  · -- The power of two at which the unit of the larger begins lies between them.
    obtain ⟨others, precision⟩ : ∃ others, format.precision = others + 1 :=
      Nat.exists_eq_succ_of_ne_zero format.some_digits.ne'
    have large := exponent_of_large precision ((le_max_left _ _).trans_lt less)
    rw [abs_of_pos (positive.trans_le le)] at large
    have between : 2 ^ format.precision * format.unit first ≤ 2 ^ others * format.unit second := by
      have two : (2 : ℚ) ≠ 0 := by norm_num
      rw [unit, unit, ← zpow_natCast, ← zpow_natCast, ← zpow_add₀ two, ← zpow_add₀ two, precision]
      refine zpow_le_zpow_right₀ (by norm_num) ?_
      push_cast
      omega
    exact (round_le format first).trans (between.trans (le_round (positive.trans_le le) large))
  · have units : format.unit first = format.unit second := by rw [unit, same, unit]
    rw [round, round, units]
    refine mul_le_mul_of_nonneg_right ?_ (unit_pos format second).le
    exact_mod_cast halfEven_mono (div_le_div_of_nonneg_right le (unit_pos format second).le)

/-- A format has the integers of its precision. -/
theorem has_intCast (format : FloatFormat) {digits : ℤ} (few : |digits| < 2 ^ format.precision) :
    format.Has digits := by
  constructor
  · simpa using format.round_multiple few.le format.least_nonpos
  · have digit : |(digits : ℚ)| ≤ 2 ^ format.precision - 1 := by
      have le : |digits| ≤ 2 ^ format.precision - 1 := by omega
      exact_mod_cast le
    have scaled : (1 : ℚ) ≤ 2 ^ format.greatestExponent := one_le_zpow₀ (by norm_num) format.greatest_nonneg
    have nonneg : (0 : ℚ) ≤ 2 ^ format.precision - 1 := (abs_nonneg _).trans digit
    exact digit.trans (le_mul_of_one_le_right nonneg scaled)

/-- A format has the powers of two up to its greatest exponent. -/
theorem has_two_pow (format : FloatFormat) {power : ℕ} (small : power ≤ format.greatestExponent) :
    format.Has (2 ^ power) := by
  constructor
  · have few : |(1 : ℤ)| ≤ 2 ^ format.precision := by simpa using one_le_pow₀ (by norm_num : (1 : ℤ) ≤ 2)
    simpa using format.round_multiple few (format.least_nonpos.trans (Int.natCast_nonneg power))
  · have raised : (2 : ℚ) ^ (power : ℤ) ≤ 2 ^ format.greatestExponent := zpow_le_zpow_right₀ (by norm_num) small
    have digits : (2 : ℚ) ≤ 2 ^ format.precision := le_self_pow₀ (by norm_num) format.some_digits.ne'
    rw [zpow_natCast] at raised
    rw [abs_of_pos (by positivity), largest]
    exact raised.trans (le_mul_of_one_le_left (zpow_nonneg (by norm_num) _) (by linarith))

theorem has_zero (format : FloatFormat) : format.Has 0 := by
  have few : |(0 : ℤ)| < 2 ^ format.precision := by simp
  simpa using format.has_intCast few

theorem has_one (format : FloatFormat) : format.Has 1 := by
  have few : |(1 : ℤ)| < 2 ^ format.precision := by
    simpa using one_lt_pow₀ (by norm_num : (1 : ℤ) < 2) format.some_digits.ne'
  simpa using format.has_intCast few

end FloatFormat

end EnergyDisplay

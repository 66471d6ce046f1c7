import Mathlib.Order.MinMax
import Mathlib.Data.Int.Order.Basic

/-! Machine integers as integers: the range of a type, and what checked
arithmetic and the conversions `as` and `try_from` make of a value outside of
it. -/
namespace EnergyDisplay

inductive IntType where
  | i32
  | i64
  | u32
  | u64
  deriving DecidableEq

namespace IntType

def least : IntType → Int
  | .i32 => -2147483648
  | .i64 => -9223372036854775808
  | .u32 | .u64 => 0

def greatest : IntType → Int
  | .i32 => 2147483647
  | .i64 => 9223372036854775807
  | .u32 => 4294967295
  | .u64 => 18446744073709551615

/-- The type has this value. -/
def Holds (type : IntType) (value : Int) : Prop := type.least ≤ value ∧ value ≤ type.greatest

instance (type : IntType) (value : Int) : Decidable (type.Holds value) := inferInstanceAs (Decidable (_ ∧ _))

/-- `checked_add` and its like, and `try_from`. -/
def checked (type : IntType) (value : Int) : Option Int := if type.Holds value then some value else none

/-- `as` between integers keeps the lowest bits. -/
def wrap (type : IntType) (value : Int) : Int :=
  type.least + (value - type.least) % (type.greatest - type.least + 1)

/-- `as` from a float goes to the nearest value there is. -/
def saturate (type : IntType) (value : Int) : Int := max type.least (min type.greatest value)

variable {type : IntType} {value : Int}

theorem checked_of_holds (holds : type.Holds value) : type.checked value = some value := if_pos holds

theorem checked_eq_none : type.checked value = none ↔ ¬ type.Holds value := by simp [checked]

theorem wrap_of_holds (holds : type.Holds value) : type.wrap value = value := by
  obtain ⟨lower, upper⟩ := holds
  rw [wrap, Int.emod_eq_of_lt (by omega) (by omega)]
  omega

theorem wrap_holds (type : IntType) (value : Int) : type.Holds (type.wrap value) := by
  have some_ : type.greatest - type.least + 1 ≠ 0 := by cases type <;> decide
  have positive : 0 < type.greatest - type.least + 1 := by cases type <;> decide
  have lower := Int.emod_nonneg (value - type.least) some_
  have upper := Int.emod_lt_of_pos (value - type.least) positive
  unfold Holds wrap
  omega

theorem least_le_greatest (type : IntType) : type.least ≤ type.greatest := by cases type <;> decide

theorem saturate_of_holds (holds : type.Holds value) : type.saturate value = value := by
  obtain ⟨lower, upper⟩ := holds
  rw [saturate, min_eq_right upper, max_eq_right lower]

theorem saturate_holds (type : IntType) (value : Int) : type.Holds (type.saturate value) := by
  have ordered := type.least_le_greatest
  unfold Holds saturate
  omega

theorem saturate_mono {first second : Int} (le : first ≤ second) : type.saturate first ≤ type.saturate second := by
  unfold saturate
  omega

end IntType

end EnergyDisplay

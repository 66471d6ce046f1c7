import EnergyDisplay.Lib.MachineInt
import EnergyDisplay.Lib.Rounding
import Mathlib.Order.WithBot

/-! The values of a binary floating-point format: the numbers it has, two
infinities and one that is not a number. Arithmetic is that of the rationals,
rounded to the nearest. A zero has no sign here. -/
namespace EnergyDisplay

namespace FloatFormat

inductive Value (format : FloatFormat) where
  | nan
  | infinite (negative : Bool)
  | finite (value : ℚ) (held : format.Has value)
  deriving DecidableEq

namespace Value

variable {format other : FloatFormat}

/-- The nearest value; what is too large for the format becomes infinite. -/
def rounded (value : ℚ) : format.Value :=
  if inside : |format.round value| ≤ format.largest then
    .finite (format.round value) ⟨format.round_round value, inside⟩
  else .infinite (value < 0)

instance : IntCast format.Value := ⟨fun value => rounded value⟩

instance : NatCast format.Value := ⟨fun value => rounded value⟩

instance : Zero format.Value := ⟨.finite 0 format.has_zero⟩

def add : format.Value → format.Value → format.Value
  | .finite first _, .finite second _ => rounded (first + second)
  | .infinite first, .infinite second => if first = second then .infinite first else .nan
  | .infinite negative, .finite _ _ => .infinite negative
  | .finite _ _, .infinite negative => .infinite negative
  | .nan, _ => .nan
  | _, .nan => .nan

def sub : format.Value → format.Value → format.Value
  | .finite first _, .finite second _ => rounded (first - second)
  | .infinite first, .infinite second => if first = second then .nan else .infinite first
  | .infinite negative, .finite _ _ => .infinite negative
  | .finite _ _, .infinite negative => .infinite !negative
  | .nan, _ => .nan
  | _, .nan => .nan

def mul : format.Value → format.Value → format.Value
  | .finite first _, .finite second _ => rounded (first * second)
  | .infinite first, .infinite second => .infinite (first != second)
  | .infinite negative, .finite value _ =>
    if value = 0 then .nan else .infinite (negative != decide (value < 0))
  | .finite value _, .infinite negative =>
    if value = 0 then .nan else .infinite (negative != decide (value < 0))
  | .nan, _ => .nan
  | _, .nan => .nan

def div : format.Value → format.Value → format.Value
  | .finite first _, .finite second _ =>
    if second = 0 then if first = 0 then .nan else .infinite (first < 0) else rounded (first / second)
  | .infinite _, .infinite _ => .nan
  | .infinite negative, .finite value _ => .infinite (negative != decide (value < 0))
  | .finite _ _, .infinite _ => 0
  | .nan, _ => .nan
  | _, .nan => .nan

instance : Add format.Value := ⟨add⟩

instance : Sub format.Value := ⟨sub⟩

instance : Mul format.Value := ⟨mul⟩

instance : Div format.Value := ⟨div⟩

/-- Where a number stands among the others. -/
def order : format.Value → WithBot (WithTop ℚ)
  | .nan => ⊥
  | .infinite true => ⊥
  | .infinite false => (⊤ : WithTop ℚ)
  | .finite value _ => (value : WithTop ℚ)

instance : LE format.Value := ⟨fun first second => first ≠ .nan ∧ second ≠ .nan ∧ first.order ≤ second.order⟩

instance : LT format.Value := ⟨fun first second => first ≠ .nan ∧ second ≠ .nan ∧ first.order < second.order⟩

instance : DecidableLT format.Value := fun _ _ => inferInstanceAs (Decidable (_ ∧ _ ∧ _))

instance : BEq format.Value := ⟨fun first second => first != .nan && decide (first = second)⟩

/-- A number wins against what is none. -/
def maximum (first second : format.Value) : format.Value :=
  if first = .nan then second else if second = .nan then first else if first < second then second else first

/-- The nearest integer, and of two the one further from zero. -/
def roundAway : format.Value → format.Value
  | .finite value _ => rounded (if 0 ≤ value then ⌊value + 1 / 2⌋ else ⌈value - 1 / 2⌉)
  | value => value

/-- The nearest value of another format. -/
def convert : format.Value → other.Value
  | .nan => .nan
  | .infinite negative => .infinite negative
  | .finite value _ => rounded value

/-- `as` to an integer type: towards zero, and not further than the type goes. -/
def asInt (type : IntType) : format.Value → Int
  | .nan => 0
  | .infinite true => type.least
  | .infinite false => type.greatest
  | .finite value _ => type.saturate (truncate value)

variable {first second value bound : format.Value}

theorem le_def : first ≤ second ↔ first ≠ .nan ∧ second ≠ .nan ∧ first.order ≤ second.order := Iff.rfl

theorem lt_def : first < second ↔ first ≠ .nan ∧ second ≠ .nan ∧ first.order < second.order := Iff.rfl

theorem le_of_lt (less : first < second) : first ≤ second := ⟨less.1, less.2.1, less.2.2.le⟩

theorem le_trans {third : format.Value} (left : first ≤ second) (right : second ≤ third) : first ≤ third :=
  ⟨left.1, right.2.1, left.2.2.trans right.2.2⟩

theorem lt_of_lt_of_le {third : format.Value} (left : first < second) (right : second ≤ third) : first < third :=
  ⟨left.1, right.2.1, left.2.2.trans_le right.2.2⟩

theorem finite_le_finite {low high : ℚ} {lowHeld : format.Has low} {highHeld : format.Has high} :
    finite low lowHeld ≤ finite high highHeld ↔ low ≤ high := by
  simp [le_def, order]

theorem finite_lt_finite {low high : ℚ} {lowHeld : format.Has low} {highHeld : format.Has high} :
    finite low lowHeld < finite high highHeld ↔ low < high := by
  simp [lt_def, order]

theorem le_infinite (number : value ≠ .nan) : value ≤ .infinite false := by
  refine ⟨number, by simp, ?_⟩
  cases value with
  | nan => simp [order]
  | infinite negative => cases negative <;> simp [order]
  | finite value held => simp [order]

/-- A positive value is a positive number, or infinite. -/
theorem pos_cases (positive : 0 < value) :
    value = .infinite false ∨
      ∃ (number : ℚ) (held : format.Has number), value = .finite number held ∧ 0 < number := by
  cases value with
  | nan => exact absurd rfl positive.2.1
  | infinite negative =>
    cases negative with
    | true => exact absurd positive.2.2 not_lt_bot
    | false => exact Or.inl rfl
  | finite number held => exact Or.inr ⟨number, held, rfl, finite_lt_finite.mp positive⟩

/-! ## Rounded values -/

theorem rounded_eq {number : ℚ} (held : format.Has number) : rounded number = finite number held := by
  simp [rounded, held.1, held.2]

theorem intCast_eq {digits : ℤ} (few : |digits| < 2 ^ format.precision) :
    ((digits : ℤ) : format.Value) = finite digits (format.has_intCast few) := rounded_eq _

theorem le_rounded {low : ℚ} {number : ℚ} (held : format.Has low) (nonneg : 0 ≤ low) (le : low ≤ number) :
    finite low held ≤ rounded number := by
  unfold rounded
  split
  case isTrue =>
    refine finite_le_finite.mpr ?_
    have ordered := round_mono format nonneg le
    rwa [held.1] at ordered
  case isFalse =>
    rw [decide_eq_false (nonneg.trans le).not_gt]
    exact le_infinite (by simp)

theorem rounded_le_rounded {low high : ℚ} (nonneg : 0 ≤ low) (le : low ≤ high) :
    (rounded low : format.Value) ≤ rounded high := by
  have ordered := round_mono format nonneg le
  have positive := round_nonneg format nonneg
  unfold rounded
  by_cases highInside : |format.round high| ≤ format.largest
  · have lowInside : |format.round low| ≤ format.largest := by
      rw [abs_of_nonneg positive]
      rw [abs_of_nonneg (positive.trans ordered)] at highInside
      exact ordered.trans highInside
    rw [dif_pos lowInside, dif_pos highInside]
    exact finite_le_finite.mpr ordered
  · rw [dif_neg highInside, decide_eq_false (nonneg.trans le).not_gt]
    exact le_infinite (by split <;> simp)

/-- Positive values grow when they are added. -/
theorem le_add (one : 0 < first) (two : 0 < second) : first ≤ first + second ∧ second ≤ first + second := by
  rcases pos_cases one with rfl | ⟨a, aHeld, rfl, aPos⟩ <;> rcases pos_cases two with rfl | ⟨b, bHeld, rfl, bPos⟩
  · exact ⟨le_infinite (by simp), le_infinite (by simp)⟩
  · exact ⟨le_infinite (by simp), le_infinite (by simp)⟩
  · exact ⟨le_infinite (by simp), le_infinite (by simp)⟩
  · exact ⟨le_rounded aHeld aPos.le (by linarith), le_rounded bHeld bPos.le (by linarith)⟩

theorem convert_le_convert (positive : 0 < first) (le : first ≤ second) :
    (convert first : other.Value) ≤ convert second := by
  rcases pos_cases (lt_of_lt_of_le positive le) with rfl | ⟨b, bHeld, rfl, bPos⟩
  · refine le_infinite ?_
    rcases pos_cases positive with rfl | ⟨a, aHeld, rfl, aPos⟩
    · simp [convert]
    · simp only [convert, rounded]
      split <;> simp
  · rcases pos_cases positive with rfl | ⟨a, aHeld, rfl, aPos⟩
    · exact absurd le.2.2 (by simp [order])
    · exact rounded_le_rounded aPos.le (finite_le_finite.mp le)

/-! ## Values in a range -/

/-- From zero to a number, unless it is none. -/
def Within (bound : ℚ) : format.Value → Prop
  | .nan => True
  | .infinite _ => False
  | .finite value _ => 0 ≤ value ∧ value ≤ bound

theorem rounded_within {number bound : ℚ} (held : format.Has bound) (nonneg : 0 ≤ number) (le : number ≤ bound) :
    (rounded number : format.Value).Within bound := by
  have upper := round_mono format nonneg le
  have lower := round_nonneg format nonneg
  rw [held.1] at upper
  have inside : |format.round number| ≤ format.largest := by
    rw [abs_of_nonneg lower]
    exact upper.trans ((le_abs_self bound).trans held.2)
  rw [rounded, dif_pos inside]
  exact ⟨lower, upper⟩

theorem div_within (positive : 0 < first) (le : first ≤ second) : (first / second).Within 1 := by
  rcases pos_cases (lt_of_lt_of_le positive le) with rfl | ⟨b, bHeld, rfl, bPos⟩
  · rcases pos_cases positive with rfl | ⟨a, aHeld, rfl, aPos⟩
    · trivial
    · exact ⟨le_rfl, by norm_num⟩
  · rcases pos_cases positive with rfl | ⟨a, aHeld, rfl, aPos⟩
    · exact absurd le.2.2 (by simp [order])
    · show (if b = 0 then _ else rounded (a / b) : format.Value).Within 1
      rw [if_neg bPos.ne']
      exact rounded_within format.has_one (by positivity) ((div_le_one bPos).mpr (finite_le_finite.mp le))

theorem mul_within {low high : ℚ} (one : first.Within low) (two : second.Within high)
    (held : format.Has (low * high)) : (first * second).Within (low * high) := by
  cases first with
  | nan => cases second <;> trivial
  | infinite negative => exact one.elim
  | finite a aHeld =>
    cases second with
    | nan => trivial
    | infinite negative => exact two.elim
    | finite b bHeld =>
      exact rounded_within held (mul_nonneg one.1 two.1) (mul_le_mul one.2 two.2 two.1 (one.1.trans one.2))

theorem asInt_within {type : IntType} {bound : ℤ} (zero : type.least ≤ 0) (nonneg : 0 ≤ bound)
    (within : value.Within bound) : 0 ≤ asInt type value ∧ asInt type value ≤ bound := by
  cases value with
  | nan => exact ⟨le_rfl, nonneg⟩
  | infinite negative => exact within.elim
  | finite number held =>
    have lower := truncate_nonneg within.1
    have upper := truncate_le within.1 within.2
    have ordered : 0 ≤ type.greatest := by cases type <;> decide
    simp only [asInt, IntType.saturate]
    omega

theorem asInt_holds (type : IntType) (value : format.Value) : type.Holds (asInt type value) := by
  have ordered := type.least_le_greatest
  cases value with
  | nan => cases type <;> simp [asInt, IntType.Holds, IntType.least, IntType.greatest]
  | infinite negative => cases negative <;> simp [asInt, IntType.Holds, ordered]
  | finite number held => exact type.saturate_holds _

theorem asInt_mono {type : IntType} (le : first ≤ second) : asInt type first ≤ asInt type second := by
  obtain ⟨one, two, ordered⟩ := le
  cases first with
  | nan => exact absurd rfl one
  | infinite negative =>
    cases negative with
    | true => exact (asInt_holds type second).1
    | false =>
      cases second with
      | nan => exact absurd rfl two
      | infinite negative =>
        cases negative with
        | true => simp [order] at ordered
        | false => exact le_rfl
      | finite number held => simp [order] at ordered
  | finite number held =>
    cases second with
    | nan => exact absurd rfl two
    | infinite negative =>
      cases negative with
      | true => simp [order] at ordered
      | false => exact (asInt_holds type _).2
    | finite larger largerHeld =>
      exact IntType.saturate_mono (truncate_mono (by simpa [order] using ordered))

/-! ## The greatest of some values -/

theorem maximum_spec (second : format.Value) (number : first ≠ .nan) :
    first ≤ maximum first second ∧ (second ≠ .nan → second ≤ maximum first second) ∧
      (maximum first second = first ∨ second ≠ .nan ∧ maximum first second = second) := by
  unfold maximum
  rw [if_neg number]
  split
  case isTrue none_ => exact ⟨⟨number, number, le_rfl⟩, fun some_ => absurd none_ some_, Or.inl rfl⟩
  case isFalse some_ =>
  split
  case isTrue less => exact ⟨le_of_lt less, fun _ => ⟨some_, some_, le_rfl⟩, Or.inr ⟨some_, rfl⟩⟩
  case isFalse notLess =>
    have ordered : second.order ≤ first.order := not_lt.mp fun less => notLess ⟨number, some_, less⟩
    exact ⟨⟨number, number, le_rfl⟩, fun _ => ⟨some_, number, ordered⟩, Or.inl rfl⟩

/-- The greatest of a first value and others, of which only numbers count. -/
theorem foldl_maximum {α : Type*} (values : α → format.Value) (items : List α) (number : first ≠ .nan) :
    first ≤ items.foldl (fun most item => maximum most (values item)) first ∧
      (∀ item ∈ items, values item ≠ .nan →
        values item ≤ items.foldl (fun most item => maximum most (values item)) first) ∧
      (items.foldl (fun most item => maximum most (values item)) first = first ∨
        ∃ item ∈ items, values item ≠ .nan ∧
          items.foldl (fun most item => maximum most (values item)) first = values item) := by
  induction items generalizing first with
  | nil => exact ⟨⟨number, number, le_rfl⟩, by simp, Or.inl rfl⟩
  | cons item rest ih =>
    obtain ⟨grown, taken, either⟩ := maximum_spec (values item) number
    obtain ⟨most, others, reached⟩ := ih grown.2.1
    rw [List.foldl_cons]
    refine ⟨le_trans grown most, ?_, ?_⟩
    · intro each member some_
      rcases List.mem_cons.mp member with rfl | member
      · exact le_trans (taken some_) most
      · exact others each member some_
    · rcases reached with same | ⟨each, member, some_, same⟩
      · rw [same]
        rcases either with same | ⟨some_, same⟩
        · exact Or.inl same
        · exact Or.inr ⟨item, List.mem_cons_self, some_, same⟩
      · exact Or.inr ⟨each, List.mem_cons_of_mem _ member, some_, same⟩

end Value

/-! ## The formats of IEEE 754 -/

def binary64 : FloatFormat where
  precision := 53
  leastExponent := -1074
  greatestExponent := 971
  some_digits := by decide
  least_nonpos := by decide
  greatest_nonneg := by decide

def binary32 : FloatFormat where
  precision := 24
  leastExponent := -149
  greatestExponent := 104
  some_digits := by decide
  least_nonpos := by decide
  greatest_nonneg := by decide

end FloatFormat

end EnergyDisplay

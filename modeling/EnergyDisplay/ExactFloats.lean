import EnergyDisplay.Lib.Rounding
import EnergyDisplay.Renderer

/-! The renderer over exact arithmetic: `f64` and `f32` are rationals, and only
the conversions to integers round. -/
namespace EnergyDisplay

instance : AsInt ℚ := ⟨fun type value => type.saturate (truncate value)⟩

instance : AsF32 ℚ ℚ := ⟨id⟩

instance : FloatCore ℚ where
  maximum := max
  round value := if 0 ≤ value then ⌊value + 1 / 2⌋ else ⌈value - 1 / 2⌉

namespace Formatting

/-- A sign, the whole part and as many decimals. -/
def fixedText (places : ℕ) (value : ℚ) : List Char :=
  let scaled := halfEven (|value| * 10 ^ places)
  let decimals := padded places '0' (scaled.toNat % 10 ^ places)
  (if value < 0 then ['-'] else []) ++ Nat.toDigits 10 (scaled.toNat / 10 ^ places) ++
    (if places = 0 then [] else '.' :: decimals)

theorem fixedText_subset (places : ℕ) (value : ℚ) : fixedText places value ⊆ floatChars := by
  have decimals (number : ℕ) : padded places '0' number ⊆ floatChars := fun _ inside =>
    (mem_padded inside).elim (fun zero => by rw [zero]; decide) id
  refine List.append_subset.mpr ⟨List.append_subset.mpr ⟨?_, toDigits_subset _⟩, ?_⟩
  · split <;> decide
  · split
    · exact List.nil_subset _
    · exact List.cons_subset.mpr ⟨by decide, decimals _⟩

/-- A dyadic fraction has as many decimals as binary places. -/
instance : FloatText ℚ where
  fixed := fixedText
  display value := fixedText (Nat.log2 value.den) value
  fixed_chars places value _ inside := fixedText_subset places value inside
  display_chars value _ inside := fixedText_subset _ value inside

example : FloatText.fixed 1 (9 / 4 : ℚ) = "2.2".toList ∧ FloatText.display (-5 / 2 : ℚ) = "-2.5".toList := by
  decide +kernel

end Formatting

end EnergyDisplay

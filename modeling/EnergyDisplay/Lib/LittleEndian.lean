import Mathlib.Data.Nat.Init
import Mathlib.Data.UInt

/-! Numbers as bytes, the least significant first. -/
namespace EnergyDisplay.LittleEndian

/-- The lowest `width` bytes of a number, `to_le_bytes`. -/
def toLeBytes : ℕ → ℕ → List UInt8
  | 0, _ => []
  | width + 1, value => UInt8.ofNat value :: toLeBytes width (value / 256)

/-- `from_le_bytes`. -/
def fromLeBytes : List UInt8 → ℕ
  | [] => 0
  | byte :: bytes => byte.toNat + 256 * fromLeBytes bytes

@[simp] theorem length_toLeBytes (width value : ℕ) : (toLeBytes width value).length = width := by
  induction width generalizing value with
  | zero => rfl
  | succ width ih => simp [toLeBytes, ih]

@[simp] theorem fromLeBytes_toLeBytes {width value : ℕ} (fits : value < 256 ^ width) :
    fromLeBytes (toLeBytes width value) = value := by
  induction width generalizing value with
  | zero =>
    obtain rfl : value = 0 := by simpa using fits
    rfl
  | succ width ih =>
    have higher : value / 256 < 256 ^ width := by
      rw [Nat.pow_succ] at fits
      omega
    simp only [toLeBytes, fromLeBytes, ih higher, UInt8.toNat_ofNat']
    omega

/-- Numbers written in the same width differ where their bytes do. -/
theorem fromLeBytes_injective {first second : List UInt8} (lengths : first.length = second.length)
    (same : fromLeBytes first = fromLeBytes second) : first = second := by
  induction first generalizing second with
  | nil => exact (List.length_eq_zero_iff.mp lengths.symm).symm
  | cons left first ih =>
    obtain ⟨right, second, rfl⟩ := List.exists_cons_of_length_eq_add_one lengths.symm
    simp only [fromLeBytes, List.length_cons, Nat.add_right_cancel_iff] at same lengths
    have low := left.toNat_lt
    have low' := right.toNat_lt
    have heads : left = right := UInt8.toNat_inj.mp (by omega)
    rw [heads, ih lengths (by omega)]

end EnergyDisplay.LittleEndian

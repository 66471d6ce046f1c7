import Mathlib.Data.List.Basic
import Mathlib.Data.UInt
import Mathlib.Logic.Function.Basic

/-! FNV-1a with 32 bits. A step loses neither the state nor the byte, because
the prime is odd; so two inputs of the same length that differ in one byte never
collide. -/
namespace EnergyDisplay.Fnv

def offsetBasis : UInt32 := 0x811c9dc5

def prime : UInt32 := 0x01000193

/-- What undoes the multiplication with the prime. -/
def inverse : UInt32 := 0x359c449b

def step (value : UInt32) (byte : UInt8) : UInt32 := (value ^^^ byte.toUInt32) * prime

def hash (value : UInt32) (bytes : List UInt8) : UInt32 := bytes.foldl step value

theorem prime_mul_inverse : prime * inverse = 1 := by decide

theorem mul_prime_injective {first second : UInt32} (same : first * prime = second * prime) :
    first = second := by
  calc first = first * prime * inverse := by rw [UInt32.mul_assoc, prime_mul_inverse, UInt32.mul_one]
    _ = second * prime * inverse := by rw [same]
    _ = second := by rw [UInt32.mul_assoc, prime_mul_inverse, UInt32.mul_one]

theorem step_injective (byte : UInt8) : Function.Injective (step · byte) := by
  intro first second same
  have mixed : first ^^^ byte.toUInt32 = second ^^^ byte.toUInt32 := mul_prime_injective same
  exact (UInt32.xor_left_inj _).mp mixed

theorem step_injective_byte (value : UInt32) : Function.Injective (step value) := by
  intro first second same
  have mixed : value ^^^ first.toUInt32 = value ^^^ second.toUInt32 := mul_prime_injective same
  exact UInt8.toUInt32_inj.mp ((UInt32.xor_right_inj _).mp mixed)

/-- What follows never hides a difference. -/
theorem hash_injective (bytes : List UInt8) : Function.Injective (hash · bytes) := by
  induction bytes with
  | nil => exact fun _ _ same => same
  | cons byte bytes ih => exact fun _ _ same => step_injective byte (ih same)

/-- **One byte changed changes the hash.** -/
theorem hash_set_ne {bytes : List UInt8} {index : ℕ} (inside : index < bytes.length) {byte : UInt8}
    (differs : byte ≠ bytes[index]) (value : UInt32) : hash value (bytes.set index byte) ≠ hash value bytes := by
  induction bytes generalizing index value with
  | nil => exact absurd inside (Nat.not_lt_zero index)
  | cons first bytes ih =>
    cases index with
    | zero =>
      intro same
      exact differs (step_injective_byte value (hash_injective bytes same))
    | succ index => exact ih (Nat.lt_of_succ_lt_succ inside) differs (step value first)

end EnergyDisplay.Fnv

import Mathlib.Data.List.Basic

/-! Bits packed into bytes from a start byte on, the least significant bit of
a byte first. -/
namespace EnergyDisplay.PackedBits

/-- `1 << (index & 7)`. -/
def mask (index : ℕ) : UInt8 := 1 <<< UInt8.ofNat (index &&& 7)

/-- `data[start + index / 8] & (1 << (index & 7)) != 0`; there are no bits
outside the data. -/
def bit (data : List UInt8) (start index : ℕ) : Bool :=
  data[start + index / 8]?.getD 0 &&& mask index != 0

/-- `data[start + index / 8] |= 1 << (index & 7)`. -/
def setBit (data : List UInt8) (start index : ℕ) : List UInt8 :=
  data.modify (start + index / 8) fun byte => byte ||| mask index

variable {data : List UInt8} {start index : ℕ}

theorem mask_toBitVec (index : ℕ) : (mask index).toBitVec = BitVec.twoPow 8 (index % 8) := by
  have low : index &&& 7 = index % 8 := Nat.and_two_pow_sub_one_eq_mod index 3
  have table : ∀ low < 8, (1 <<< UInt8.ofNat low : UInt8).toBitVec = BitVec.twoPow 8 low := by decide
  rw [mask, low, table _ (Nat.mod_lt _ (by decide))]

theorem and_mask (byte : UInt8) (index : ℕ) :
    (byte &&& mask index != 0) = byte.toBitVec.getLsbD (index % 8) := by
  have low : index % 8 < 8 := Nat.mod_lt _ (by decide)
  have one : BitVec.twoPow 8 (index % 8) ≠ 0 := fun zero => by
    have := congrArg (fun vector : BitVec 8 => vector.getLsbD (index % 8)) zero
    simp [low] at this
  have masked : (byte &&& mask index).toBitVec =
      if byte.toBitVec.getLsbD (index % 8) then BitVec.twoPow 8 (index % 8) else 0 := by
    rw [UInt8.toBitVec_and, mask_toBitVec, BitVec.and_twoPow]
    rfl
  rw [Bool.eq_iff_iff, bne_iff_ne, ne_eq, ← UInt8.toBitVec_inj, masked]
  split <;> simp_all

theorem bit_eq_getLsbD (data : List UInt8) (start index : ℕ) :
    bit data start index = (data[start + index / 8]?.getD 0).toBitVec.getLsbD (index % 8) :=
  and_mask _ _

@[simp] theorem setBit_length : (setBit data start index).length = data.length := by
  simp [setBit]

/-- The bytes before the start stay as they are. -/
theorem setBit_take : (setBit data start index).take start = data.take start := by
  apply List.ext_getElem?
  intro byte
  by_cases before : byte < start
  · have other : start + index / 8 ≠ byte := by omega
    simp [setBit, List.getElem?_take_of_lt before, other]
  · rw [List.getElem?_take_eq_none (Nat.le_of_not_lt before),
      List.getElem?_take_eq_none (Nat.le_of_not_lt before)]

/-- Setting a bit inside the data sets that bit alone. -/
theorem bit_setBit (inside : start + index / 8 < data.length) (other : ℕ) :
    bit (setBit data start index) start other = (bit data start other || decide (other = index)) := by
  simp only [bit_eq_getLsbD, setBit, List.getElem?_modify]
  by_cases sameByte : index / 8 = other / 8
  · have sameBit : other % 8 = index % 8 ↔ other = index := by omega
    rw [← sameByte, List.getElem?_eq_getElem inside]
    simp [mask_toBitVec, sameBit, Nat.mod_lt]
  · have different : other ≠ index := fun same => sameByte (by rw [same])
    simp [sameByte, different]

theorem bit_append (more : List UInt8) (inside : start + index / 8 < data.length) :
    bit (data ++ more) start index = bit data start index := by
  simp [bit, List.getElem?_append_left inside]

/-- No bit is set in bytes that were just added. -/
theorem bit_fresh (data : List UInt8) (count index : ℕ) :
    bit (data ++ List.replicate count 0) data.length index = false := by
  have empty : (data ++ List.replicate count 0)[data.length + index / 8]?.getD 0 = (0 : UInt8) := by
    rw [List.getElem?_append_right (Nat.le_add_right _ _), Nat.add_sub_cancel_left,
      List.getElem?_replicate]
    split <;> rfl
  simp [bit, empty]

end EnergyDisplay.PackedBits

import Mathlib.Algebra.Order.Group.Nat
import Mathlib.Tactic.Common

/-! NOR flash: erasing sets every bit of a range, programming can only clear
bits. What is programmed into an erased range, once, is therefore what it
holds. -/
namespace EnergyDisplay

/-- The bytes by their address. -/
abbrev NorFlash := ℕ → UInt8

namespace NorFlash

def erase (flash : NorFlash) (offset length : ℕ) : NorFlash := fun address =>
  if offset ≤ address ∧ address < offset + length then 0xff else flash address

def program (flash : NorFlash) (offset : ℕ) (bytes : List UInt8) : NorFlash := fun address =>
  if offset ≤ address then
    match bytes[address - offset]? with
    | some byte => flash address &&& byte
    | none => flash address
  else flash address

/-- The bytes stored from `offset` on. -/
def Holds (flash : NorFlash) (offset : ℕ) (bytes : List UInt8) : Prop :=
  ∀ index byte, bytes[index]? = some byte → flash (offset + index) = byte

def Erased (flash : NorFlash) (start stop : ℕ) : Prop :=
  ∀ address, start ≤ address → address < stop → flash address = 0xff

variable {flash : NorFlash} {offset length stop : ℕ} {bytes more : List UInt8}

theorem holds_nil : Holds flash offset [] := by
  intro index byte inside
  simp at inside

theorem erased_erase : Erased (flash.erase offset length) offset (offset + length) := by
  intro address from_ below
  simp [erase, from_, below]

theorem program_outside {address : ℕ} (outside : address < offset ∨ offset + bytes.length ≤ address) :
    flash.program offset bytes address = flash address := by
  simp only [program]
  split
  · have beyond : bytes[address - offset]? = none := List.getElem?_eq_none (by omega)
    rw [beyond]
  · rfl

/-- Bytes programmed behind what is held, into erased flash, are held too. -/
theorem Holds.program (held : Holds flash offset bytes)
    (erased : Erased flash (offset + bytes.length) stop)
    (room : offset + bytes.length + more.length ≤ stop) :
    Holds (flash.program (offset + bytes.length) more) offset (bytes ++ more) := by
  intro index byte inside
  by_cases old : index < bytes.length
  · rw [List.getElem?_append_left old] at inside
    rw [program_outside (Or.inl (by omega))]
    exact held index byte inside
  · rw [List.getElem?_append_right (by omega)] at inside
    obtain ⟨bound, _⟩ := List.getElem?_eq_some_iff.mp inside
    have blank : flash (offset + index) = 0xff := erased _ (by omega) (by omega)
    have position : offset + index - (offset + bytes.length) = index - bytes.length := by omega
    simp only [NorFlash.program, position, inside, blank]
    rw [if_pos (by omega)]
    exact UInt8.neg_one_and

theorem Erased.program (erased : Erased flash offset stop) :
    Erased (flash.program offset more) (offset + more.length) stop := by
  intro address from_ below
  rw [program_outside (Or.inr from_)]
  exact erased address (by omega) below

theorem erase_outside {address : ℕ} (outside : address < offset ∨ offset + length ≤ address) :
    flash.erase offset length address = flash address := by
  simp only [erase]
  rw [if_neg (by omega)]

/-- The bytes of a range. -/
def read (flash : NorFlash) (offset length : ℕ) : List UInt8 :=
  (List.range length).map fun index => flash (offset + index)

@[simp] theorem length_read : (flash.read offset length).length = length := by simp [read]

theorem getElem?_read {index : ℕ} (inside : index < length) :
    (flash.read offset length)[index]? = some (flash (offset + index)) := by
  simp [read, inside]

theorem read_congr {other : NorFlash}
    (same : ∀ address, offset ≤ address → address < offset + length → flash address = other address) :
    flash.read offset length = other.read offset length := by
  apply List.map_congr_left
  intro index inside
  exact same _ (by omega) (by simpa using inside)

/-- An erase that comes `done` bytes far. -/
theorem read_erase (done : ℕ) : (flash.erase offset done).read offset length =
    List.replicate (min done length) 0xff ++ (flash.read offset length).drop done := by
  apply List.ext_getElem?
  intro index
  by_cases inside : index < length
  · rw [getElem?_read inside]
    by_cases gone : index < done
    · rw [List.getElem?_append_left (by simp [gone, inside]), List.getElem?_replicate_of_lt (by omega)]
      simp [erase, gone]
    · rw [List.getElem?_append_right (by simp; omega), List.length_replicate, List.getElem?_drop,
        getElem?_read (by omega), erase_outside (Or.inr (by omega))]
      congr 3
      omega
  · rw [List.getElem?_eq_none (by simpa using inside), List.getElem?_eq_none]
    simp only [List.length_append, List.length_replicate, List.length_drop, length_read]
    omega

/-- What is programmed into an erased range reads back, with the rest of the
range still erased. -/
theorem read_program (erased : Erased flash offset (offset + length)) (fits : bytes.length ≤ length) :
    (flash.program offset bytes).read offset length =
      bytes ++ List.replicate (length - bytes.length) 0xff := by
  apply List.ext_getElem?
  intro index
  by_cases inside : index < length
  · rw [getElem?_read inside]
    by_cases written : index < bytes.length
    · have held : Holds (flash.program offset bytes) offset bytes := by
        simpa using holds_nil.program (by simpa using erased) (by simpa using fits)
      rw [List.getElem?_append_left written, List.getElem?_eq_getElem written]
      exact congrArg some (held index _ (List.getElem?_eq_getElem written))
    · rw [List.getElem?_append_right (by omega), List.getElem?_replicate_of_lt (by omega),
        program_outside (Or.inr (by omega)), erased _ (by omega) (by omega)]
  · rw [List.getElem?_eq_none (by simpa using inside), List.getElem?_eq_none]
    simp only [List.length_append, List.length_replicate]
    omega

end NorFlash

end EnergyDisplay

import EnergyDisplay.Lib.Fnv
import EnergyDisplay.Lib.LittleEndian
import EnergyDisplay.Lib.Utf8
import EnergyDisplay.Logging

/-! The record in which a panic message survives the reset, from
`firmware/src/panic_store.rs`: magic, version, length and checksum, then the
message in UTF-8. The flash it is kept in stays outside. -/
namespace EnergyDisplay.PanicStore

open LittleEndian
open Logging (panicMessageCapacity)

abbrev PanicMessage := HeaplessString panicMessageCapacity

/-- `EDPANIC!`. -/
def recordMagic : List UInt8 := [0x45, 0x44, 0x50, 0x41, 0x4e, 0x49, 0x43, 0x21]

def recordVersion : UInt8 := 1

def recordHeaderSize : ℕ := 16

def recordSize : ℕ := recordHeaderSize + panicMessageCapacity

structure AlignedRecord where
  bytes : List UInt8
  size : bytes.length = recordSize

namespace AlignedRecord

def erased : AlignedRecord := ⟨List.replicate recordSize 0xff, List.length_replicate⟩

/-- `record.0[start..stop]`. -/
def slice (record : AlignedRecord) (start stop : ℕ) : List UInt8 := (record.bytes.drop start).take (stop - start)

def set (record : AlignedRecord) (index : ℕ) (byte : UInt8) : AlignedRecord :=
  ⟨record.bytes.set index byte, by rw [List.length_set, record.size]⟩

/-- `record.0[start..][..source.len()].copy_from_slice(source)`. -/
def copyFromSlice (record : AlignedRecord) (start : ℕ) (source : List UInt8)
    (inside : start + source.length ≤ recordSize) : AlignedRecord :=
  ⟨record.bytes.take start ++ (source ++ record.bytes.drop (start + source.length)), by
    simp only [List.length_append, List.length_take, List.length_drop, record.size]
    omega⟩

end AlignedRecord

def checksum (header payload : List UInt8) : UInt32 := Fnv.hash Fnv.offsetBasis (header ++ payload)

/-- The bytes of a message that a record has room for. -/
def payload (message : List Char) : List UInt8 :=
  (utf8Bytes message).take (min (utf8Bytes message).length panicMessageCapacity)

theorem length_payload (message : List Char) :
    (payload message).length = min (utf8Len message) panicMessageCapacity := by
  simp only [payload, List.length_take, length_utf8Bytes]
  omega

def encode (message : List Char) : AlignedRecord :=
  let length := (payload message).length
  let record := AlignedRecord.erased.copyFromSlice 0 recordMagic (by decide)
  let record := (record.set 8 recordVersion).set 9 0
  let record := record.copyFromSlice 10 (toLeBytes 2 length) (by rw [length_toLeBytes]; decide)
  let record := record.copyFromSlice recordHeaderSize (payload message)
    (Nat.add_le_add_left ((length_payload message).trans_le (min_le_right _ _)) _)
  let checksum := checksum (record.slice 8 12) (record.slice recordHeaderSize (recordHeaderSize + length))
  record.copyFromSlice 12 (toLeBytes 4 checksum.toNat) (by rw [length_toLeBytes]; decide)

def decode (record : AlignedRecord) : Option PanicMessage :=
  if record.slice 0 8 ≠ recordMagic ∨ record.slice 8 9 ≠ [recordVersion] then none
  else
    let length := fromLeBytes (record.slice 10 12)
    if panicMessageCapacity < length then none
    else
      let expected := fromLeBytes (record.slice 12 16)
      let payload := record.slice recordHeaderSize (recordHeaderSize + length)
      if (checksum (record.slice 8 12) payload).toNat ≠ expected then none
      else (fromUtf8 payload).bind fun payload => HeaplessString.pushStr .empty payload

example : decode .erased = none := by decide

end EnergyDisplay.PanicStore

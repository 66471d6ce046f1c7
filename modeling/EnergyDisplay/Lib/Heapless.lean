import Mathlib.Algebra.BigOperators.Group.List.Basic
import Mathlib.Algebra.GroupWithZero.Nat

/-! Buffers of a fixed capacity, `heapless::Vec` and `heapless::String`: what
does not fit is refused whole, and the buffer keeps what it has. The capacity
is a field, so no program can hold an overfull buffer. A text is the list of
its characters. -/
namespace EnergyDisplay

structure Heapless (α : Type*) (size : α → ℕ) (capacity : ℕ) where
  items : List α
  bounded : (items.map size).sum ≤ capacity

namespace Heapless

variable {α : Type*} {size : α → ℕ} {capacity : ℕ} {buffer : Heapless α size capacity}
  {more : List α}

def empty : Heapless α size capacity := ⟨[], Nat.zero_le _⟩

/-- The room that is taken. -/
def len (buffer : Heapless α size capacity) : ℕ := (buffer.items.map size).sum

/-- Add all of `more`, or nothing. -/
def extend (buffer : Heapless α size capacity) (more : List α) : Option (Heapless α size capacity) :=
  if room : buffer.len + (more.map size).sum ≤ capacity then
    some ⟨buffer.items ++ more, by simpa [len] using room⟩
  else none

@[simp] theorem empty_items : (empty : Heapless α size capacity).items = [] := rfl

theorem extend_fits (fits : buffer.len + (more.map size).sum ≤ capacity) :
    ∃ longer, buffer.extend more = some longer ∧ longer.items = buffer.items ++ more :=
  ⟨⟨buffer.items ++ more, by simpa [len] using fits⟩, by simp [extend, fits], rfl⟩

theorem extend_items {longer : Heapless α size capacity} (extends_ : buffer.extend more = some longer) :
    longer.items = buffer.items ++ more := by
  unfold extend at extends_
  split at extends_
  · cases extends_
    rfl
  · cases extends_

theorem extend_refused (full : capacity < buffer.len + (more.map size).sum) :
    buffer.extend more = none := by
  simp [extend, Nat.not_le.mpr full]

end Heapless

/-- `heapless::Vec`: each item takes one place. -/
abbrev HeaplessVec (α : Type*) (capacity : ℕ) := Heapless α (fun _ => 1) capacity

namespace HeaplessVec

variable {α : Type*} {capacity : ℕ} {vec : HeaplessVec α capacity}

def push (vec : HeaplessVec α capacity) (item : α) : Option (HeaplessVec α capacity) :=
  vec.extend [item]

theorem length_le (vec : HeaplessVec α capacity) : vec.items.length ≤ capacity := by
  simpa using vec.bounded

theorem push_room (item : α) (room : vec.items.length < capacity) :
    ∃ longer, vec.push item = some longer ∧ longer.items = vec.items ++ [item] :=
  Heapless.extend_fits (by simpa [Heapless.len] using Nat.succ_le_of_lt room)

theorem push_full (item : α) (full : vec.items.length = capacity) : vec.push item = none :=
  Heapless.extend_refused (by simp [Heapless.len, full])

end HeaplessVec

/-- `heapless::String`: a character takes its bytes in UTF-8. -/
abbrev HeaplessString (capacity : ℕ) := Heapless Char Char.utf8Size capacity

def utf8Len (text : List Char) : ℕ := (text.map Char.utf8Size).sum

@[simp] theorem utf8Len_nil : utf8Len [] = 0 := rfl

@[simp] theorem utf8Len_cons (character : Char) (text : List Char) :
    utf8Len (character :: text) = character.utf8Size + utf8Len text := by simp [utf8Len]

@[simp] theorem utf8Len_append (first second : List Char) :
    utf8Len (first ++ second) = utf8Len first + utf8Len second := by simp [utf8Len]

/-- Of ASCII, every character is a byte. -/
theorem utf8Len_ascii {text : List Char} (ascii : ∀ character ∈ text, character.val ≤ 127) :
    utf8Len text = text.length := by
  induction text with
  | nil => rfl
  | cons character text ih =>
    obtain ⟨first, others⟩ := List.forall_mem_cons.mp ascii
    rw [utf8Len_cons, Char.utf8Size_eq_one_iff.mpr first, ih others, List.length_cons, Nat.add_comm]

theorem length_le_utf8Len (text : List Char) : text.length ≤ utf8Len text := by
  induction text with
  | nil => exact Nat.le_refl 0
  | cons character rest ih =>
    have positive := character.utf8Size_pos
    rw [List.length_cons, utf8Len_cons]
    omega

namespace HeaplessString

variable {capacity : ℕ} {output : HeaplessString capacity} {text : List Char}

def pushStr (output : HeaplessString capacity) (text : List Char) : Option (HeaplessString capacity) :=
  output.extend text

/-- `core::fmt::write` hands over piece after piece until one is refused; the
flag says whether none was. -/
def writePieces (output : HeaplessString capacity) : List (List Char) → HeaplessString capacity × Bool
  | [] => (output, true)
  | piece :: rest =>
    match output.pushStr piece with
    | some longer => longer.writePieces rest
    | none => (output, false)

theorem writePieces_append (output : HeaplessString capacity) (first second : List (List Char)) :
    output.writePieces (first ++ second) =
      match output.writePieces first with
      | (longer, true) => longer.writePieces second
      | (longer, false) => (longer, false) := by
  induction first generalizing output with
  | nil => rfl
  | cons piece rest ih =>
    simp only [List.cons_append, writePieces]
    cases output.pushStr piece with
    | none => rfl
    | some longer => exact ih longer

theorem utf8Len_le (output : HeaplessString capacity) : utf8Len output.items ≤ capacity := output.bounded

theorem pushStr_fits (fits : utf8Len output.items + utf8Len text ≤ capacity) :
    ∃ longer, output.pushStr text = some longer ∧ longer.items = output.items ++ text :=
  Heapless.extend_fits fits

theorem pushStr_refused (full : capacity < utf8Len output.items + utf8Len text) :
    output.pushStr text = none :=
  Heapless.extend_refused full

/-- What fits is written whole. -/
theorem writePieces_fits {pieces : List (List Char)}
    (fits : utf8Len output.items + utf8Len pieces.flatten ≤ capacity) :
    (output.writePieces pieces).2 = true ∧
      (output.writePieces pieces).1.items = output.items ++ pieces.flatten := by
  induction pieces generalizing output with
  | nil => simp [writePieces]
  | cons piece rest ih =>
    rw [List.flatten_cons, utf8Len_append] at fits
    obtain ⟨longer, pushed, items⟩ : ∃ longer, output.pushStr piece = some longer ∧
        longer.items = output.items ++ piece := pushStr_fits (by omega)
    obtain ⟨whole, written⟩ := @ih longer (by rw [items, utf8Len_append]; omega)
    simp only [writePieces, pushed]
    exact ⟨whole, by rw [written, items, List.flatten_cons, List.append_assoc]⟩

/-- What does not fit is written up to the first piece that is refused. -/
theorem writePieces_cut {pieces : List (List Char)}
    (full : capacity < utf8Len output.items + utf8Len pieces.flatten) :
    (output.writePieces pieces).2 = false ∧
      ∃ before piece after, pieces = before ++ piece :: after ∧
        (output.writePieces pieces).1.items = output.items ++ before.flatten ∧
        capacity < utf8Len output.items + utf8Len before.flatten + utf8Len piece := by
  induction pieces generalizing output with
  | nil => exact absurd (utf8Len_le output) (by simpa using full)
  | cons piece rest ih =>
    rw [List.flatten_cons, utf8Len_append] at full
    by_cases room : utf8Len output.items + utf8Len piece ≤ capacity
    · obtain ⟨longer, pushed, items⟩ := pushStr_fits room
      obtain ⟨cut, before, refused, after, split, written, over_⟩ :=
        @ih longer (by rw [items, utf8Len_append]; omega)
      simp only [writePieces, pushed]
      refine ⟨cut, piece :: before, refused, after, by rw [split, List.cons_append], ?_, ?_⟩
      · rw [written, items, List.flatten_cons, List.append_assoc]
      · rw [items, utf8Len_append] at over_
        rw [List.flatten_cons, utf8Len_append]
        omega
    · have refused : output.pushStr piece = none := pushStr_refused (Nat.lt_of_not_le room)
      simp only [writePieces, refused]
      exact ⟨trivial, [], piece, rest, rfl, by simp, by simpa using Nat.lt_of_not_le room⟩

end HeaplessString

end EnergyDisplay

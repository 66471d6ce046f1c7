import Mathlib.Data.List.Basic

/-! A bounded channel between tasks, with the operations that never wait:
`trySend` fails when it is full, `tryReceive` when it is empty. The bound is a
field, so no state of a program can hold an overfull channel. -/
namespace EnergyDisplay

structure Channel (α : Type*) (capacity : ℕ) where
  items : List α
  bounded : items.length ≤ capacity

namespace Channel

variable {α : Type*} {capacity : ℕ} {channel rest : Channel α capacity} {item oldest : α}
  {others : List α}

def empty : Channel α capacity := ⟨[], Nat.zero_le _⟩

def trySend (channel : Channel α capacity) (item : α) : Option (Channel α capacity) :=
  if room : channel.items.length < capacity then
    some ⟨channel.items ++ [item], by simpa using Nat.succ_le_of_lt room⟩
  else none

def tryReceive (channel : Channel α capacity) : Option (α × Channel α capacity) :=
  match channel with
  | ⟨[], _⟩ => none
  | ⟨item :: rest, bounded⟩ => some (item, ⟨rest, Nat.le_of_succ_le bounded⟩)

/-- Send, and make room by dropping the oldest item when there is none. -/
def sendReplacingOldest (channel : Channel α capacity) (item : α) : Channel α capacity :=
  match channel.trySend item with
  | some sent => sent
  | none =>
    let room := (channel.tryReceive.map Prod.snd).getD channel
    (room.trySend item).getD room

@[simp] theorem empty_items : (empty : Channel α capacity).items = [] := rfl

theorem ext_items {first second : Channel α capacity} (same : first.items = second.items) :
    first = second := by
  cases first
  cases second
  cases same
  rfl

theorem trySend_room (channel : Channel α capacity) (item : α)
    (room : channel.items.length < capacity) :
    ∃ sent, channel.trySend item = some sent ∧ sent.items = channel.items ++ [item] :=
  ⟨⟨channel.items ++ [item], by simpa using Nat.succ_le_of_lt room⟩, by simp [trySend, room], rfl⟩

theorem trySend_full (item : α) (full : channel.items.length = capacity) :
    channel.trySend item = none := by
  simp [trySend, full]

theorem tryReceive_eq_some :
    channel.tryReceive = some (item, rest) ↔ channel.items = item :: rest.items := by
  obtain ⟨items, bounded⟩ := channel
  obtain ⟨left, fits⟩ := rest
  cases items <;> simp [tryReceive]

theorem tryReceive_eq_none : channel.tryReceive = none ↔ channel.items = [] := by
  obtain ⟨items, bounded⟩ := channel
  cases items <;> simp [tryReceive]

theorem tryReceive_head : channel.tryReceive.map Prod.fst = channel.items.head? := by
  obtain ⟨items, bounded⟩ := channel
  cases items <;> rfl

theorem sendReplacingOldest_room (item : α) (room : channel.items.length < capacity) :
    (channel.sendReplacingOldest item).items = channel.items ++ [item] := by
  obtain ⟨sent, succeeds, items⟩ := trySend_room channel item room
  simp [sendReplacingOldest, succeeds, items]

theorem sendReplacingOldest_full (item : α) (items : channel.items = oldest :: others)
    (full : channel.items.length = capacity) :
    (channel.sendReplacingOldest item).items = others ++ [item] := by
  have bounded : others.length < capacity := by
    rw [← full, items]
    simp
  let room : Channel α capacity := ⟨others, Nat.le_of_lt bounded⟩
  have received : channel.tryReceive = some (oldest, room) := tryReceive_eq_some.mpr items
  obtain ⟨sent, succeeds, content⟩ := trySend_room room item bounded
  simp [sendReplacingOldest, trySend_full item full, received, succeeds, content, room]

/-- What replacing the oldest does: the item goes in last, and nothing but the
oldest item of a full channel is lost. -/
theorem sendReplacingOldest_cases (positive : 0 < capacity) (channel : Channel α capacity) (item : α) :
    (channel.items.length < capacity ∧
        (channel.sendReplacingOldest item).items = channel.items ++ [item]) ∨
      ∃ oldest others, channel.items = oldest :: others ∧ channel.items.length = capacity ∧
        (channel.sendReplacingOldest item).items = others ++ [item] := by
  by_cases room : channel.items.length < capacity
  · exact Or.inl ⟨room, sendReplacingOldest_room item room⟩
  · have full : channel.items.length = capacity := by
      have := channel.bounded
      omega
    cases items : channel.items with
    | nil =>
      rw [items] at full
      simp at full
      omega
    | cons oldest others =>
      refine Or.inr ⟨oldest, others, rfl, by rw [← items, full], ?_⟩
      exact sendReplacingOldest_full item items full

end Channel

end EnergyDisplay

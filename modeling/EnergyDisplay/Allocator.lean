import EnergyDisplay.Lib.Runs
import Mathlib.Algebra.GroupWithZero.Nat

/-! The allocator of `firmware/src/lib.rs`. It hands every request on to the heap
until the boot is complete; from then on it turns the large ones down and keeps
the size of the first for the panic that follows. The heap is outside: what it
answers is given with a request, and which blocks live is history. -/
namespace EnergyDisplay.Allocator

open Runs

def maxPostBootRustAllocationSize : ℕ := 1024

/-- `isize::MAX` on the target, of 32 bits. -/
def isizeMax : ℕ := 2 ^ 31 - 1

/-- `core::alloc::Layout`: rounded up to its alignment, the size stays within
`isize`. -/
structure Layout where
  size : ℕ
  align : ℕ
  positive : 0 < align
  fits : size + align ≤ isizeMax + 1

/-- `Layout::from_size_align(size, self.align())`. -/
def Layout.withSize (layout : Layout) (size : ℕ) : Option Layout :=
  if fits : size + layout.align ≤ isizeMax + 1 then some ⟨size, layout.align, layout.positive, fits⟩ else none

structure Memory where
  rustAllocationsAllowed : Bool
  /-- `REJECTED_ALLOCATION_SIZE`; nothing was rejected while it is 0. -/
  rejectedSize : ℕ
  /-- History: the size of the block at an address. -/
  blocks : ℕ → Option ℕ

namespace Memory

/-- The statics as they are before the first request. -/
def initial : Memory where
  rustAllocationsAllowed := true
  rejectedSize := 0
  blocks := fun _ => none

def sealAllocator (memory : Memory) : Memory := { memory with rustAllocationsAllowed := false }

def rejectedAllocationSize (memory : Memory) : Option ℕ :=
  match memory.rejectedSize with
  | 0 => none
  | size => some size

def rustAllocationAllowed (memory : Memory) (size : ℕ) : Bool :=
  memory.rustAllocationsAllowed || decide (size ≤ maxPostBootRustAllocationSize)

def rejectAllocation (memory : Memory) (layout : Layout) : Memory :=
  if memory.rejectedSize = 0 then { memory with rejectedSize := max layout.size 1 } else memory

/-- What the heap answers: the address of a block, unless it has none. -/
def take (memory : Memory) (size : ℕ) : Option ℕ → Memory
  | none => memory
  | some address =>
    { memory with blocks := fun other => if other = address then some size else memory.blocks other }

/-- `alloc` and `alloc_zeroed`. -/
def alloc (memory : Memory) (layout : Layout) (answer : Option ℕ) : Memory :=
  if memory.rustAllocationAllowed layout.size then memory.take layout.size answer
  else memory.rejectAllocation layout

def dealloc (memory : Memory) (address : ℕ) : Memory :=
  { memory with blocks := fun other => if other = address then none else memory.blocks other }

/-- A block that is not moved or grown is kept. -/
def realloc (memory : Memory) (address : ℕ) (layout : Layout) (newSize : ℕ) (answer : Option ℕ) : Memory :=
  if memory.rustAllocationAllowed newSize then
    match answer with
    | none => memory
    | some moved => (memory.dealloc address).take newSize (some moved)
  else memory.rejectAllocation ((layout.withSize newSize).getD layout)

end Memory

inductive Call where
  | alloc (layout : Layout) (answer : Option ℕ)
  | allocZeroed (layout : Layout) (answer : Option ℕ)
  | dealloc (address : ℕ)
  | realloc (address : ℕ) (layout : Layout) (newSize : ℕ) (answer : Option ℕ)

def call (memory : Memory) : Call → Memory
  | .alloc layout answer => memory.alloc layout answer
  | .allocZeroed layout answer => memory.alloc layout answer
  | .dealloc address => memory.dealloc address
  | .realloc address layout newSize answer => memory.realloc address layout newSize answer

namespace Call

/-- The size that is asked for. -/
def request : Call → Option ℕ
  | .alloc layout _ => some layout.size
  | .allocZeroed layout _ => some layout.size
  | .dealloc _ => none
  | .realloc _ _ newSize _ => some newSize

/-- What `GlobalAlloc` asks of its callers: a new size makes a layout. -/
def Valid : Call → Prop
  | .realloc _ layout newSize _ => newSize + layout.align ≤ isizeMax + 1
  | _ => True

end Call

variable {memory : Memory} {request : Call} {calls : List Call}

/-! ## One request -/

theorem take_blocks (size : ℕ) (answer : Option ℕ) (address held : ℕ)
    (holds : (memory.take size answer).blocks address = some held) :
    held = size ∨ memory.blocks address = some held := by
  cases answer with
  | none => exact Or.inr holds
  | some taken =>
    simp only [Memory.take] at holds
    split at holds
    · exact Or.inl (Option.some.inj holds).symm
    · exact Or.inr holds

theorem dealloc_blocks (freed address held : ℕ) (holds : (memory.dealloc freed).blocks address = some held) :
    memory.blocks address = some held := by
  simp only [Memory.dealloc] at holds
  split at holds
  · cases holds
  · exact holds

/-- What a request of `size` does: it is handed on, or it is turned down and the
first size turned down is kept. -/
structure Answered (before : Memory) (size : ℕ) (after : Memory) : Prop where
  allowed : after.rustAllocationsAllowed = before.rustAllocationsAllowed
  blocks : ∀ address held, after.blocks address = some held →
    before.blocks address = some held ∨ held = size ∧ before.rustAllocationAllowed size = true
  rejected : after.rejectedSize =
    if before.rustAllocationAllowed size = true ∨ before.rejectedSize ≠ 0 then before.rejectedSize
    else max size 1

theorem answered_take {size : ℕ} (answer : Option ℕ) {between : Memory}
    (permitted : memory.rustAllocationAllowed size = true)
    (same : between.rustAllocationsAllowed = memory.rustAllocationsAllowed)
    (kept : between.rejectedSize = memory.rejectedSize)
    (freed : ∀ address held, between.blocks address = some held → memory.blocks address = some held) :
    Answered memory size (between.take size answer) := by
  constructor
  · cases answer <;> exact same
  · intro address held holds
    rcases take_blocks size answer address held holds with rfl | old
    · exact Or.inr ⟨rfl, permitted⟩
    · exact Or.inl (freed address held old)
  · rw [if_pos (Or.inl permitted), ← kept]
    cases answer <;> rfl

theorem answered_reject {layout : Layout} (refused : memory.rustAllocationAllowed layout.size = false) :
    Answered memory layout.size (memory.rejectAllocation layout) := by
  unfold Memory.rejectAllocation
  constructor
  · split <;> rfl
  · intro address held holds
    split at holds <;> exact Or.inl holds
  · by_cases first : memory.rejectedSize = 0
    · simp [first, refused]
    · simp [first]

/-- Every valid call answers its request; `dealloc` makes none. -/
theorem call_answered (memory : Memory) (valid : request.Valid) {size : ℕ} (asks : request.request = some size) :
    Answered memory size (call memory request) := by
  have plain : ∀ layout answer, Answered memory layout.size (memory.alloc layout answer) := by
    intro layout answer
    unfold Memory.alloc
    split
    · next permitted => exact answered_take answer permitted rfl rfl fun _ _ holds => holds
    · next refused => exact answered_reject (by simpa using refused)
  cases request with
  | alloc layout answer =>
    cases asks
    exact plain layout answer
  | allocZeroed layout answer =>
    cases asks
    exact plain layout answer
  | dealloc address => cases asks
  | realloc address layout newSize answer =>
    cases asks
    simp only [call, Memory.realloc]
    split
    · next permitted =>
      cases answer with
      | none => exact answered_take none permitted rfl rfl fun _ _ holds => holds
      | some moved =>
        exact answered_take (some moved) permitted rfl rfl (dealloc_blocks address)
    · next refused =>
      let grown : Layout := ⟨size, layout.align, layout.positive, valid⟩
      have whole : layout.withSize size = some grown := dif_pos valid
      rw [whole, Option.getD_some]
      have turned : memory.rustAllocationAllowed grown.size = false := by simpa using refused
      exact answered_reject turned

theorem call_dealloc (memory : Memory) (asks : request.request = none) :
    (call memory request).rustAllocationsAllowed = memory.rustAllocationsAllowed ∧
      (call memory request).rejectedSize = memory.rejectedSize ∧
      ∀ address held, (call memory request).blocks address = some held → memory.blocks address = some held := by
  cases request with
  | dealloc freed => exact ⟨rfl, rfl, dealloc_blocks freed⟩
  | alloc layout answer => cases asks
  | allocZeroed layout answer => cases asks
  | realloc address layout newSize answer => cases asks

/-! ## Runs of requests -/

theorem allowed_unsealed (open_ : memory.rustAllocationsAllowed = true) (size : ℕ) :
    memory.rustAllocationAllowed size = true := by
  simp [Memory.rustAllocationAllowed, open_]

theorem allowed_sealed (sealed : memory.rustAllocationsAllowed = false) (size : ℕ) :
    memory.rustAllocationAllowed size = true ↔ size ≤ maxPostBootRustAllocationSize := by
  simp [Memory.rustAllocationAllowed, sealed]

/-- The boot goes on, and nothing was turned down. -/
structure Booting (memory : Memory) : Prop where
  allowed : memory.rustAllocationsAllowed = true
  fresh : memory.rejectedSize = 0

theorem booting_take (booting : Booting memory) (size : ℕ) (answer : Option ℕ) :
    Booting (memory.take size answer) := by
  cases answer <;> exact ⟨booting.allowed, booting.fresh⟩

/-- Until the seal nothing is turned down, so no call need be valid. -/
theorem booting_call (memory : Memory) (request : Call) (booting : Booting memory) :
    Booting (call memory request) := by
  have permitted := allowed_unsealed booting.allowed
  have plain : ∀ layout answer, Booting (memory.alloc layout answer) := by
    intro layout answer
    rw [Memory.alloc, if_pos (permitted _)]
    exact booting_take booting _ answer
  cases request with
  | alloc layout answer => exact plain layout answer
  | allocZeroed layout answer => exact plain layout answer
  | dealloc address => exact ⟨booting.allowed, booting.fresh⟩
  | realloc address layout newSize answer =>
    simp only [call, Memory.realloc, permitted, if_true]
    cases answer with
    | none => exact booting
    | some moved =>
      have freed : Booting (memory.dealloc address) := ⟨booting.allowed, booting.fresh⟩
      exact booting_take freed newSize (some moved)

theorem booting_run (calls : List Call) : Booting (run call .initial calls) :=
  run_invariant (fun memory request booting _ => booting_call memory request booting) ⟨rfl, rfl⟩
    fun _ _ => trivial

/-- The first request that is too large. -/
def firstRejected (calls : List Call) : Option ℕ :=
  (calls.filterMap Call.request).find? fun size => decide (maxPostBootRustAllocationSize < size)

theorem firstRejected_cons_request {size : ℕ} (asks : request.request = some size) :
    firstRejected (request :: calls) =
      if maxPostBootRustAllocationSize < size then some size else firstRejected calls := by
  simp only [firstRejected, List.filterMap_cons, asks, List.find?_cons]
  split
  · next large => rw [if_pos (of_decide_eq_true large)]
  · next small => rw [if_neg (of_decide_eq_false small)]

theorem firstRejected_cons_dealloc (asks : request.request = none) :
    firstRejected (request :: calls) = firstRejected calls := by
  simp [firstRejected, asks]

/-- Blocks above the limit are those that were there, and the size kept is the
first one turned down. -/
theorem run_sealed (memory : Memory) (valid : ∀ request ∈ calls, request.Valid)
    (sealed : memory.rustAllocationsAllowed = false) :
    (∀ address held, (run call memory calls).blocks address = some held →
        held ≤ maxPostBootRustAllocationSize ∨ memory.blocks address = some held) ∧
      (run call memory calls).rejectedSize =
        if memory.rejectedSize = 0 then (firstRejected calls).getD 0 else memory.rejectedSize := by
  induction calls generalizing memory with
  | nil =>
    refine ⟨fun _ _ holds => Or.inr holds, ?_⟩
    by_cases fresh : memory.rejectedSize = 0 <;> simp [firstRejected, fresh]
  | cons request rest ih =>
    obtain ⟨first, others⟩ := List.forall_mem_cons.mp valid
    rw [run_cons]
    cases asks : request.request with
    | none =>
      obtain ⟨allowed, rejected, kept⟩ := call_dealloc memory asks
      obtain ⟨blocks, recorded⟩ := ih _ others (allowed.trans sealed)
      refine ⟨fun address held holds => (blocks address held holds).imp_right (kept address held), ?_⟩
      rw [recorded, rejected, firstRejected_cons_dealloc asks]
    | some size =>
      have answered := call_answered memory first asks
      obtain ⟨blocks, recorded⟩ := ih _ others (answered.allowed.trans sealed)
      constructor
      · intro address held holds
        rcases blocks address held holds with small | here
        · exact Or.inl small
        · rcases answered.blocks address held here with old | ⟨rfl, permitted⟩
          · exact Or.inr old
          · exact Or.inl ((allowed_sealed sealed held).mp permitted)
      · rw [recorded, answered.rejected, firstRejected_cons_request asks]
        simp only [allowed_sealed sealed]
        by_cases fresh : memory.rejectedSize = 0
        · by_cases large : maxPostBootRustAllocationSize < size
          · have kept : max size 1 = size := by
              rw [maxPostBootRustAllocationSize] at large
              omega
            have some_ : size ≠ 0 := by omega
            simp [fresh, large, Nat.not_le.mpr large, kept, some_]
          · simp [fresh, Nat.not_lt.mp large, large]
        · simp [fresh]

/-- **After the boot no Rust block of more than 1024 bytes is made, and the size
of the first that was asked for is what the panic report tells.** Whatever was
allocated before `seal_allocator` and whatever the heap answers, a block that
lives later is small or has been there since; `rejected_allocation_size` is the
first request above the limit, moves and growth included. -/
theorem post_boot_allocations_bounded (before later : List Call)
    (valid : ∀ request ∈ later, request.Valid) :
    let sealed := (run call .initial before).sealAllocator
    (∀ address size, (run call sealed later).blocks address = some size →
        size ≤ maxPostBootRustAllocationSize ∨ (run call .initial before).blocks address = some size) ∧
      (run call sealed later).rejectedAllocationSize = firstRejected later := by
  intro sealed
  have fresh : sealed.rejectedSize = 0 := (booting_run before).fresh
  obtain ⟨blocks, recorded⟩ := run_sealed sealed valid rfl
  refine ⟨blocks, ?_⟩
  rw [if_pos fresh] at recorded
  cases first : firstRejected later with
  | none => simp [Memory.rejectedAllocationSize, recorded, first]
  | some size =>
    have large : maxPostBootRustAllocationSize < size := by
      simpa using List.find?_some first
    rw [first, Option.getD_some] at recorded
    obtain ⟨below, rfl⟩ := Nat.exists_eq_add_of_lt large
    simp [Memory.rejectedAllocationSize, recorded]

/-- A block of 2000 bytes from the boot, which later grows to 4000 in vain; a
small block is still made, and the next large request is not the one told. -/
theorem post_boot_allocations_bounded_grown :
    let radio : Layout := ⟨2000, 8, by decide, by decide⟩
    let small : Layout := ⟨64, 8, by decide, by decide⟩
    let later : List Call := [.alloc small (some 8192), .realloc 4096 radio 4000 (some 16384), .dealloc 4096,
      .alloc radio (some 4096)]
    (run call (run call .initial [.alloc radio (some 4096)]).sealAllocator later).rejectedAllocationSize =
      some 4000 :=
  (post_boot_allocations_bounded [.alloc ⟨2000, 8, by decide, by decide⟩ (some 4096)] _
    (by simp [Call.Valid, isizeMax])).2.trans (by decide)

end EnergyDisplay.Allocator

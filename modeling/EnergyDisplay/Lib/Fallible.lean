import Mathlib.Init

/-! Programs over a state that can stop with an error. The state reached is
kept either way, so a postcondition speaks about both endings. `Ends` is the
weakest precondition of the two; its rules follow the shape of a program. -/
namespace EnergyDisplay

/-- A program over the state `σ` that ends with a value or with an error. -/
def Fallible (σ ε α : Type) : Type := σ → Except ε α × σ

namespace Fallible

variable {σ ε α β : Type}

instance : Monad (Fallible σ ε) where
  pure value := fun state => (.ok value, state)
  bind first rest := fun state =>
    match first state with
    | (.ok value, after) => rest value after
    | (.error error, after) => (.error error, after)

def throw (error : ε) : Fallible σ ε α := fun state => (.error error, state)

def get : Fallible σ ε σ := fun state => (.ok state, state)

def modify (change : σ → σ) : Fallible σ ε Unit := fun state => (.ok (), change state)

/-- Run a program, giving its error another form. -/
def mapError (form : ε → ε) (program : Fallible σ ε α) : Fallible σ ε α := fun state =>
  match program state with
  | (.ok value, after) => (.ok value, after)
  | (.error error, after) => (.error (form error), after)

instance : LawfulMonad (Fallible σ ε) := LawfulMonad.mk' _
  (fun program => by
    funext state
    simp only [Functor.map]
    rcases program state with ⟨outcome, after⟩
    cases outcome <;> rfl)
  (fun _ _ => rfl)
  (fun program _ _ => by
    funext state
    simp only [bind]
    rcases program state with ⟨outcome, after⟩
    cases outcome <;> rfl)

theorem ite_bind {condition : Prop} [Decidable condition] (program other : Fallible σ ε α)
    (rest : α → Fallible σ ε β) :
    (if condition then program else other) >>= rest =
      if condition then program >>= rest else other >>= rest := by
  split <;> rfl

@[simp] theorem throw_bind (error : ε) (rest : α → Fallible σ ε β) :
    (throw error : Fallible σ ε α) >>= rest = throw error := rfl

/-- From `state`, the program ends in `post` with a value or in `fail` with an
error. -/
def Ends (program : Fallible σ ε α) (state : σ) (post : α → σ → Prop) (fail : ε → σ → Prop) : Prop :=
  match program state with
  | (.ok value, after) => post value after
  | (.error error, after) => fail error after

section Rules

variable {program : Fallible σ ε α} {state : σ} {post post' : α → σ → Prop} {fail fail' : ε → σ → Prop}

@[simp] theorem ends_pure {value : α} :
    Ends (pure value : Fallible σ ε α) state post fail ↔ post value state := Iff.rfl

@[simp] theorem ends_throw {error : ε} :
    Ends (throw error : Fallible σ ε α) state post fail ↔ fail error state := Iff.rfl

@[simp] theorem ends_get {post : σ → σ → Prop} :
    Ends (get : Fallible σ ε σ) state post fail ↔ post state state := Iff.rfl

@[simp] theorem ends_modify {change : σ → σ} {post : Unit → σ → Prop} :
    Ends (modify change : Fallible σ ε Unit) state post fail ↔ post () (change state) := Iff.rfl

@[simp] theorem ends_bind {rest : α → Fallible σ ε β} {post : β → σ → Prop} :
    Ends (program >>= rest) state post fail ↔
      Ends program state (fun value after => Ends (rest value) after post fail) fail := by
  simp only [Ends, bind]
  rcases program state with ⟨outcome, after⟩
  cases outcome <;> rfl

@[simp] theorem ends_mapError {form : ε → ε} :
    Ends (mapError form program) state post fail ↔
      Ends program state post (fun error after => fail (form error) after) := by
  simp only [Ends, mapError]
  rcases program state with ⟨outcome, after⟩
  cases outcome <;> rfl

theorem ends_ite {condition : Prop} [Decidable condition] {other : Fallible σ ε α} :
    Ends (if condition then program else other) state post fail ↔
      (condition → Ends program state post fail) ∧ (¬ condition → Ends other state post fail) := by
  by_cases holds : condition <;> simp [holds]

theorem Ends.of_ok (ends : Ends program state post fail) {value : α} {after : σ}
    (outcome : program state = (.ok value, after)) : post value after := by
  rw [Ends, outcome] at ends
  exact ends

theorem Ends.of_error (ends : Ends program state post fail) {error : ε} {after : σ}
    (outcome : program state = (.error error, after)) : fail error after := by
  rw [Ends, outcome] at ends
  exact ends

/-- The rule of consequence: cite a specification, use what it gives. -/
theorem Ends.mono (ends : Ends program state post fail)
    (value : ∀ result after, post result after → post' result after)
    (error : ∀ problem after, fail problem after → fail' problem after) :
    Ends program state post' fail' := by
  simp only [Ends] at ends ⊢
  rcases outcome : program state with ⟨result, after⟩
  rw [outcome] at ends
  cases result with
  | ok result => exact value result after ends
  | error problem => exact error problem after ends

/-- Two specifications hold together. -/
theorem Ends.and (ends : Ends program state post fail) (ends' : Ends program state post' fail') :
    Ends program state (fun value after => post value after ∧ post' value after)
      fun error after => fail error after ∧ fail' error after := by
  simp only [Ends] at ends ends' ⊢
  rcases outcome : program state with ⟨result, after⟩
  rw [outcome] at ends ends'
  cases result with
  | ok result => exact ⟨ends, ends'⟩
  | error problem => exact ⟨ends, ends'⟩

/-- The rule of a loop, whose invariant speaks of the items taken so far. -/
theorem ends_forM {items : List β} {body : β → Fallible σ ε Unit} {inv : List β → σ → Prop}
    (step : ∀ before item state, item ∈ items → inv before state →
      Ends (body item) state (fun _ after => inv (before ++ [item]) after) fail)
    (start : inv [] state) : Ends (items.forM body) state (fun _ after => inv items after) fail := by
  have general : ∀ (rest before : List β) (state : σ), rest ⊆ items → inv before state →
      Ends (rest.forM body) state (fun _ after => inv (before ++ rest) after) fail := by
    intro rest
    induction rest with
    | nil =>
      intro before state _ holds
      rw [List.append_nil]
      exact holds
    | cons item rest ih =>
      intro before state inside holds
      show Ends (body item >>= fun _ => rest.forM body) _ _ _
      rw [ends_bind]
      refine (step before item state (inside List.mem_cons_self) holds).mono ?_ fun _ _ failed => failed
      intro _ middle kept
      have others := ih (before ++ [item]) middle (fun _ member => inside (List.mem_cons_of_mem _ member)) kept
      rwa [List.append_assoc, List.singleton_append] at others
  exact general items [] state (fun _ member => member) start

end Rules

/-! ## Frames -/

/-- The program neither reads nor changes what `update` changes. -/
def Commutes (update : σ → σ) (program : Fallible σ ε α) : Prop :=
  ∀ state, program (update state) = ((program state).1, update (program state).2)

section Frames

variable {update : σ → σ} {program : Fallible σ ε α}

theorem commutes_pure (value : α) : Commutes update (pure value : Fallible σ ε α) := fun _ => rfl

theorem commutes_throw (error : ε) : Commutes update (throw error : Fallible σ ε α) := fun _ => rfl

theorem commutes_modify {change : σ → σ} (apart : ∀ state, change (update state) = update (change state)) :
    Commutes update (modify change : Fallible σ ε Unit) := fun state => by
  simp only [modify, apart]

theorem Commutes.bind {rest : α → Fallible σ ε β} (first : Commutes update program)
    (others : ∀ value, Commutes update (rest value)) : Commutes update (program >>= rest) := fun state => by
  simp only [Bind.bind, first state]
  rcases program state with ⟨outcome, after⟩
  cases outcome with
  | ok value => exact others value after
  | error error => rfl

/-- What is read of the state does not depend on what `update` changes. -/
theorem commutes_get_bind {rest : σ → Fallible σ ε β} (blind : ∀ state, rest (update state) = rest state)
    (others : ∀ state, Commutes update (rest state)) : Commutes update (get >>= rest) := fun state => by
  show rest (update state) (update state) = _
  rw [blind]
  exact others state state

theorem commutes_ite {condition : Prop} [Decidable condition] {other : Fallible σ ε α}
    (first : Commutes update program) (second : Commutes update other) :
    Commutes update (if condition then program else other) := by
  split
  · exact first
  · exact second

end Frames

/-! ## Agreement -/

/-- Where the first program ends with a value, so does the second, in the same
state. -/
def Agrees (first second : Fallible σ ε α) : Prop :=
  ∀ state value after, first state = (.ok value, after) → second state = (.ok value, after)

section Agreement

variable {first second : Fallible σ ε α}

theorem agrees_refl (program : Fallible σ ε α) : Agrees program program := fun _ _ _ ends => ends

theorem agrees_throw (error : ε) : Agrees (throw error) second := fun _ _ _ ends => nomatch ends

theorem Agrees.bind {rest rest' : α → Fallible σ ε β} (agrees : Agrees first second)
    (others : ∀ value, Agrees (rest value) (rest' value)) : Agrees (first >>= rest) (second >>= rest') := by
  intro state value after ends
  simp only [Bind.bind] at ends ⊢
  rcases outcome : first state with ⟨_ | middle, between⟩
  · rw [outcome] at ends
    cases ends
  · rw [outcome] at ends
    rw [agrees state middle between outcome]
    exact others middle between value after ends

theorem agrees_ite {condition : Prop} [Decidable condition] {first' second' : Fallible σ ε α}
    (agrees : condition → Agrees first second) (agrees' : ¬ condition → Agrees first' second') :
    Agrees (if condition then first else first') (if condition then second else second') := by
  split
  case isTrue holds => exact agrees holds
  case isFalse fails => exact agrees' fails

theorem agrees_forM {items : List β} {body body' : β → Fallible σ ε Unit}
    (each : ∀ item, Agrees (body item) (body' item)) : Agrees (items.forM body) (items.forM body') := by
  induction items with
  | nil => exact agrees_refl _
  | cons item rest ih => exact (each item).bind fun _ => ih

end Agreement

/-! ## Invariants -/

/-- The program keeps the invariant however it ends, and what it gives is as
promised. -/
def Maintains (invariant : σ → Prop) (program : Fallible σ ε α) (gives : α → Prop) : Prop :=
  ∀ state, invariant state →
    Ends program state (fun value after => invariant after ∧ gives value) fun _ after => invariant after

section Invariants

variable {invariant : σ → Prop} {program : Fallible σ ε α} {gives : α → Prop} {gives' : β → Prop}

/-- The rule of consequence for an invariant. -/
theorem ends_of_maintains {state : σ} {post : α → σ → Prop} {fail : ε → σ → Prop} (invariant : σ → Prop)
    (maintains : Maintains invariant program gives) (holds : invariant state)
    (value : ∀ result after, invariant after → gives result → post result after)
    (error : ∀ problem after, invariant after → fail problem after) : Ends program state post fail :=
  (maintains state holds).mono (fun result after both => value result after both.1 both.2) error

theorem maintains_pure {value : α} (given : gives value) :
    Maintains invariant (pure value : Fallible σ ε α) gives := fun _ holds => ⟨holds, given⟩

theorem maintains_throw (error : ε) : Maintains invariant (throw error : Fallible σ ε α) gives :=
  fun _ holds => holds

theorem maintains_get : Maintains invariant (get : Fallible σ ε σ) invariant := fun _ holds => ⟨holds, holds⟩

theorem maintains_modify {change : σ → σ} (kept : ∀ state, invariant state → invariant (change state)) :
    Maintains invariant (modify change : Fallible σ ε Unit) fun _ => True :=
  fun state holds => ⟨kept state holds, trivial⟩

theorem Maintains.bind {rest : α → Fallible σ ε β} (first : Maintains invariant program gives)
    (others : ∀ value, gives value → Maintains invariant (rest value) gives') :
    Maintains invariant (program >>= rest) gives' := by
  intro state holds
  rw [ends_bind]
  refine (first state holds).mono ?_ fun _ _ kept => kept
  rintro value after ⟨kept, given⟩
  exact others value given after kept

theorem maintains_ite {condition : Prop} [Decidable condition] {other : Fallible σ ε α}
    (first : condition → Maintains invariant program gives)
    (second : ¬ condition → Maintains invariant other gives) :
    Maintains invariant (if condition then program else other) gives := by
  split
  case isTrue holds => exact first holds
  case isFalse fails => exact second fails

theorem Maintains.mono {gives' : α → Prop} (maintains : Maintains invariant program gives)
    (implies : ∀ value, gives value → gives' value) : Maintains invariant program gives' := by
  intro state holds
  refine (maintains state holds).mono ?_ fun _ _ kept => kept
  rintro value after ⟨kept, given⟩
  exact ⟨kept, implies value given⟩

end Invariants

end Fallible

end EnergyDisplay

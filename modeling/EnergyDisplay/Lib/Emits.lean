import EnergyDisplay.Lib.Fallible
import Mathlib.Data.List.Basic

/-! Programs that only add to a list of what has happened. `Emits` bounds what a
program adds and how it stops, `Adds` says what it adds to the letter, `Reports`
that it cannot come to an end without a certain entry, `Stops` that it does not
come to an end; the rules of all four follow the shape of a program. -/
namespace EnergyDisplay.Fallible

variable {ε χ α β : Type} {event event' : ε → Prop} {stopped stopped' : χ → Prop}
  {program : Fallible (List ε) χ α} {rest : α → Fallible (List ε) χ β}

/-- Whatever the program adds satisfies `event`, and `stopped` whatever stops it. -/
def Emits (event : ε → Prop) (stopped : χ → Prop) (program : Fallible (List ε) χ α) : Prop :=
  ∀ before, Ends program before
    (fun _ after => ∃ new, after = before ++ new ∧ ∀ each ∈ new, event each)
    (fun stop after => stopped stop ∧ ∃ new, after = before ++ new ∧ ∀ each ∈ new, event each)

theorem emits_pure (value : α) : Emits event stopped (pure value : Fallible (List ε) χ α) :=
  fun _ => ⟨[], by simp⟩

theorem emits_throw {stop : χ} (allowed : stopped stop) :
    Emits event stopped (throw stop : Fallible (List ε) χ α) :=
  fun _ => ⟨allowed, [], by simp⟩

theorem emits_append {added : List ε} (allowed : ∀ each ∈ added, event each) :
    Emits event stopped (modify (· ++ added) : Fallible (List ε) χ Unit) :=
  fun _ => ⟨added, rfl, allowed⟩

theorem Emits.mono (emits : Emits event stopped program) (events : ∀ each, event each → event' each)
    (stops : ∀ stop, stopped stop → stopped' stop) : Emits event' stopped' program := fun before =>
  (emits before).mono
    (fun _ _ ⟨new, added, all⟩ => ⟨new, added, fun each member => events each (all each member)⟩)
    (fun stop _ ⟨ends, new, added, all⟩ =>
      ⟨stops stop ends, new, added, fun each member => events each (all each member)⟩)

theorem Emits.bind (first : Emits event stopped program) (second : ∀ value, Emits event stopped (rest value)) :
    Emits event stopped (program >>= rest) := by
  intro before
  rw [ends_bind]
  refine (first before).mono ?_ fun _ _ both => both
  rintro value _ ⟨new, rfl, all⟩
  refine (second value (before ++ new)).mono ?_ ?_
  · rintro _ _ ⟨more, rfl, others⟩
    exact ⟨new ++ more, List.append_assoc .., List.forall_mem_append.mpr ⟨all, others⟩⟩
  · rintro _ _ ⟨ends, more, rfl, others⟩
    exact ⟨ends, new ++ more, List.append_assoc .., List.forall_mem_append.mpr ⟨all, others⟩⟩

theorem Emits.ite {condition : Prop} [Decidable condition] {other : Fallible (List ε) χ α}
    (first : condition → Emits event stopped program) (second : ¬ condition → Emits event stopped other) :
    Emits event stopped (if condition then program else other) := by
  split
  case isTrue holds => exact first holds
  case isFalse fails => exact second fails

theorem emits_forM {items : List β} {body : β → Fallible (List ε) χ PUnit}
    (each : ∀ item ∈ items, Emits event stopped (body item)) : Emits event stopped (items.forM body) := by
  induction items with
  | nil => exact emits_pure _
  | cons item rest ih =>
    exact (each item List.mem_cons_self).bind fun _ =>
      ih fun other member => each other (List.mem_cons_of_mem _ member)

/-- What a program has added and how it stopped, from any start. -/
theorem Emits.outcome (emits : Emits event stopped program) (before : List ε) :
    (∃ new, (program before).2 = before ++ new ∧ ∀ each ∈ new, event each) ∧
      ∀ stop, (program before).1 = .error stop → stopped stop := by
  have ends := emits before
  rw [Ends] at ends
  split at ends
  case h_1 outcome => simpa [outcome] using ends
  case h_2 outcome => simpa [outcome] using ends.symm

theorem Emits.all (emits : Emits event stopped program) : ∀ each ∈ (program []).2, event each := by
  obtain ⟨⟨new, added, all⟩, _⟩ := emits.outcome []
  rw [added]
  exact all

/-- Nothing is taken back. -/
theorem Emits.grows (emits : Emits event stopped program) (before : List ε) :
    before <+: (program before).2 := by
  obtain ⟨⟨new, added, _⟩, _⟩ := emits.outcome before
  exact ⟨new, added.symm⟩

/-- The program comes to an end and adds just this. -/
def Adds (new : List ε) (program : Fallible (List ε) χ PUnit) : Prop :=
  ∀ before, Ends program before (fun _ after => after = before ++ new) fun _ _ => False

section Adds

variable {new more : List ε} {program rest : Fallible (List ε) χ PUnit}

theorem adds_pure : Adds [] (pure () : Fallible (List ε) χ PUnit) := fun before => (List.append_nil before).symm

theorem adds_append (new : List ε) : Adds new (modify (· ++ new) : Fallible (List ε) χ PUnit) := fun _ => rfl

theorem Adds.bind (first : Adds new program) (second : Adds more rest) :
    Adds (new ++ more) (program >>= fun _ => rest) := by
  intro before
  rw [ends_bind]
  refine (first before).mono ?_ fun _ _ => False.elim
  rintro _ _ rfl
  rw [← List.append_assoc]
  exact second (before ++ new)

theorem adds_forM {items : List β} {entries : β → List ε} {body : β → Fallible (List ε) χ PUnit}
    (each : ∀ item ∈ items, Adds (entries item) (body item)) : Adds (items.flatMap entries) (items.forM body) := by
  induction items with
  | nil => exact adds_pure
  | cons item rest ih =>
    rw [List.flatMap_cons]
    exact (each item List.mem_cons_self).bind (ih fun other member => each other (List.mem_cons_of_mem _ member))

theorem Adds.emits (adds : Adds new program) (allowed : ∀ each ∈ new, event each) :
    Emits event stopped program := fun before =>
  (adds before).mono (fun _ _ added => ⟨new, added, allowed⟩) fun _ _ => False.elim

theorem Adds.run (adds : Adds new program) (before : List ε) : program before = (.ok (), before ++ new) := by
  have ends := adds before
  rw [Ends] at ends
  split at ends
  · next outcome =>
    rw [outcome, ends]
  · exact ends.elim

end Adds

/-- The program stops in a way that is `tolerated`, or `entry` is among what has
happened. -/
def Reports (entry : ε) (tolerated : χ → Prop) (program : Fallible (List ε) χ α) : Prop :=
  ∀ before, Ends program before (fun _ after => entry ∈ after) (fun stop after => tolerated stop ∨ entry ∈ after)

variable {entry : ε} {tolerated : χ → Prop}

theorem Reports.bind_left (reports : Reports entry tolerated program)
    (grows : ∀ value, Emits (fun _ => True) (fun _ => True) (rest value)) :
    Reports entry tolerated (program >>= rest) := by
  intro before
  rw [ends_bind]
  refine (reports before).mono (fun value after here => ?_) fun _ _ either => either
  have kept : entry ∈ (rest value after).2 := ((grows value).grows after).subset here
  unfold Ends
  split
  case h_1 outcome => simpa [outcome] using kept
  case h_2 outcome => exact Or.inr (by simpa [outcome] using kept)

theorem Reports.bind_right (first : Emits event tolerated program)
    (reports : ∀ value, Reports entry tolerated (rest value)) : Reports entry tolerated (program >>= rest) := by
  intro before
  rw [ends_bind]
  exact (first before).mono (fun value after _ => reports value after) fun _ _ both => Or.inl both.1

/-- How a program that reports ends, from any start. -/
theorem Reports.outcome (reports : Reports entry tolerated program) (before : List ε) :
    entry ∈ (program before).2 ∨ ∃ stop, (program before).1 = .error stop ∧ tolerated stop := by
  have ends := reports before
  rw [Ends] at ends
  split at ends
  case h_1 outcome => exact Or.inl (by simpa [outcome] using ends)
  case h_2 stop after outcome =>
    rcases ends with allowed | inside
    · exact Or.inr ⟨stop, by rw [outcome], allowed⟩
    · exact Or.inl (by simpa [outcome] using inside)

/-- The program never ends but in this way. -/
def Stops (stop : χ) (program : Fallible (List ε) χ α) : Prop :=
  ∀ before, Ends program before (fun _ _ => False) (fun other _ => other = stop)

variable {stop : χ}

theorem Stops.bind_left (stops : Stops stop program) : Stops stop (program >>= rest) := by
  intro before
  rw [ends_bind]
  exact (stops before).mono (fun _ _ => False.elim) fun _ _ same => same

theorem Stops.bind_right (first : Emits event (· = stop) program) (stops : ∀ value, Stops stop (rest value)) :
    Stops stop (program >>= rest) := by
  intro before
  rw [ends_bind]
  exact (first before).mono (fun value after _ => stops value after) fun _ _ both => both.1

theorem Stops.outcome (stops : Stops stop program) (before : List ε) : (program before).1 = .error stop := by
  have ends := stops before
  rw [Ends] at ends
  split at ends
  case h_1 => exact ends.elim
  case h_2 outcome => rw [outcome, ends]

end EnergyDisplay.Fallible

import WallClock.Instant
import Mathlib.Data.List.Induction

/-!
Histories of changes to keyed values. A key has the value that it was last set to, unless something was
done to the key since then; `entries` reckons that from the first change on.
-/

namespace WallClock.Store

/-- A change to the value under a key. -/
inductive Change where
  | set (now : Instant) (key value : String)
  | remove (key : String)

/-- The key whose value is changed. -/
def Change.key : Change → String
  | set _ key _ => key
  | remove key => key

/-- The last of the changes to the key set this value at the moment `now`. -/
def LastSet (changes : List Change) (key value : String) (now : Instant) : Prop :=
  ∃ before after, changes = before ++ .set now key value :: after ∧ ∀ c ∈ after, c.key ≠ key

/-- The last of the changes to the key removed what was under it. -/
def LastRemoved (changes : List Change) (key : String) : Prop :=
  ∃ before after, changes = before ++ .remove key :: after ∧ ∀ c ∈ after, c.key ≠ key

/-- In a longer list the last element that counts is the new one, or, if that does not matter, the one
that it was before. -/
theorem exists_last_concat_iff {α : Type} {Counts Passes : α → Prop} {l : List α} {a : α} :
    (∃ before x after, l ++ [a] = before ++ x :: after ∧ Counts x ∧ ∀ y ∈ after, Passes y) ↔
      Counts a ∨ Passes a ∧
        ∃ before x after, l = before ++ x :: after ∧ Counts x ∧ ∀ y ∈ after, Passes y := by
  constructor
  · rintro ⟨before, x, after, heq, hx, hafter⟩
    -- What comes after `x` ends in `a`, if it is not `x` itself.
    rcases List.eq_nil_or_concat after with rfl | ⟨rest, last, rfl⟩
    · obtain ⟨_, hlast⟩ := List.append_inj' heq rfl
      rw [(List.cons.inj hlast).1]
      exact Or.inl hx
    · rw [List.concat_eq_append] at heq hafter
      rw [← List.cons_append, ← List.append_assoc] at heq
      obtain ⟨rfl, hlast⟩ := List.append_inj' heq rfl
      rw [(List.cons.inj hlast).1]
      refine Or.inr ⟨hafter last (List.mem_append_right rest List.mem_cons_self), before, x, rest, rfl,
        hx, ?_⟩
      exact fun y hy => hafter y (List.mem_append_left _ hy)
  · rintro (ha | ⟨ha, before, x, after, rfl, hx, hafter⟩)
    · exact ⟨l, a, [], rfl, ha, fun y hy => absurd hy List.not_mem_nil⟩
    · refine ⟨before, x, after ++ [a], by simp, hx, fun y hy => ?_⟩
      rcases List.mem_append.1 hy with hy | hy
      · exact hafter y hy
      · rwa [List.mem_singleton.1 hy]

theorem lastSet_iff {changes : List Change} {key value : String} {now : Instant} :
    LastSet changes key value now ↔
      ∃ before x after, changes = before ++ x :: after ∧ x = .set now key value ∧
        ∀ c ∈ after, c.key ≠ key := by
  constructor
  · rintro ⟨before, after, heq, hafter⟩
    exact ⟨before, _, after, heq, rfl, hafter⟩
  · rintro ⟨before, _, after, heq, rfl, hafter⟩
    exact ⟨before, after, heq, hafter⟩

/-- A change added at the end is the last one for its key. -/
theorem lastSet_concat_iff {changes : List Change} {change : Change} {key value : String}
    {now : Instant} : LastSet (changes ++ [change]) key value now ↔
      change = .set now key value ∨ change.key ≠ key ∧ LastSet changes key value now := by
  rw [lastSet_iff, lastSet_iff]
  exact exists_last_concat_iff

/-- Values and the times at which they were written, by key. -/
abbrev Entries := String → Option (String × Instant)

namespace Entries

def empty : Entries := fun _ => none

def apply (e : Entries) : Change → Entries
  | .set now key value => fun k => if k = key then some (value, now) else e k
  | .remove key => fun k => if k = key then none else e k

@[simp] theorem apply_set (e : Entries) (now : Instant) (key value k : String) :
    e.apply (.set now key value) k = if k = key then some (value, now) else e k :=
  rfl

@[simp] theorem apply_remove (e : Entries) (key k : String) :
    e.apply (.remove key) k = if k = key then none else e k :=
  rfl

def after (changes : List Change) : Entries :=
  changes.foldl apply empty

theorem after_concat (changes : List Change) (change : Change) :
    after (changes ++ [change]) = (after changes).apply change := by
  rw [after, after, List.foldl_append, List.foldl_cons, List.foldl_nil]

theorem apply_of_ne {e : Entries} {change : Change} {key : String} (h : change.key ≠ key) :
    e.apply change key = e key := by
  cases change with
  | set now k value => exact if_neg (Ne.symm h)
  | remove k => exact if_neg (Ne.symm h)

/-- What is found under a key is what it was last set to. -/
theorem after_eq_some_iff {changes : List Change} {key value : String} {now : Instant} :
    after changes key = some (value, now) ↔ LastSet changes key value now := by
  induction changes using List.reverseRecOn with
  | nil =>
    constructor
    · intro h
      cases h
    · rintro ⟨before, rest, h, _⟩
      exact absurd h (by simp)
  | append_singleton changes change ih =>
    rw [after_concat, lastSet_concat_iff, ← ih]
    by_cases hkey : change.key = key
    · subst hkey
      cases change with
      | set moment key text => simp [Change.key, and_comm]
      | remove key => simp [Change.key]
    · rw [apply_of_ne hkey]
      constructor
      · exact fun h => Or.inr ⟨hkey, h⟩
      · rintro (rfl | h)
        · exact absurd rfl hkey
        · exact h.2

/-- What is found under a key is what the changes set it to last, if it was not removed since then. -/
theorem after_cases (changes : List Change) (key : String) :
    (∃ value now, LastSet changes key value now ∧ after changes key = some (value, now)) ∨
      (∀ value now, ¬ LastSet changes key value now) ∧ after changes key = none := by
  cases hentry : after changes key with
  | none =>
    refine Or.inr ⟨fun value now hlast => ?_, rfl⟩
    rw [← after_eq_some_iff, hentry] at hlast
    cases hlast
  | some entry => exact Or.inl ⟨entry.1, entry.2, after_eq_some_iff.1 hentry, rfl⟩

end Entries

/-- One change is the last to set a key. -/
theorem LastSet.value_unique {changes : List Change} {key value value' : String} {now now' : Instant}
    (h : LastSet changes key value now) (h' : LastSet changes key value' now') : value = value' := by
  rw [← Entries.after_eq_some_iff] at h h'
  rw [h] at h'
  cases h'
  rfl

end WallClock.Store

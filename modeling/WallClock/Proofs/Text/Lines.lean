import WallClock.Text.Case
import WallClock.Text.Parts

/-!
Rows put together from parts and taken apart again, and texts put together from lines.
-/

namespace WallClock.Text

/-! ### Parts -/

section

variable {α : Type} [DecidableEq α] {mark : α}

theorem partsFrom_append (part a b : List α) :
    partsFrom mark part (a ++ mark :: b) = partsFrom mark part a ++ partsFrom mark [] b := by
  induction a generalizing part with
  | nil =>
    change (if mark = mark then _ else _) = _
    rw [if_pos rfl]
    rfl
  | cons x a ih =>
    rw [List.cons_append, partsFrom, partsFrom]
    split
    · rw [ih, List.cons_append]
    · exact ih (x :: part)

theorem partsFrom_of_not_mem {s : List α} (h : mark ∉ s) (part : List α) :
    partsFrom mark part s = [part.reverse ++ s] := by
  induction s generalizing part with
  | nil => rw [partsFrom, List.append_nil]
  | cons x s ih =>
    rw [List.mem_cons, not_or] at h
    rw [partsFrom, if_neg (Ne.symm h.1), ih h.2, List.reverse_cons, List.append_assoc]
    rfl

theorem parts_append (a b : List α) : parts mark (a ++ mark :: b) = parts mark a ++ parts mark b :=
  partsFrom_append [] a b

theorem parts_of_not_mem {s : List α} (h : mark ∉ s) : parts mark s = [s] :=
  partsFrom_of_not_mem h []

end

/-! ### Lines -/

/-- The lines of a text, if each of them has its end. -/
def lines? (s : String) : Option (List String) :=
  let all := parts '\n' s.toList
  if all.getLast? = some [] then some (all.dropLast.map String.ofList) else none

theorem toList_join_ended (line : String) (lines : List String) :
    (String.join ((line :: lines).map (· ++ "\n"))).toList =
      line.toList ++ '\n' :: (String.join (lines.map (· ++ "\n"))).toList := by
  simp

/-- Lines that were joined with their ends are found again, with an empty part behind the last end. -/
theorem parts_ended {lines : List String} (h : ∀ line ∈ lines, '\n' ∉ line.toList) :
    parts '\n' (String.join (lines.map (· ++ "\n"))).toList = lines.map String.toList ++ [[]] := by
  induction lines with
  | nil => rfl
  | cons line lines ih =>
    obtain ⟨hline, hlines⟩ := List.forall_mem_cons.1 h
    rw [toList_join_ended, parts_append, parts_of_not_mem hline, ih hlines]
    rfl

/-- Lines without further ends in them are found again. -/
theorem lines?_ended {lines : List String} (h : ∀ line ∈ lines, '\n' ∉ line.toList) :
    lines? (String.join (lines.map (· ++ "\n"))) = some lines := by
  have hlines : (lines.map String.toList).map String.ofList = lines := by simp [Function.comp_def]
  rw [lines?, parts_ended h]
  simp [hlines]

/-! ### Signs -/

/-- A character of ASCII that is written as a sign or as a space. -/
def IsSign (c : Char) : Prop :=
  32 ≤ c.toNat ∧ c.toNat ≤ 126

instance : DecidablePred IsSign := fun c => inferInstanceAs (Decidable (32 ≤ c.toNat ∧ c.toNat ≤ 126))

/-- What a check of all characters says of each of them. -/
theorem forall_of_all {p : Char → Prop} [DecidablePred p] {s : List Char}
    (h : (s.all fun c => decide (p c)) = true) : ∀ c ∈ s, p c :=
  fun c hc => of_decide_eq_true (List.all_eq_true.1 h c hc)

theorem IsSign.ne_newline {c : Char} (h : IsSign c) : c ≠ '\n' := by
  rintro rfl
  exact absurd h (by decide)

theorem isSign_of_toLower {c : Char} (h : IsSign c.toLower) : IsSign c := by
  by_cases hletter : c.toNat < 65 ∨ 90 < c.toNat
  · rwa [toLower_eq_self hletter] at h
  · unfold IsSign
    omega

theorem isSign_of_isDigit {c : Char} (h : c.isDigit = true) : IsSign c := by
  have hdigit : 48 ≤ c.toNat ∧ c.toNat ≤ 57 := Char.isDigit_iff_toNat.1 h
  unfold IsSign
  omega

end WallClock.Text

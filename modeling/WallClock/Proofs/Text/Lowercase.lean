import Mathlib
import WallClock.Text.Case
import WallClock.Text.Lowercase

/-!
Lower case and ASCII. The lower case of a character beyond ASCII has a character beyond ASCII in it, but
for that of the Kelvin sign, which is `k`. So a text whose lower case is in ASCII and without a `k` was in
ASCII itself, and lower case has only changed the letters A to Z.
-/

namespace WallClock.Text

/-! ### Single characters -/

/-- A character that only ASCII can have in its lower case. -/
def IsPlain (c : Char) : Prop :=
  c.toNat < 0x80 ∧ c ≠ 'k'

instance (c : Char) : Decidable (IsPlain c) :=
  inferInstanceAs (Decidable (_ ∧ _))

/-- Whether the range is the letter whose lower case is `k`, or has its lower case beyond ASCII, in
one of the two rows in which characters lie. -/
def CapitalRange.IsFar (r : CapitalRange) : Prop :=
  r.first = r.last ∧ r.target = 'k'.toNat ∨
    0x80 ≤ r.target ∧ (r.lower r.last < 0xD800 ∨ 0xDFFF < r.target ∧ r.lower r.last < 0x110000)

instance (r : CapitalRange) : Decidable r.IsFar :=
  inferInstanceAs (Decidable (_ ∨ _))

/-- Of the capitals beyond ASCII only the sign of Kelvin has its lower case in ASCII. -/
theorem isFar_capitalRanges : ∀ r ∈ capitalRanges, r.IsFar := by
  decide +kernel

theorem CapitalRange.IsFar.not_isPlain {r : CapitalRange} (h : r.IsFar) {n : Nat}
    (hn : r.covers n = true) : ¬ IsPlain (Char.ofNat (r.lower n)) := by
  simp only [covers, Bool.and_eq_true, decide_eq_true_eq] at hn
  obtain ⟨⟨hfirst, hlast⟩, -⟩ := hn
  rintro ⟨hascii, hk⟩
  rcases h with ⟨hsingle, htarget⟩ | ⟨hfar, hvalid⟩
  · apply hk
    rw [lower, htarget, Nat.sub_eq_zero_of_le (hsingle ▸ hlast), Nat.zero_add, Char.ofNat_toNat]
  · unfold lower at hascii hvalid
    have hchar : (n - r.first + r.target).isValidChar := by
      unfold Nat.isValidChar
      omega
    rw [Char.toNat_ofNat, if_pos hchar] at hascii
    omega

theorem lowerOf_of_ascii {c : Char} (h : c.toNat < 0x80) : lowerOf c = [c.toLower] :=
  if_pos h

theorem exists_not_isPlain_lowerOf {c : Char} (h : 0x80 ≤ c.toNat) : ∃ d ∈ lowerOf c, ¬ IsPlain d := by
  rw [lowerOf, if_neg (Nat.not_lt.2 h)]
  split
  · exact ⟨'\u0307', by simp, by decide⟩
  · split
    · rename_i range hrange
      have hfar := isFar_capitalRanges range (List.mem_of_find?_eq_some hrange)
      have hcovers := List.find?_some hrange
      exact ⟨_, List.mem_singleton_self _, hfar.not_isPlain hcovers⟩
    · exact ⟨c, List.mem_singleton_self c, fun hc => absurd hc.1 (Nat.not_lt.2 h)⟩

/-- Wherever the character stands: both forms of the small sigma lie beyond ASCII. -/
theorem exists_not_isPlain_lowerBetween {c : Char} (h : 0x80 ≤ c.toNat) (before after : List Char) :
    ∃ d ∈ lowerBetween before c after, ¬ IsPlain d := by
  unfold lowerBetween
  split
  · refine ⟨_, List.mem_singleton_self _, ?_⟩
    split <;> decide
  · exact exists_not_isPlain_lowerOf h

theorem lowerBetween_of_ascii {c : Char} (h : c.toNat < 0x80) (before after : List Char) :
    lowerBetween before c after = [c.toLower] := by
  have hsigma : c ≠ 'Σ' := by
    rintro rfl
    exact absurd h (by decide)
  rw [lowerBetween, if_neg hsigma, lowerOf_of_ascii h]

/-! ### Texts -/

/-- Where the lower case can come from ASCII alone, it comes from the letters A to Z. -/
theorem lowercaseFrom_eq_iff {s t : List Char} (ht : ∀ c ∈ t, IsPlain c) (before : List Char) :
    lowercaseFrom before s = t ↔ fold s = t := by
  induction s generalizing before t with
  | nil => rfl
  | cons c s ih =>
    rw [lowercaseFrom, fold, List.map_cons]
    by_cases hc : c.toNat < 0x80
    · rw [lowerBetween_of_ascii hc, List.singleton_append]
      cases t with
      | nil => simp
      | cons d t =>
        rw [List.cons.injEq, List.cons.injEq, ih fun e he => ht e (List.mem_cons_of_mem d he)]
        rfl
    · have hfar := Nat.not_lt.1 hc
      obtain ⟨d, hd, hplain⟩ := exists_not_isPlain_lowerBetween hfar before s
      constructor
      · intro heq
        exact absurd (ht d (heq ▸ List.mem_append_left _ hd)) hplain
      · intro heq
        rw [toLower_eq_self (by omega)] at heq
        exact absurd (ht c (heq ▸ List.mem_cons_self)).1 hc

/-- A text has a lower case of plain characters exactly if it is that but for the case of ASCII letters. -/
theorem lowercase_eq_iff {s t : List Char} (ht : ∀ c ∈ t, IsPlain c) : lowercase s = t ↔ fold s = t :=
  lowercaseFrom_eq_iff ht []

end WallClock.Text

import WallClock.Proofs.Text.Numeral

/-!
The shape of a text: which of its characters are digits, and what the others are.
-/

namespace WallClock.Text

/-- Whether the text has the shape of the pattern, in which `d` stands for a digit and any other
character for itself. -/
def hasShape : (pattern s : List Char) → Bool
  | [], [] => true
  | p :: pattern, c :: s => (if p = 'd' then c.isDigit else c = p) && hasShape pattern s
  | _, _ => false

theorem length_of_hasShape {pattern s : List Char} (h : hasShape pattern s = true) :
    s.length = pattern.length := by
  induction pattern generalizing s with
  | nil =>
    cases s with
    | nil => rfl
    | cons c s => cases h
  | cons p pattern ih =>
    cases s with
    | nil => cases h
    | cons c s =>
      rw [hasShape, Bool.and_eq_true] at h
      rw [List.length_cons, List.length_cons, ih h.2]

theorem hasShape_append {pattern pattern' s s' : List Char} (h : hasShape pattern s = true)
    (h' : hasShape pattern' s' = true) : hasShape (pattern ++ pattern') (s ++ s') = true := by
  induction pattern generalizing s with
  | nil =>
    cases s with
    | nil => exact h'
    | cons c s => cases h
  | cons p pattern ih =>
    cases s with
    | nil => cases h
    | cons c s =>
      rw [hasShape, Bool.and_eq_true] at h
      rw [List.cons_append, List.cons_append, hasShape, Bool.and_eq_true]
      exact ⟨h.1, ih h.2⟩

theorem hasShape_mark {mark : Char} {pattern s : List Char} (hmark : mark ≠ 'd')
    (h : hasShape pattern s = true) : hasShape (mark :: pattern) (mark :: s) = true := by
  rw [hasShape, if_neg hmark, Bool.and_eq_true]
  exact ⟨decide_eq_true rfl, h⟩

theorem hasShape_digits {s : List Char} (h : ∀ c ∈ s, c.isDigit = true) :
    hasShape (List.replicate s.length 'd') s = true := by
  induction s with
  | nil => rfl
  | cons c s ih =>
    rw [List.length_cons, List.replicate_succ, hasShape, if_pos rfl, Bool.and_eq_true]
    exact ⟨h c List.mem_cons_self, ih fun d hd => h d (List.mem_cons_of_mem c hd)⟩

theorem hasShape_padded (width n : Nat) :
    hasShape (List.replicate width 'd') (padded width n) = true := by
  have h := hasShape_digits (s := padded width n) fun _ => isDigit_of_mem_padded
  rwa [length_padded] at h

theorem isAscii_of_isDigit {c : Char} (h : c.isDigit = true) : c.toNat < 128 := by
  have hle : c.toNat ≤ 57 := by
    simp only [Char.isDigit, Bool.and_eq_true, decide_eq_true_eq, ge_iff_le] at h
    exact h.2
  omega

/-- A shape of ASCII characters admits ASCII characters only. -/
theorem isAscii_of_hasShape {pattern s : List Char}
    (hpattern : (pattern.all fun p => decide (p.toNat < 128)) = true)
    (h : hasShape pattern s = true) : ∀ c ∈ s, c.toNat < 128 := by
  induction pattern generalizing s with
  | nil =>
    cases s with
    | nil => exact fun c hc => absurd hc List.not_mem_nil
    | cons c s => cases h
  | cons p pattern ih =>
    cases s with
    | nil => cases h
    | cons c s =>
      rw [hasShape, Bool.and_eq_true] at h
      rw [List.all_cons, Bool.and_eq_true, decide_eq_true_eq] at hpattern
      intro d hd
      rcases List.mem_cons.1 hd with rfl | hd
      · split at h
        · exact isAscii_of_isDigit h.1
        · rw [decide_eq_true_eq] at h
          rw [h.1]
          exact hpattern.1
      · exact ih hpattern.2 h.2 d hd

theorem utf8ByteSize_of_ascii {s : List Char} (h : ∀ c ∈ s, c.toNat < 128) :
    (String.ofList s).utf8ByteSize = s.length := by
  induction s with
  | nil => rfl
  | cons c s ih =>
    have hc : c.utf8Size = 1 := by
      rw [Char.utf8Size_eq_one_iff, UInt32.le_iff_toNat_le]
      exact Nat.le_of_lt_succ (h c List.mem_cons_self)
    rw [String.ofList_cons, String.utf8ByteSize_append, String.utf8ByteSize_singleton, hc,
      ih fun d hd => h d (List.mem_cons_of_mem c hd), List.length_cons, Nat.add_comm]

end WallClock.Text

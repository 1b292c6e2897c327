import WallClock.Text.Blank

/-!
Texts that trimming leaves as they are.
-/

namespace WallClock.Text

theorem isBlank_of_isDigit {c : Char} (h : c.isDigit = true) : isBlank c = false := by
  simp only [Char.isDigit, Bool.and_eq_true, decide_eq_true_eq, ge_iff_le, UInt32.le_iff_toNat_le] at h
  have hlow : 48 ≤ c.toNat := h.1
  have hhigh : c.toNat ≤ 57 := h.2
  simp [isBlank]
  omega

theorem dropWhile_isBlank {s : List Char} (h : ∀ c ∈ s.head?, isBlank c = false) :
    s.dropWhile isBlank = s := by
  cases s with
  | nil => rfl
  | cons c s => exact List.dropWhile_cons_of_neg (by simp [h c rfl])

/-- A text that neither begins nor ends with a blank is not changed. -/
theorem trim_eq_self {s : List Char} (hfirst : ∀ c ∈ s.head?, isBlank c = false)
    (hlast : ∀ c ∈ s.getLast?, isBlank c = false) : trim s = s := by
  rw [trim, dropWhile_isBlank hfirst, dropWhile_isBlank (by rwa [List.head?_reverse]),
    List.reverse_reverse]

/-- Blanks in front are taken off whatever follows. -/
theorem dropWhile_append_blanks {blanks : List Char} (h : ∀ c ∈ blanks, isBlank c = true)
    (s : List Char) : (blanks ++ s).dropWhile isBlank = s.dropWhile isBlank := by
  induction blanks with
  | nil => rfl
  | cons c blanks ih =>
    rw [List.cons_append, List.dropWhile_cons_of_pos (h c List.mem_cons_self)]
    exact ih fun d hd => h d (List.mem_cons_of_mem c hd)

/-- Blanks around a text that has none at its own ends are taken off. -/
theorem trim_between {before s after : List Char} (hbefore : ∀ c ∈ before, isBlank c = true)
    (hafter : ∀ c ∈ after, isBlank c = true) (hne : s ≠ [])
    (hfirst : ∀ c ∈ s.head?, isBlank c = false) (hlast : ∀ c ∈ s.getLast?, isBlank c = false) :
    trim (before ++ (s ++ after)) = s := by
  have hfirst' : ∀ c ∈ (s ++ after).head?, isBlank c = false := by
    cases s with
    | nil => exact absurd rfl hne
    | cons c s => exact hfirst
  have hafter' : ∀ c ∈ after.reverse, isBlank c = true := by
    intro c hc
    exact hafter c (List.mem_reverse.1 hc)
  calc trim (before ++ (s ++ after))
      = ((s ++ after).reverse.dropWhile isBlank).reverse := by
        rw [trim, dropWhile_append_blanks hbefore, dropWhile_isBlank hfirst']
    _ = (s.reverse.dropWhile isBlank).reverse := by
        rw [List.reverse_append, dropWhile_append_blanks hafter']
    _ = s := by
        rw [dropWhile_isBlank (by rwa [List.head?_reverse]), List.reverse_reverse]

end WallClock.Text

import WallClock.Proofs.Text.Trim

/-!
Texts without blanks. A reader that takes characters off the front of a text, none of them a blank, leaves
a rest; readers that follow each other leave what the last of them leaves.
-/

namespace WallClock.Text

def Solid (s : List Char) : Prop :=
  ∀ c ∈ s, isBlank c = false

@[simp] theorem solid_nil : Solid [] :=
  fun _ hc => absurd hc List.not_mem_nil

@[simp] theorem solid_cons {c : Char} {s : List Char} :
    Solid (c :: s) ↔ isBlank c = false ∧ Solid s :=
  List.forall_mem_cons

@[simp] theorem solid_append {s t : List Char} : Solid (s ++ t) ↔ Solid s ∧ Solid t :=
  List.forall_mem_append

/-- The rest is what is left of the text when characters that are no blanks are taken off its front. -/
def Leaves (s rest : List Char) : Prop :=
  ∃ front, Solid front ∧ s = front ++ rest

namespace Leaves

variable {s t rest : List Char}

theorem refl (s : List Char) : Leaves s s :=
  ⟨[], solid_nil, rfl⟩

theorem trans (h : Leaves s t) (h' : Leaves t rest) : Leaves s rest := by
  obtain ⟨front, hfront, rfl⟩ := h
  obtain ⟨middle, hmiddle, rfl⟩ := h'
  exact ⟨front ++ middle, solid_append.2 ⟨hfront, hmiddle⟩, (List.append_assoc _ _ _).symm⟩

theorem cons {c : Char} (hc : isBlank c = false) (h : Leaves s rest) : Leaves (c :: s) rest := by
  obtain ⟨front, hfront, rfl⟩ := h
  exact ⟨c :: front, solid_cons.2 ⟨hc, hfront⟩, rfl⟩

/-- A text of which a text without blanks is left has none itself. -/
theorem solid (h : Leaves s rest) (hrest : Solid rest) : Solid s := by
  obtain ⟨front, hfront, rfl⟩ := h
  exact solid_append.2 ⟨hfront, hrest⟩

end Leaves

/-! ### Trimming again -/

theorem isBlank_head?_dropWhile (s : List Char) :
    ∀ c ∈ (s.dropWhile isBlank).head?, isBlank c = false := by
  intro c hc
  have hdrop := List.head?_dropWhile_not isBlank s
  rw [Option.mem_def.1 hc] at hdrop
  simpa using hdrop

theorem isBlank_head?_trim (s : List Char) : ∀ c ∈ (trim s).head?, isBlank c = false := by
  intro c hc
  -- What is dropped at the end leaves a prefix of what is left at the front.
  obtain ⟨tail, htail⟩ : trim s <+: s.dropWhile isBlank :=
    List.reverse_suffix.1 (by
      rw [trim, List.reverse_reverse]
      exact List.dropWhile_suffix isBlank)
  apply isBlank_head?_dropWhile s
  rw [← htail]
  cases hs : trim s with
  | nil =>
    rw [hs] at hc
    cases hc
  | cons d t =>
    rw [hs] at hc
    exact hc

theorem isBlank_getLast?_trim (s : List Char) : ∀ c ∈ (trim s).getLast?, isBlank c = false := by
  rw [trim, List.getLast?_reverse]
  exact isBlank_head?_dropWhile _

@[simp] theorem trim_trim (s : List Char) : trim (trim s) = trim s :=
  trim_eq_self (isBlank_head?_trim s) (isBlank_getLast?_trim s)

end WallClock.Text

import WallClock.Proofs.Text.Lines
import WallClock.Proofs.Zone.Lookup
import WallClock.Selector.Listing

/-!
The lines of a listing. Whatever is filtered, the selected name is among the names of a selector, and has a
line of its own that is marked.
-/

namespace WallClock.Selector

open Text

/-! ### Names on offer -/

theorem mem_insert {name x : String} {names : List String} :
    x ∈ insert name names ↔ x = name ∨ x ∈ names := by
  induction names with
  | nil => rw [insert, List.mem_singleton, or_iff_left List.not_mem_nil]
  | cons first rest ih =>
    rw [insert]
    split
    · exact List.mem_cons
    · split
      · rename_i hfirst
        rw [hfirst, List.mem_cons, ← or_assoc, or_self]
      · rw [List.mem_cons, ih, List.mem_cons, or_left_comm]

theorem mem_ordered {x : String} {names : List String} : x ∈ ordered names ↔ x ∈ names := by
  induction names with
  | nil => exact Iff.rfl
  | cons name names ih =>
    change x ∈ insert name (ordered names) ↔ _
    rw [mem_insert, ih, List.mem_cons]

/-- The selector as `zone list` uses it. -/
def restricted (s : Selector) : Option String → Selector
  | some needle => s.filtered needle
  | none => s

/-- The selected name is on offer, and the names on offer are written in signs other than spaces and
asterisks. -/
structure Clear (s : Selector) : Prop where
  selected : s.selected ∈ s.zones
  names : ∀ name ∈ s.zones, ∀ c ∈ name.toList, IsSign c ∧ c ≠ ' ' ∧ c ≠ '*'

/-- The names of the directory can stand in a listing. -/
theorem clear_ofDetector [Zone.Database] {detector : Detector} {zone : Zone}
    (h : detector.zones = some Zone.names) (hzone : zone.Listed) : (ofDetector detector zone).Clear := by
  constructor
  · exact mem_ordered.2 List.mem_cons_self
  · intro name hname c hc
    have hname : name ∈ zone.name :: (offered detector).1 := mem_ordered.1 hname
    rw [offered, h] at hname
    rcases List.mem_cons.1 hname with rfl | hname
    · obtain ⟨hsign, hstar⟩ := Zone.isSign_name hzone c hc
      refine ⟨hsign, ?_, hstar⟩
      rintro rfl
      exact absurd (Zone.isBlank_name hzone ' ' hc) (by decide)
    · obtain ⟨hlow, hhigh, hstar⟩ := Zone.toNat_of_mem_names hname hc
      refine ⟨⟨by omega, hhigh⟩, ?_, hstar⟩
      rintro rfl
      exact absurd hlow (by decide)

/-- A filter brings in no other names. -/
theorem Clear.restricted {s : Selector} (h : s.Clear) (filter : Option String) :
    (s.restricted filter).Clear := by
  cases filter with
  | none => exact h
  | some needle =>
    constructor
    · refine List.mem_filter.2 ⟨h.selected, ?_⟩
      rw [isSelected]
      exact Bool.or_eq_true_iff.2 (Or.inl (beq_self_eq_true s.selected))
    · exact fun name hname => h.names name (List.mem_filter.1 hname).1

theorem selected_restricted (s : Selector) (filter : Option String) :
    (s.restricted filter).selected = s.selected := by
  cases filter with
  | none => rfl
  | some needle => rfl

/-! ### Lines -/

/-- The heading over so many names. -/
def heading (size : Nat) : String :=
  "# Time zones (" ++ toString size ++ ")"

theorem listing_lines {s : Selector} (h : s.selected ∈ s.zones) :
    s.listing.lines = heading s.size ::
      ((if s.complete then [] else [incompleteNotice]) ++ "" :: s.zones.map s.entry) := by
  have hzones : s.zones.isEmpty = false := List.isEmpty_eq_false_iff.2 (List.ne_nil_of_mem h)
  rw [listing, isEmpty, hzones]
  rfl

theorem isSign_heading (size : Nat) : ∀ c ∈ (heading size).toList, IsSign c ∧ c ≠ '*' := by
  have hdigits : ∀ c ∈ (toString size).toList, IsSign c ∧ c ≠ '*' := by
    intro c hc
    rw [Nat.toString_eq_repr, Nat.toList_repr] at hc
    have hdigit := Nat.isDigit_of_mem_toDigits (by decide) (by decide) hc
    refine ⟨isSign_of_isDigit hdigit, ?_⟩
    rintro rfl
    cases hdigit
  simp only [heading, String.toList_append, List.forall_mem_append]
  exact ⟨⟨forall_of_all rfl, hdigits⟩, forall_of_all rfl⟩

/-- Whatever stands in the line of a name is a sign or stands in the name. -/
theorem isSign_or_mem_of_mem_entry {s : Selector} {name : String} {c : Char}
    (hc : c ∈ (s.entry name).toList) : IsSign c ∨ c ∈ name.toList := by
  have hbefore : ∀ c ∈ "* **".toList, IsSign c := forall_of_all rfl
  have hafter : ∀ c ∈ "** (selected)".toList, IsSign c := forall_of_all rfl
  have hbullet : ∀ c ∈ "* ".toList, IsSign c := forall_of_all rfl
  rw [entry] at hc
  split at hc
  · simp only [String.toList_append, List.mem_append] at hc
    rcases hc with (hc | hc) | hc
    · exact Or.inl (hbefore c hc)
    · exact Or.inr hc
    · exact Or.inl (hafter c hc)
  · simp only [String.toList_append, List.mem_append] at hc
    exact hc.imp_left (hbullet c)

/-- The lines that there can be in a listing. -/
theorem line_cases {s : Selector} {line : String} (h : line ∈ s.listing.lines) :
    line = "No zones found." ∨ line = heading s.size ∨ line = incompleteNotice ∨ line = "" ∨
      ∃ name ∈ s.zones, line = s.entry name := by
  rw [listing] at h
  dsimp only at h
  split at h
  · exact Or.inl (List.mem_singleton.1 h)
  · rcases List.mem_cons.1 h with hheading | h
    · exact Or.inr (Or.inl hheading)
    · rcases List.mem_append.1 h with hnotice | h
      · split at hnotice
        · exact absurd hnotice List.not_mem_nil
        · exact Or.inr (Or.inr (Or.inl (List.mem_singleton.1 hnotice)))
      · rcases List.mem_cons.1 h with hempty | hentry
        · exact Or.inr (Or.inr (Or.inr (Or.inl hempty)))
        · obtain ⟨name, hname, heq⟩ := List.mem_map.1 hentry
          exact Or.inr (Or.inr (Or.inr (Or.inr ⟨name, hname, heq.symm⟩)))

/-- Whatever stands in a listing is a sign or stands in one of the names. -/
theorem isSign_or_mem_of_mem_listing {s : Selector} {line : String} (hline : line ∈ s.listing.lines)
    {c : Char} (hc : c ∈ line.toList) : IsSign c ∨ ∃ name ∈ s.zones, c ∈ name.toList := by
  have hnone : ∀ c ∈ "No zones found.".toList, IsSign c := forall_of_all rfl
  have hnotice : ∀ c ∈ incompleteNotice.toList, IsSign c := forall_of_all rfl
  rcases line_cases hline with rfl | rfl | rfl | rfl | ⟨name, hname, rfl⟩
  · exact Or.inl (hnone c hc)
  · exact Or.inl (isSign_heading s.size c hc).1
  · exact Or.inl (hnotice c hc)
  · exact absurd hc List.not_mem_nil
  · exact (isSign_or_mem_of_mem_entry hc).imp_right fun hmem => ⟨name, hname, hmem⟩

/-! ### The marked line -/

/-- The line of a name that is marked as selected. -/
def marked (name : String) : String :=
  "* **" ++ name ++ "** (selected)"

theorem toList_marked (name : String) :
    (marked name).toList = '*' :: ' ' :: '*' :: '*' :: (name.toList ++ "** (selected)".toList) := by
  simp [marked, String.toList_append]

theorem entry_selected (s : Selector) : s.entry s.selected = marked s.selected := by
  rw [entry, isSelected, beq_self_eq_true]
  rfl

theorem entry_of_ne {s : Selector} {name : String} (h : name ≠ s.selected) :
    s.entry name = "* " ++ name := by
  rw [entry, isSelected, beq_false_of_ne (Ne.symm h)]
  rfl

end WallClock.Selector

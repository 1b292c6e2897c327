import Mathlib.Data.List.Destutter
import Mathlib.Data.List.Sort
import WallClock.Proofs.Selector.Listing
import WallClock.Proofs.Text.Encoding

/-!
The names of a selector in their order. They are in the order of their bytes and each is there once, so
they are known from the set of what is offered: neither the order in which a host lists its zones nor how
often it lists them matters, nor by which method they are sorted.
-/

namespace WallClock

namespace Detector

/-- The host lists its zones, and the name is among them. -/
def Lists (d : Detector) (name : String) : Prop :=
  ∃ names, d.zones = some names ∧ name ∈ names

/-- The name that is offered in place of a list: that of the detected zone, or else `UTC`. -/
def standIn (d : Detector) : String :=
  match d.detected with
  | some zone => zone.name
  | none => "UTC"

/-- The name is listed, or no name is and it stands in for them. -/
def Offers (d : Detector) (name : String) : Prop :=
  d.Lists name ∨ (∀ other, ¬ d.Lists other) ∧ name = d.standIn

/-- The names offered, and behind them that of the selected zone if it is not one of them. -/
def candidates (d : Detector) (selected : Zone) : List String :=
  if selected.name ∈ (Selector.offered d).1 then (Selector.offered d).1
  else (Selector.offered d).1 ++ [selected.name]

end Detector

namespace Selector

open Text

/-! ### Insertion -/

theorem pairwise_insert {name : String} {names : List String} (h : names.Pairwise (· < ·)) :
    (insert name names).Pairwise (· < ·) := by
  induction names with
  | nil => exact List.pairwise_singleton _ name
  | cons first rest ih =>
    obtain ⟨hfirst, hrest⟩ := List.pairwise_cons.1 h
    rw [insert]
    split
    · rename_i hlt
      refine List.pairwise_cons.2 ⟨fun other hother => ?_, h⟩
      rcases List.mem_cons.1 hother with rfl | hother
      · exact hlt
      · exact lt_trans hlt (hfirst other hother)
    · rename_i hnot
      split
      · exact h
      · rename_i hne
        refine List.pairwise_cons.2 ⟨fun other hother => ?_, ih hrest⟩
        rcases mem_insert.1 hother with rfl | hother
        · exact lt_of_le_of_ne (not_lt.1 hnot) (Ne.symm hne)
        · exact hfirst other hother

/-- Names come out in order, each once. -/
theorem pairwise_ordered (names : List String) : (ordered names).Pairwise (· < ·) := by
  induction names with
  | nil => exact .nil
  | cons name names ih => exact pairwise_insert ih

/-- Names in order, each once, are the ordered form of any names that are the same as a set. -/
theorem eq_ordered {names sorted : List String} (hsorted : sorted.Pairwise (· < ·))
    (hmem : ∀ name, name ∈ sorted ↔ name ∈ names) : sorted = ordered names :=
  hsorted.eq_of_mem_iff (pairwise_ordered names) fun name => (hmem name).trans mem_ordered.symm

/-! ### Sorting -/

theorem mem_destutter' {x first : String} {names : List String} :
    x ∈ names.destutter' (· ≠ ·) first ↔ x = first ∨ x ∈ names := by
  induction names generalizing first with
  | nil => rw [List.destutter'_nil, List.mem_singleton, or_iff_left List.not_mem_nil]
  | cons name names ih =>
    by_cases hname : first ≠ name
    · rw [List.destutter'_cons_pos names hname, List.mem_cons, ih, List.mem_cons]
    · rw [List.destutter'_cons_neg names hname, ih, List.mem_cons, not_not.1 hname, ← or_assoc, or_self]

theorem mem_destutter {x : String} {names : List String} :
    x ∈ names.destutter (· ≠ ·) ↔ x ∈ names := by
  cases names with
  | nil => exact Iff.rfl
  | cons first names => rw [List.destutter_cons', mem_destutter', List.mem_cons]

theorem pairwise_destutter' {first : String} {names : List String}
    (h : (first :: names).Pairwise (· ≤ ·)) : (names.destutter' (· ≠ ·) first).Pairwise (· < ·) := by
  induction names generalizing first with
  | nil => exact List.pairwise_singleton _ first
  | cons name names ih =>
    obtain ⟨hfirst, hrest⟩ := List.pairwise_cons.1 h
    by_cases hname : first ≠ name
    · rw [List.destutter'_cons_pos names hname, List.pairwise_cons]
      refine ⟨fun other hother => ?_, ih hrest⟩
      have hlt : first < name := lt_of_le_of_ne (hfirst name List.mem_cons_self) hname
      rcases mem_destutter'.1 hother with rfl | hother
      · exact hlt
      · exact lt_of_lt_of_le hlt ((List.pairwise_cons.1 hrest).1 other hother)
    · rw [List.destutter'_cons_neg names hname]
      exact ih (h.sublist ((List.sublist_cons_self name names).cons_cons first))

/-- Sorted names are in strict order once equal neighbours are joined. -/
theorem pairwise_destutter {names : List String} (h : names.Pairwise (· ≤ ·)) :
    (names.destutter (· ≠ ·)).Pairwise (· < ·) := by
  cases names with
  | nil => exact .nil
  | cons first names => exact pairwise_destutter' h

/-! ### What a detector offers -/

theorem mem_offered {d : Detector} {name : String} : name ∈ (offered d).1 ↔ d.Offers name := by
  unfold offered Detector.Offers Detector.Lists
  split
  · rename_i first rest hzones
    constructor
    · exact fun hname => Or.inl ⟨_, hzones, hname⟩
    · rintro (⟨names, hnames, hname⟩ | ⟨hnone, -⟩)
      · cases hzones.symm.trans hnames
        exact hname
      · exact absurd ⟨_, hzones, List.mem_cons_self⟩ (hnone first)
  · rename_i hzones
    have hnone : ∀ other, ¬ ∃ names, d.zones = some names ∧ other ∈ names := by
      rintro other ⟨names, hnames, hother⟩
      cases names with
      | nil => exact List.not_mem_nil hother
      | cons first rest => exact hzones first rest hnames
    have hstandIn : (d.detected.map (·.name)).getD Zone.utc.name = d.standIn := by
      rw [Detector.standIn]
      cases d.detected with
      | none => rfl
      | some zone => rfl
    rw [hstandIn, List.mem_singleton]
    exact ⟨fun hname => Or.inr ⟨hnone, hname⟩, fun h => (h.resolve_left (hnone name)).2⟩

theorem complete_offered_iff {d : Detector} :
    (offered d).2 = true ↔ ∃ names, d.zones = some names ∧ names ≠ [] := by
  unfold offered
  split
  · rename_i first rest hzones
    exact ⟨fun _ => ⟨_, hzones, List.cons_ne_nil first rest⟩, fun _ => rfl⟩
  · rename_i hzones
    constructor
    · exact fun h => nomatch h
    · rintro ⟨names, hnames, hne⟩
      cases names with
      | nil => exact absurd rfl hne
      | cons first rest => exact absurd hnames (hzones first rest)

theorem mem_candidates {d : Detector} {selected : Zone} {name : String} :
    name ∈ d.candidates selected ↔ name ∈ selected.name :: (offered d).1 := by
  rw [Detector.candidates, List.mem_cons]
  split
  · rename_i hselected
    exact ⟨Or.inr, fun h => h.elim (fun heq => heq ▸ hselected) id⟩
  · rw [List.mem_append, List.mem_singleton, or_comm]

/-- The names are in the order of their bytes, each once, and the selected one is among them. -/
structure Canonical (s : Selector) : Prop where
  increasing : s.zones.Pairwise fun a b => bytes a.toList < bytes b.toList
  selected : s.selected ∈ s.zones

/-- The selector has the names that are offered, and the selected one. -/
theorem mem_zones {d : Detector} {selected : Zone} {name : String} :
    name ∈ (ofDetector d selected).zones ↔ d.Offers name ∨ name = selected.name := by
  rw [ofDetector, mem_ordered, List.mem_cons, mem_offered, or_comm]

theorem canonical_ofDetector (d : Detector) (selected : Zone) : (ofDetector d selected).Canonical :=
  ⟨(pairwise_ordered _).imp bytes_lt_iff.2, mem_zones.2 (Or.inr rfl)⟩

/-- By whichever method the names are sorted, they come out alike. -/
theorem zones_eq_destutter {d : Detector} {selected : Zone} {sorted : List String}
    (hperm : sorted.Perm (d.candidates selected))
    (hsorted : sorted.Pairwise fun a b => bytes a.toList ≤ bytes b.toList) :
    (ofDetector d selected).zones = sorted.destutter (· ≠ ·) := by
  have hle : sorted.Pairwise (· ≤ ·) :=
    hsorted.imp fun hab => not_lt.1 fun hba => hab (bytes_lt_iff.2 hba)
  refine (eq_ordered (pairwise_destutter hle) fun name => ?_).symm
  rw [mem_destutter, hperm.mem_iff, mem_candidates]

/-- Nothing depends on the order in which the host lists its zones, nor on how often. -/
theorem ofDetector_congr {d other : Detector} (selected : Zone)
    (hlists : ∀ name, other.Lists name ↔ d.Lists name)
    (hstandIn : (∀ name, ¬ d.Lists name) → other.standIn = d.standIn) :
    ofDetector other selected = ofDetector d selected := by
  have hoffers : ∀ name, other.Offers name ↔ d.Offers name := by
    intro name
    simp only [Detector.Offers, hlists]
    exact or_congr_right (and_congr_right fun hnone => by rw [hstandIn hnone])
  have hcomplete : (offered other).2 = (offered d).2 := by
    have hiff : ∀ d : Detector, (offered d).2 = true ↔ ∃ name, d.Lists name := by
      intro d
      rw [complete_offered_iff]
      constructor
      · rintro ⟨names, hnames, hne⟩
        exact ⟨names.head hne, names, hnames, List.head_mem hne⟩
      · rintro ⟨name, names, hnames, hname⟩
        exact ⟨names, hnames, List.ne_nil_of_mem hname⟩
    rw [Bool.eq_iff_iff, hiff, hiff]
    simp only [hlists]
  have hzones : (ofDetector other selected).zones = (ofDetector d selected).zones :=
    (pairwise_ordered _).eq_of_mem_iff (pairwise_ordered _) fun name =>
      mem_zones.trans ((or_congr_left (hoffers name)).trans mem_zones.symm)
  unfold ofDetector
  rw [Selector.mk.injEq]
  exact ⟨hzones, rfl, hcomplete⟩

/-- The names of a selector are those on offer and the selected one, in the order of their bytes and each
once. They are what any way to sort them leaves once equal neighbours are joined, and nothing of a list of
zones counts but which names it has. -/
theorem zones_canonical (d : Detector) (selected : Zone) :
    let s := ofDetector d selected
    s.Canonical ∧ s.selected = selected.name ∧
      (∀ name, name ∈ s.zones ↔ d.Offers name ∨ name = selected.name) ∧
      (s.complete = true ↔ ∃ names, d.zones = some names ∧ names ≠ []) ∧
      (∀ sorted : List String, sorted.Perm (d.candidates selected) →
        sorted.Pairwise (fun a b => bytes a.toList ≤ bytes b.toList) →
        s.zones = sorted.destutter (· ≠ ·)) ∧
      ∀ other : Detector, (∀ name, other.Lists name ↔ d.Lists name) →
        ((∀ name, ¬ d.Lists name) → other.standIn = d.standIn) → ofDetector other selected = s := by
  intro s
  exact ⟨canonical_ofDetector d selected, rfl, fun name => mem_zones, complete_offered_iff,
    fun sorted => zones_eq_destutter, fun other => ofDetector_congr selected⟩

example : (ofDetector { zones := some ["UTC", "Asia/Tokyo", "UTC"] } ⟨"Etc/GMT", .universal⟩).zones =
    ["Asia/Tokyo", "Etc/GMT", "UTC"] := by decide

end Selector

end WallClock

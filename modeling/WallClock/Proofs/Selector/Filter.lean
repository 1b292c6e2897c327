import WallClock.Proofs.Selector.Order

/-!
Filters of a selector. Whatever a chain of filters comes to is given by all its needles together: the names
that stay are those that have every needle in them, and the selected one. So it matters neither in which
order filters are applied nor how often, and one that is implied by another may be left out. A filter that
leaves any of the zones of a host may as well be applied to them before the selector is made.
-/

namespace WallClock.Selector

open Text

theorem filtered_eq (s : Selector) (needle : String) :
    s.filtered needle =
      { s with zones := s.zones.filter fun name => name = s.selected ∨ Within needle name } := by
  rw [filtered]
  congr 2
  funext name
  rw [Bool.eq_iff_iff, Bool.or_eq_true, decide_eq_true_eq, containsFolded_iff, isSelected, beq_iff_eq,
    eq_comm]

/-- The selector after filters applied one after the other. -/
def filteredBy (s : Selector) (needles : List String) : Selector :=
  needles.foldl filtered s

/-- Filters one after the other keep the names that each of them keeps. -/
theorem filteredBy_eq (s : Selector) (needles : List String) :
    s.filteredBy needles = { s with
      zones := s.zones.filter fun name =>
        name = s.selected ∨ ∀ needle ∈ needles, Within needle name } := by
  induction needles generalizing s with
  | nil => simp [filteredBy]
  | cons needle needles ih =>
    change (s.filtered needle).filteredBy needles = _
    rw [ih, filtered_eq]
    dsimp only
    rw [List.filter_filter]
    congr 2
    funext name
    rw [Bool.eq_iff_iff, Bool.and_eq_true, decide_eq_true_eq, decide_eq_true_eq, decide_eq_true_eq,
      ← or_and_left, List.forall_mem_cons, and_comm]

/-- Chains of filters that have the same names in common are the same. -/
theorem filteredBy_congr (s : Selector) (needles needles' : List String)
    (h : ∀ name, (∀ needle ∈ needles, Within needle name) ↔ ∀ needle ∈ needles', Within needle name) :
    s.filteredBy needles = s.filteredBy needles' := by
  rw [filteredBy_eq, filteredBy_eq]
  simp only [h]

/-! ### Order and presence -/

theorem Canonical.filtered {s : Selector} (h : s.Canonical) (needle : String) :
    (s.filtered needle).Canonical := by
  rw [filtered_eq]
  exact ⟨h.increasing.filter _, List.mem_filter.2 ⟨h.selected, by simp⟩⟩

/-- No chain of filters brings the names out of order. -/
theorem Canonical.filteredBy {s : Selector} (h : s.Canonical) (needles : List String) :
    (s.filteredBy needles).Canonical := by
  induction needles generalizing s with
  | nil => exact h
  | cons needle needles ih => exact ih (h.filtered needle)

theorem Canonical.restricted {s : Selector} (h : s.Canonical) (filter : Option String) :
    (s.restricted filter).Canonical := by
  cases filter with
  | none => exact h
  | some needle => exact h.filtered needle

/-- A filter leaves exactly the names that contain the needle and the selected one, in their order and as
often as they are there. Filters may be applied in any order and again; the empty one changes nothing, and
one whose needle is contained in the needle of another is implied by that other. -/
theorem filters_agree (s : Selector) :
    (∀ needle, s.filtered needle = { s with
      zones := s.zones.filter fun name => name = s.selected ∨ Within needle name }) ∧
    (∀ needle, (s.filtered needle).filtered needle = s.filtered needle) ∧
    (∀ a b, (s.filtered a).filtered b = (s.filtered b).filtered a) ∧
    s.filtered "" = s ∧
    (∀ a b, Within a b → (s.filtered a).filtered b = s.filtered b) ∧
    (s.Canonical → ∀ needles : List String, (needles.foldl Selector.filtered s).Canonical) := by
  refine ⟨s.filtered_eq, fun needle => ?_, fun a b => ?_, ?_, fun a b hab => ?_,
    fun h needles => h.filteredBy needles⟩
  · exact s.filteredBy_congr [needle, needle] [needle] (by simp)
  · exact s.filteredBy_congr [a, b] [b, a] (by simp [and_comm])
  · exact s.filteredBy_congr [""] [] (by simp [within_empty])
  · refine s.filteredBy_congr [a, b] [b] fun name => ?_
    simp only [List.mem_cons, List.not_mem_nil, or_false, forall_eq_or_imp, forall_eq]
    exact and_iff_right_of_imp hab.trans

/-! ### Before the selector is made -/

/-- The selector over a host that lists these zones and is in the zone `host`, if it can tell. -/
def ofNames (host : Option Zone) (names : List String) (selected : Zone) : Selector :=
  ofDetector { detected := host, zones := some names } selected

variable {host : Option Zone} {names : List String} {selected : Zone} {needle : String}

theorem complete_ofNames : (ofNames host names selected).complete = true ↔ names ≠ [] := by
  change (offered { detected := host, zones := some names }).2 = true ↔ _
  rw [complete_offered_iff]
  simp

theorem mem_zones_ofNames {name : String} (h : names ≠ []) :
    name ∈ (ofNames host names selected).zones ↔ name ∈ names ∨ name = selected.name := by
  have hlists : ∀ other, Detector.Lists { detected := host, zones := some names } other ↔
      other ∈ names := by
    simp [Detector.Lists]
  obtain ⟨first, hfirst⟩ := List.exists_mem_of_ne_nil names h
  rw [ofNames, mem_zones, Detector.Offers, hlists]
  exact or_congr_left (or_iff_left fun hnone => hnone.1 first ((hlists first).2 hfirst))

/-- Filtering the names first and filtering the selector come to the same, if a name is left. -/
theorem zones_filtered_ofNames (h : ∃ name ∈ names, Within needle name) :
    ((ofNames host names selected).filtered needle).zones =
      (ofNames host (names.filter (Within needle ·)) selected).zones := by
  obtain ⟨witness, hwitness, hwithin⟩ := h
  have hleft : names.filter (Within needle ·) ≠ [] :=
    List.ne_nil_of_mem (List.mem_filter.2 ⟨hwitness, decide_eq_true hwithin⟩)
  rw [filtered_eq]
  -- Both are in order, so it is enough that they have the same names.
  apply ((pairwise_ordered _).filter _).eq_of_mem_iff (pairwise_ordered _)
  intro name
  rw [List.mem_filter, decide_eq_true_eq, or_comm]
  change name ∈ (ofNames host names selected).zones ∧ (Within needle name ∨ name = selected.name) ↔
    name ∈ (ofNames host (names.filter (Within needle ·)) selected).zones
  rw [mem_zones_ofNames (List.ne_nil_of_mem hwitness), mem_zones_ofNames hleft, List.mem_filter,
    decide_eq_true_eq, and_or_right]

/-- A selector is filtered like the zones that it is made of exactly if the filter leaves any of them. -/
theorem filtered_ofNames_iff (h : names ≠ []) :
    (ofNames host names selected).filtered needle =
        ofNames host (names.filter (Within needle ·)) selected ↔
      ∃ name ∈ names, Within needle name := by
  have hcomplete : (ofNames host names selected).complete = true := complete_ofNames.2 h
  have hfiltered : (ofNames host (names.filter (Within needle ·)) selected).complete = true ↔
      ∃ name ∈ names, Within needle name := by
    rw [complete_ofNames, ne_eq, List.filter_eq_nil_iff]
    simp
  constructor
  · intro heq
    rw [← hfiltered, ← heq]
    -- A filter leaves the mark of completeness as it is.
    exact hcomplete
  · intro hexists
    rw [Selector.mk.injEq]
    exact ⟨zones_filtered_ofNames hexists, rfl, hcomplete.trans (hfiltered.2 hexists).symm⟩

/-- However a host lists its zones: if any of them contains the needle, the filter may be applied to the
selector or to the list that it is made of. -/
theorem filtered_ofNames (h : ∃ name ∈ names, Within needle name) :
    (ofDetector { detected := host, zones := some names } selected).filtered needle =
      ofDetector { detected := host, zones := some (names.filter (Within needle ·)) } selected := by
  have hne : names ≠ [] := by
    obtain ⟨name, hname, -⟩ := h
    exact List.ne_nil_of_mem hname
  exact (filtered_ofNames_iff hne).2 h

/-- The selected zone is neither listed nor has the needle in it, and others are listed twice. -/
theorem filtered_ofNames_asia :
    (∃ name ∈ ["Asia/Tokyo", "Europe/London", "Asia/Kolkata", "Asia/Tokyo"], Within "ASIA" name) ∧
      ((ofDetector { zones := some ["Asia/Tokyo", "Europe/London", "Asia/Kolkata", "Asia/Tokyo"] }
        Zone.utc).filtered "ASIA").zones = ["Asia/Kolkata", "Asia/Tokyo", "UTC"] := by
  have hexists : ∃ name ∈ ["Asia/Tokyo", "Europe/London", "Asia/Kolkata", "Asia/Tokyo"],
      Within "ASIA" name := by decide
  refine ⟨hexists, ?_⟩
  rw [filtered_ofNames hexists]
  decide

end WallClock.Selector

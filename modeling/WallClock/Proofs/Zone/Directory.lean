import WallClock.Zone
import WallClock.Proofs.Zone.Turns

/-!
The directory of zones: the rules of each of its zones are coherent if those in the database are, and those
in the tables are.
-/

namespace WallClock.Zone

/-- Whether rules are coherent, their recurring turns lying in months well apart. -/
def Rules.isCoherent (r : Rules) : Bool :=
  r.after.daylight.all Daylight.isSeasonal &&
    r.transitions.getLast?.all fun t => r.after.offsetAt t.start == t.offset

/-- Coherence, which speaks of all years, is found out by looking at the months of the rule. -/
theorem Rules.coherent_of_isCoherent {r : Rules} (h : r.isCoherent = true) : r.Coherent := by
  rw [isCoherent, Bool.and_eq_true, Option.all_eq_true, Option.all_eq_true] at h
  obtain ⟨hseasonal, hlast⟩ := h
  constructor
  · cases hd : r.after.daylight with
    | none => exact Recurring.regular_of_none hd
    | some d => exact Recurring.regular_of_isSeasonal hd r.isOffset_after (hseasonal d hd)
  · intro t ht
    exact beq_iff_eq.1 (hlast t ht)

theorem isCoherent_tables : (tables.all fun entry => entry.2.isCoherent) = true := by
  decide +kernel

theorem isCoherent_constants : (constants.all fun entry => entry.2.isCoherent) = true := by
  decide +kernel

theorem mem_of_lookup {entries : List (String × Rules)} {name : String} {rules : Rules}
    (h : entries.lookup name = some rules) : (name, rules) ∈ entries := by
  obtain ⟨before, rest, rfl, _⟩ := List.lookup_eq_some_iff.1 h
  exact List.mem_append_right before List.mem_cons_self

theorem coherent_universal : Rules.universal.Coherent :=
  Rules.coherent_of_isCoherent rfl

theorem coherent_of_tabulated? {name : String} {rules : Rules} (h : tabulated? name = some rules) :
    rules.Coherent := by
  rw [tabulated?] at h
  generalize (links.lookup name).getD name = target at h
  rcases Option.or_eq_some_iff.1 h with htable | ⟨-, hconstant⟩
  · exact Rules.coherent_of_isCoherent
      (List.all_eq_true.1 isCoherent_tables _ (mem_of_lookup htable))
  · exact Rules.coherent_of_isCoherent
      (List.all_eq_true.1 isCoherent_constants _ (mem_of_lookup hconstant))

/-- The tables have coherent rules, and so has universal time in place of those that are missing. -/
theorem coherent_ofTables (name : String) : (Database.ofTables.rulesOf name).Coherent := by
  change ((tabulated? name).getD .universal).Coherent
  cases hrules : tabulated? name with
  | some rules => exact coherent_of_tabulated? hrules
  | none => exact coherent_universal

/-- Every zone of the directory has coherent rules if those in the database are. -/
theorem coherent_of_find? [Database] (hrules : ∀ name ∈ names, (Database.rulesOf name).Coherent)
    {name : String} {zone : Zone} (h : find? name = some zone) : zone.rules.Coherent := by
  rw [find?] at h
  split at h
  · rw [← Option.some.inj h]
    exact coherent_universal
  · obtain ⟨listed, hlisted, rfl⟩ := Option.map_eq_some_iff.1 h
    exact hrules listed (List.mem_of_find?_eq_some hlisted)

end WallClock.Zone

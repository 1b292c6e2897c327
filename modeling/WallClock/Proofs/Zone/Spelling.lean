import WallClock.Proofs.Zone.Lookup

/-!
Zones by any spelling of their names. No two names of the directory are equal but for case, so every spelling
of a name leads to its zone, written as the directory has it. The name of the zone of which nothing is known
is not in the directory: each spelling of it leads to a zone of its own, under that spelling, and all of
them have the same rules.
-/

namespace WallClock.Zone

open Text

variable [Database]

/-! ### Spellings -/

/-- Spellings of one name lead to the same, unless it is the name of which nothing is known. -/
theorem find?_congr {a b : String} (h : sameName a b = true) (hknown : sameName a unknownName = false) :
    find? a = find? b := by
  rw [find?_known hknown, find?_known ((sameName_congr h unknownName).symm.trans hknown), sameName_iff.1 h]

theorem parse_eq_ok_iff {input : String} {zone : Zone} :
    parse input = .ok zone ↔ find? (trimmed input) = some zone := by
  rw [parse]
  cases find? (trimmed input) with
  | none => simp
  | some found => simp

theorem parse_of_none {input : String} (h : find? (trimmed input) = none) :
    parse input = .error (.unknownZone input (trimmed input)) := by
  rw [parse, h]

/-- The name of the zone of which nothing is known keeps the case in which it was typed. -/
theorem parse_of_unknown {input : String} (h : sameName (trimmed input) unknownName = true) :
    parse input = .ok ⟨trimmed input, .universal⟩ :=
  parse_eq_ok_iff.2 (find?_unknown h)

variable {n m : String}

/-- Spellings of one name lead to one zone, or to none, exactly if they are no different spellings of the name
of which nothing is known. -/
theorem parse_congr_iff (h : sameName (trimmed n) (trimmed m) = true) :
    (∀ zone, parse n = .ok zone ↔ parse m = .ok zone) ↔
      (sameName (trimmed n) unknownName = true → trimmed n = trimmed m) := by
  simp only [parse_eq_ok_iff]
  cases hunknown : sameName (trimmed n) unknownName with
  | false =>
    rw [find?_congr h hunknown]
    simp
  | true =>
    rw [find?_unknown hunknown, find?_unknown ((sameName_congr h unknownName).symm.trans hunknown)]
    constructor
    · intro hsame _
      have hzone := (hsame ⟨trimmed n, .universal⟩).1 rfl
      exact congrArg Zone.name (Option.some.inj hzone).symm
    · intro hspelling zone
      rw [hspelling rfl]

/-- Whatever it is spelt like, a name leads to the same rules. -/
theorem rules_of_spelling (h : sameName (trimmed n) (trimmed m) = true) {zone : Zone}
    (hzone : parse n = .ok zone) : ∃ zone', parse m = .ok zone' ∧ zone'.rules = zone.rules := by
  cases hunknown : sameName (trimmed n) unknownName with
  | false => exact ⟨zone, ((parse_congr_iff h).2 (by simp [hunknown]) zone).1 hzone, rfl⟩
  | true =>
    rw [parse_of_unknown hunknown] at hzone
    cases hzone
    exact ⟨_, parse_of_unknown ((sameName_congr h unknownName).symm.trans hunknown), rfl⟩

/-- A spelling of a name that leads to no zone leads to none either. -/
theorem parse_error_of_spelling (h : sameName (trimmed n) (trimmed m) = true)
    (hnone : ∀ zone, parse n ≠ .ok zone) : parse m = .error (.unknownZone m (trimmed m)) := by
  apply parse_of_none
  rw [Option.eq_none_iff_forall_ne_some]
  intro zone hzone
  obtain ⟨zone', hzone', -⟩ := rules_of_spelling (sameName_symm h) (parse_eq_ok_iff.2 hzone)
  exact hnone zone' hzone'

/-- Every spelling of a name of the directory leads to the zone of this name. -/
theorem parse_of_mem_names {name input : String} (hname : name ∈ names)
    (h : sameName (trimmed input) name = true) : parse input = .ok ⟨name, Database.rulesOf name⟩ :=
  parse_eq_ok_iff.2 (find?_of_mem_names hname h)

end WallClock.Zone

import WallClock.Proofs.Preference.History
import WallClock.Proofs.Store.AnyText

/-!
The preferred zone in a table with any texts. The zone and the time of its storing are read apart from each
other, but both from the whole entry: where the first is there, the second can be read.
-/

namespace WallClock

open Store

/-- The preferences in a database with this table. -/
def Preference.ofTable (t : TextTable) (a : Access) (detector : Detector) : Preference :=
  ⟨.ofDatabase (t.database a), detector⟩

namespace Store.TextTable

/-- The row is that of the preferred zone. It can be read, and its value is the zone. -/
structure Stores [Zone.Database] (t : TextTable) (r : TextRow) (zone : Zone) : Prop where
  mem : r ∈ t.rows
  key : r.key = Preference.displayZoneKey
  legible : ¬ r.Illegible
  given : Text.trimmed r.value ≠ ""
  zone : Zone.parse r.value = .ok zone

end Store.TextTable

namespace Preference

variable [Zone.Database] {t : TextTable} {a : Access} {detector : Detector} {r : TextRow} {zone : Zone}

theorem entry_of_stores (h : t.Stores r zone) :
    (t.database a).entry displayZoneKey = .ok (some ⟨r.value, r.time?⟩) := by
  rw [← h.key]
  exact TextTable.entry_of_legible h.mem h.legible

theorem storedZone_of_stores (h : t.Stores r zone) :
    (ofTable t a detector).storedZone = .ok (some zone) := by
  have hget : (ofTable t a detector).store.get displayZoneKey = .ok (some r.value) := by
    change ((t.database a).entry displayZoneKey).map _ = _
    rw [entry_of_stores h]
    rfl
  rw [storedZone_of_some hget, if_neg h.given, h.zone]
  rfl

/-- A row that gives the zone can be read for its time as well. -/
theorem storedAt_of_stores (h : t.Stores r zone) :
    (ofTable t a detector).storedAt = .ok r.time? := by
  change ((t.database a).entry displayZoneKey).map _ = _
  rw [entry_of_stores h]
  rfl

theorem exists_stores (h : (ofTable t a detector).storedZone = .ok (some zone)) :
    ∃ r, t.Stores r zone := by
  have hget : (ofTable t a detector).store.get displayZoneKey =
      ((t.database a).entry displayZoneKey).map fun entry => entry.map (·.value) := rfl
  rcases t.entry_cases a displayZoneKey with ⟨r, hr, hkey, hillegible, e, hentry⟩ |
    ⟨r, hr, hkey, hlegible, hentry⟩ | ⟨habsent, hentry⟩
  · rw [hentry] at hget
    rw [storedZone, hget] at h
    cases h
  · rw [hentry] at hget
    rw [storedZone_of_some hget] at h
    split at h
    · cases h
    · rename_i hgiven
      cases hparse : Zone.parse r.value with
      | ok found =>
        rw [hparse] at h
        cases h
        exact ⟨r, hr, hkey, hlegible, hgiven, hparse⟩
      | error e =>
        rw [hparse] at h
        cases h
  · rw [hentry] at hget
    rw [storedZone_of_none hget] at h
    cases h

omit [Zone.Database] in
theorem source_unstored_ne (p : Preference) : p.unstored.source ≠ .stored := by
  intro h
  rw [unstored] at h
  cases hdetected : p.detector.detected with
  | some zone =>
    rw [hdetected] at h
    cases h
  | none =>
    rw [hdetected] at h
    cases h

theorem resolved_of_stores (h : t.Stores r zone) :
    (ofTable t a detector).resolved = ⟨zone, .stored⟩ :=
  resolved_of_some (storedZone_of_stores h)

/-- Either a row stores the zone or the source is another. -/
theorem stores_or_unstored (t : TextTable) (a : Access) (detector : Detector) :
    (∃ r zone, t.Stores r zone) ∨
      ((∀ r zone, ¬ t.Stores r zone) ∧ (ofTable t a detector).resolved.source ≠ .stored) := by
  by_cases h : ∃ r zone, t.Stores r zone
  · exact Or.inl h
  · have hnone : ∀ r zone, ¬ t.Stores r zone := fun r zone hstores => h ⟨r, zone, hstores⟩
    refine Or.inr ⟨hnone, ?_⟩
    rw [resolved_of_not_some fun zone hzone => (exists_stores hzone).elim fun r => hnone r zone]
    exact source_unstored_ne _

/-- The zone is a stored one if a row gives it. -/
theorem source_eq_stored_iff :
    (ofTable t a detector).resolved.source = .stored ↔ ∃ r zone, t.Stores r zone := by
  rcases stores_or_unstored t a detector with ⟨r, zone, h⟩ | ⟨hnone, hsource⟩
  · rw [resolved_of_stores h]
    exact iff_of_true rfl ⟨r, zone, h⟩
  · exact iff_of_false hsource fun ⟨r, zone, h⟩ => hnone r zone h

-- A zone stored at an unreadable time counts as none, although nobody has asked for the time.
example : (ofTable ⟨[⟨"display_zone", "Asia/Tokyo", "yesterday"⟩], by decide⟩ .full {}).resolved.source =
    .fallback := rfl

end Preference

end WallClock

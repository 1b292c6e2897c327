import WallClock.Proofs.Store.Reopening
import WallClock.Proofs.Zone.Lookup
import WallClock.Preference

/-!
Preferences in which nothing is stored but the choice of a zone. Each operation on them is given by the
choice alone: what it answers, and the choice that it leaves.
-/

namespace WallClock

/-- A zone that was chosen, and when. -/
@[ext]
structure Choice where
  zone : Zone
  time : Instant

namespace Choice

open Store

/-- The row in which a choice is kept. -/
def row (c : Choice) : Row :=
  ⟨.text Preference.displayZoneKey, .text c.zone.name, .text c.time.text⟩

/-- The table of a database with nothing but a choice, if there is one. -/
def table (choice : Option Choice) : Table :=
  { Table.empty with rows := (choice.map row).toList }

/-- What is stored along with a choice. -/
def entries (choice : Option Choice) : Entries := fun key =>
  if key = Preference.displayZoneKey then choice.map fun c => (c.zone.name, c.time) else none

theorem upToDate_table (choice : Option Choice) : Database.UpToDate ⟨table choice, .full⟩ :=
  Database.upToDate_of_rows _

theorem row?_table (choice : Option Choice) :
    (table choice).row? Preference.displayZoneKey = choice.map row := by
  cases choice with
  | none => rfl
  | some c => exact List.find?_cons_of_pos (beq_self_eq_true (Cell.text Preference.displayZoneKey))

theorem holds_table (choice : Option Choice) :
    Database.Holds ⟨table choice, .full⟩ (entries choice) := by
  refine ⟨(upToDate_table choice).complete, rfl, fun key => ?_⟩
  rw [entries]
  by_cases hkey : key = Preference.displayZoneKey
  · rw [if_pos hkey, hkey, row?_table, Option.map_map]
    rfl
  · rw [if_neg hkey]
    cases choice with
    | none => rfl
    | some c =>
      have hskip : ¬ ((row c).key == Cell.text key) = true := by
        rw [beq_iff_eq, row, Cell.text.injEq]
        exact Ne.symm hkey
      exact List.find?_cons_of_neg (p := fun row : Row => row.key == .text key) hskip

end Choice

namespace Preference

open Store

variable {detector : Detector} {choice : Option Choice}

/-- The preferences with this choice, in a database of their own. -/
def ofChoice (detector : Detector) (choice : Option Choice) : Preference :=
  ⟨.ofDatabase ⟨Choice.table choice, .full⟩, detector⟩

/-- The zone to show times in after this choice. -/
def afterChoice (detector : Detector) : Option Choice → Resolved
  | some c => ⟨c.zone, .stored⟩
  | none =>
      match detector.detected with
      | some zone => ⟨zone, .detected⟩
      | none => ⟨.utc, .fallback⟩

theorem holds_ofChoice (detector : Detector) (choice : Option Choice) :
    (ofChoice detector choice).store.Holds (Choice.entries choice) :=
  Choice.holds_table choice

theorem get_ofChoice (detector : Detector) (choice : Option Choice) :
    (ofChoice detector choice).store.get displayZoneKey = .ok (choice.map (·.zone.name)) := by
  rw [(holds_ofChoice detector choice).get rfl, Choice.entries, if_pos rfl, Option.map_map]
  rfl

theorem storedAt_ofChoice (detector : Detector) (choice : Option Choice) :
    (ofChoice detector choice).storedAt = .ok (choice.map (·.time)) := by
  rw [storedAt, (holds_ofChoice detector choice).updatedAt rfl]
  change Except.ok ((Choice.entries choice displayZoneKey).map Prod.snd) = _
  rw [Choice.entries, if_pos rfl, Option.map_map]
  rfl

theorem storedZone_ofChoice [Zone.Database] (h : ∀ c ∈ choice, c.zone.Listed) :
    (ofChoice detector choice).storedZone = .ok (choice.map (·.zone)) := by
  have hget := get_ofChoice detector choice
  cases choice with
  | none => rw [storedZone, hget]; rfl
  | some c =>
    have hlisted := h c rfl
    rw [storedZone, hget]
    dsimp only [Option.map_some]
    rw [Zone.trimmed_name hlisted, if_neg (Zone.name_ne_empty hlisted), Zone.parse_name hlisted]

/-- A choice that was made is what the zone is resolved to. -/
theorem resolved_ofChoice [Zone.Database] (h : ∀ c ∈ choice, c.zone.Listed) :
    (ofChoice detector choice).resolved = afterChoice detector choice := by
  rw [resolved, storedZone_ofChoice h]
  cases choice with
  | none => rfl
  | some c => rfl

theorem upserted_choice (choice : Option Choice) (c : Choice) :
    Table.upserted displayZoneKey c.zone.name c.time.text (choice.map Choice.row).toList = [c.row] := by
  cases choice with
  | none => rfl
  | some before => exact if_pos rfl

theorem filter_choice (choice : Option Choice) :
    (choice.map Choice.row).toList.filter (fun row => row.key != .text displayZoneKey) = [] := by
  cases choice with
  | none => rfl
  | some before => exact List.filter_cons_of_neg (by simp [Choice.row])

/-- Making a choice takes the place of the one before. -/
theorem choose_ofChoice (detector : Detector) (choice : Option Choice) (now : Instant) (zone : Zone) :
    (ofChoice detector choice).choose now zone = .ok (ofChoice detector (some ⟨zone, now⟩)) := by
  have hset := Database.set_eq (Choice.upToDate_table choice).complete rfl now displayZoneKey zone.name
  rw [show (Choice.table choice).rows = (choice.map Choice.row).toList from rfl,
    upserted_choice choice ⟨zone, now⟩] at hset
  rw [choose, ofChoice, Store.set, ofDatabase]
  dsimp only
  rw [hset]
  rfl

/-- Dropping a choice answers whether there was one. -/
theorem clear_ofChoice (detector : Detector) (choice : Option Choice) :
    (ofChoice detector choice).clear = .ok (choice.isSome, ofChoice detector none) := by
  have hremove := Database.remove_eq (Choice.upToDate_table choice).complete rfl displayZoneKey
  rw [show (Choice.table choice).rows = (choice.map Choice.row).toList from rfl, filter_choice,
    Choice.row?_table, Option.isSome_map] at hremove
  rw [clear, ofChoice, Store.remove, ofDatabase]
  dsimp only
  rw [hremove]
  rfl

end Preference

end WallClock

import WallClock.Proofs.Preference.History
import WallClock.Proofs.Store.Reopening
import WallClock.Proofs.Zone.Spelling

/-!
Zones as their names alone. The name of a zone leads back to its rules, so that zones of one name show the
same time at every instant, and a zone that was stored is resolved with its rules, whatever kind of store
took it and whatever was in it. The spelling of a name does not matter either, but for the name of the zone
of which nothing is known: no store and no comparison takes two spellings of it for one zone.
-/

namespace WallClock

/-! ### Stores -/

namespace Store

theorem Table.complete_of_upsert {t t' : Table} {key value updatedAt : String}
    (h : t.upsert key value updatedAt = .ok t') : t.Complete := by
  rw [Table.upsert] at h
  split at h
  · cases h
  · rename_i hmissing
    have hfound : ∀ column ∈ [keyColumn, valueColumn, updatedAtColumn], t.finds column = true := by
      rw [Table.missing?, List.find?_eq_none] at hmissing
      exact fun column hcolumn => by simpa using hmissing column hcolumn
    split at h
    · rename_i hkeyed
      exact ⟨hfound _ (by simp), hfound _ (by simp), hfound _ (by simp), hkeyed⟩
    · cases h

/-- A database that took a value has it, whatever there was in its table. -/
theorem Database.get_of_set {d d' : Database} {now : Instant} {key value : String}
    (h : d.set now key value = .ok d') : d'.get key = .ok (some value) := by
  rw [Database.set] at h
  cases hupsert : d.table.upsert key value now.text with
  | error refusal =>
    rw [hupsert] at h
    cases h
  | ok t =>
    rw [hupsert] at h
    have hcomplete := Table.complete_of_upsert hupsert
    rw [hcomplete.upsert_eq] at hupsert
    split at h
    · cases h
    · cases h
    · rename_i t' htable _
      cases htable
      cases hupsert
      cases h
      have hrow := Table.row?_upserted d.table key value now.text key
      rw [if_pos rfl] at hrow
      have hrows := hcomplete.of_rows (Table.upserted key value now.text d.table.rows)
      rw [Database.get, Database.entry_of_some hrows hrow, Database.readUpdatedAt_text]
      rfl

/-- A store that took a value has it, whatever there was in it. -/
theorem get_of_set {s s' : Store} {now : Instant} {key value : String}
    (h : s.set now key value = .ok s') : s'.get key = .ok (some value) := by
  cases honline : s.online with
  | false =>
    rw [set_of_offline honline] at h
    cases h
  | true =>
    rw [Store.set, if_pos honline] at h
    cases hbackend : s.backend with
    | memory m =>
      rw [hbackend] at h
      cases h
      rw [Store.get, if_pos honline]
      dsimp only
      rw [Memory.get_set, if_pos rfl]
    | database d =>
      rw [hbackend] at h
      cases hset : d.set now key value with
      | error e =>
        simp only [hset] at h
        cases h
      | ok d' =>
        simp only [hset] at h
        cases h
        rw [Store.get, if_pos honline]
        exact Database.get_of_set hset

end Store

/-! ### Zones -/

namespace Zone

open Text

variable [Database]

/-- The ways to come by a zone: to look up its name, or to take that of universal time. -/
def Obtained (zone : Zone) : Prop :=
  (∃ input, parse input = .ok zone) ∨ zone = utc

theorem Obtained.listed {zone : Zone} (h : zone.Obtained) : zone.Listed := by
  rcases h with ⟨input, hinput⟩ | rfl
  · exact listed_of_parse hinput
  · exact listed_utc

/-- Zones of one name are one zone. -/
theorem Listed.eq_of_name {y z : Zone} (hy : y.Listed) (hz : z.Listed) (h : y.name = z.name) : y = z := by
  rw [Listed, h, hz] at hy
  exact (Option.some.inj hy).symm

/-- What two spellings of a name lead to: to the same rules, under one name unless they are different
spellings of the name of which nothing is known, or both to an error. -/
inductive Alike (n m : String) : Prop
  | zones (y z : Zone) : parse n = .ok y → parse m = .ok z → y.rules = z.rules →
      (y.name = z.name ↔ (sameName (trimmed n) unknownName = true → trimmed n = trimmed m)) → Alike n m
  | none : parse n = .error (.unknownZone n (trimmed n)) → parse m = .error (.unknownZone m (trimmed m)) →
      Alike n m

theorem alike_of_sameName {n m : String} (h : sameName (trimmed n) (trimmed m) = true) : Alike n m := by
  cases hfind : find? (trimmed n) with
  | none =>
    have hn := parse_of_none hfind
    refine .none hn (parse_error_of_spelling h fun zone hzone => ?_)
    rw [hn] at hzone
    cases hzone
  | some y =>
    have hy := parse_eq_ok_iff.2 hfind
    obtain ⟨z, hz, hrules⟩ := rules_of_spelling h hy
    refine .zones y z hy hz hrules.symm ?_
    rw [← parse_congr_iff h]
    constructor
    · intro hname zone
      rw [hy, hz, (listed_of_parse hy).eq_of_name (listed_of_parse hz) hname]
    · intro hsame
      have hy' := (hsame y).1 hy
      rw [hz] at hy'
      cases hy'
      rfl

theorem trimmed_spelling {name : String} (h : sameName name unknownName = true) : trimmed name = name := by
  have hlisted : Listed ⟨name, .universal⟩ := find?_unknown h
  have htrimmed := trimmed_name hlisted
  exact htrimmed

/-- Such a spelling is itself the name of the zone that it leads to. -/
theorem parse_spelling {name : String} (h : sameName name unknownName = true) :
    parse name = .ok ⟨name, .universal⟩ := by
  have hlisted : Listed ⟨name, .universal⟩ := find?_unknown h
  have hparse := parse_name hlisted
  exact hparse

end Zone

namespace Preference

open Store Zone Text

section

variable [Zone.Database] {p p' : Preference} {now : Instant} {zone : Zone}

/-- A zone that a store took is the zone that is resolved, with its rules. -/
theorem resolved_of_choose (hzone : zone.Listed) (h : p.choose now zone = .ok p') :
    p'.resolved = ⟨zone, .stored⟩ := by
  rw [choose] at h
  cases hset : p.store.set now displayZoneKey zone.name with
  | error e =>
    rw [hset] at h
    cases h
  | ok store =>
    rw [hset] at h
    cases h
    apply resolved_of_some
    rw [storedZone_of_some (get_of_set hset), trimmed_name hzone, if_neg (name_ne_empty hzone),
      parse_name hzone]
    rfl

omit [Zone.Database] in
/-- A store that is online takes any zone. -/
theorem exists_choose {e : Entries} (hstore : p.store.Holds e) (honline : p.store.online = true)
    (now : Instant) (zone : Zone) : ∃ p', p.choose now zone = .ok p' := by
  obtain ⟨store, hset, -⟩ := hstore.set honline now displayZoneKey zone.name
  exact ⟨_, by rw [choose, hset]; rfl⟩

/-- Names and rules are in step: through spellings, through a second look-up, through comparison and
through a store. -/
theorem rules_in_step_with_names (n m : String) (y z : Zone) (p : Preference) (e : Entries) (now : Instant) :
    (sameName (trimmed n) (trimmed m) = true → Alike n m) ∧
      (∀ name ∈ names, sameName (trimmed n) name = true → parse n = .ok ⟨name, Database.rulesOf name⟩) ∧
      (z.Obtained → parse z.name = .ok z) ∧
      (y.Obtained → z.Obtained → (y == z) = true →
        y.rules = z.rules ∧ ∀ i, Display.text i y = Display.text i z) ∧
      (z.Obtained → ∀ p', p.choose now z = .ok p' → p'.resolved = ⟨z, .stored⟩ ∧
        ∀ i, Display.text i p'.resolved.zone = Display.text i z) ∧
      (p.store.Holds e → p.store.online = true → ∃ p', p.choose now z = .ok p') := by
  refine ⟨alike_of_sameName, fun name hname => parse_of_mem_names hname,
    fun hz => parse_name hz.listed, ?_, ?_, fun hstore honline => exists_choose hstore honline now z⟩
  · intro hy hz hyz
    rw [hy.listed.eq_of_name hz.listed (beq_iff_eq.1 hyz)]
    exact ⟨rfl, fun i => rfl⟩
  · intro hz p' hchoose
    have hresolved := resolved_of_choose hz.listed hchoose
    exact ⟨hresolved, fun i => by rw [hresolved]⟩

end

/-- The name of which nothing is known, in two spellings: no name of the directory stands in for both, and
the zones they lead to have different names. -/
theorem two_zones_of_one_name :
    (∀ a ∈ names, ∀ b ∈ names, sameName a b = true → a = b) ∧
      sameName (trimmed "Etc/Unknown") (trimmed "etc/unknown") = true ∧
      ∃ y z, parse "Etc/Unknown" = .ok y ∧ parse "etc/unknown" = .ok z ∧ y.name ≠ z.name ∧
        (y == z) = false := by
  have hcapital : sameName "Etc/Unknown" unknownName = true := by decide
  have hsmall : sameName "etc/unknown" unknownName = true := by decide
  refine ⟨fun a ha b hb => eq_of_sameName (List.mem_cons_of_mem _ ha) (List.mem_cons_of_mem _ hb), ?_,
    ⟨"Etc/Unknown", .universal⟩, ⟨"etc/unknown", .universal⟩, parse_spelling hcapital, parse_spelling hsmall,
    by decide, by decide⟩
  rw [trimmed_spelling hcapital, trimmed_spelling hsmall]
  decide

end Preference

end WallClock

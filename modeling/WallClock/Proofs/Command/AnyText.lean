import WallClock.Proofs.Command.Written
import WallClock.Proofs.Preference.AnyText
import WallClock.Proofs.Preference.Opening

/-!
What `zone show` tells of a table with any texts. It reads the time of storing for a stored zone alone, so it
has nothing to fail on.
-/

namespace WallClock.Command

open Preference Report Store

section

variable [Zone.Database] {t : TextTable} {a : Access} {detector : Detector}

/-- What is read for the zone and what is read for the time is one row, so the time is there to be told. -/
theorem tellZone_of_stores {r : TextRow} {zone : Zone} (h : t.Stores r zone) :
    tellZone (ofTable t a detector) = .ok (.report ⟨toldLines ⟨zone, .stored⟩ r.time?⟩) := by
  have hresolved : (ofTable t a detector).resolved = ⟨zone, .stored⟩ := resolved_of_stores h
  have hsaved : savedLines (ofTable t a detector) (ofTable t a detector).resolved =
      .ok (savedLine (ofTable t a detector).resolved.zone r.time?) := by
    rw [hresolved, savedLines, storedAt_of_stores h]
    rfl
  rw [tellZone_of_saved hsaved, hresolved]

/-- The time of storing is not even read for a zone that is not the stored one. -/
theorem tellZone_of_unstored {p : Preference} (h : p.resolved.source ≠ .stored) :
    tellZone p = .ok (.report ⟨toldLines p.resolved none⟩) := by
  apply tellZone_of_saved
  rw [savedLines]
  split
  · rename_i hstored
    exact absurd hstored h
  · rfl

/-- `zone show` always has something to tell, and a time with it when the zone is stored with one. -/
theorem tellZone_ofTable (t : TextTable) (a : Access) (detector : Detector) :
    ∃ time, tellZone (ofTable t a detector) =
        .ok (.report ⟨toldLines (ofTable t a detector).resolved time⟩) ∧
      (time.isSome = true ↔ (ofTable t a detector).resolved.source = .stored ∧
        ∃ r ∈ t.rows, r.key = displayZoneKey ∧ r.updatedAt ≠ "") := by
  rcases stores_or_unstored t a detector with ⟨r, zone, h⟩ | ⟨-, hsource⟩
  · refine ⟨r.time?, by rw [resolved_of_stores h]; exact tellZone_of_stores h, ?_⟩
    rw [TextRow.time?_isSome_iff h.legible, resolved_of_stores h, and_iff_right rfl]
    constructor
    · exact fun hne => ⟨r, h.mem, h.key, hne⟩
    · rintro ⟨r', hr', hkey, hne⟩
      rwa [TextTable.eq_of_key_eq h.mem hr' (h.key.trans hkey.symm)]
  · exact ⟨none, tellZone_of_unstored hsource,
      iff_of_false Bool.false_ne_true fun hstored => hsource hstored.1⟩

/-- A run that finds such a table in a file opens it as it is. -/
theorem opened_of_ready {host : Host} {files : Files} {place : Files.Place} {s : Setup}
    (h : s.Ready host files place t.table) :
    ∃ opened, (s.openOn host files).result = .ok opened ∧
      opened.preference = ofTable t .full host.detector := by
  obtain ⟨files', events, hopen, -⟩ := h.serves (Database.upToDate_of_rows _)
  rw [hopen]
  exact ⟨_, rfl, rfl⟩

/-- What a run of `zone show` writes that opens such a table: the zone and its source, and a time under
`Saved` if the zone is a stored one and its time of writing is not empty. -/
theorem run_current_ofTable [Wording] {host : Host} {files : Files} {args : List String} {path : Option String}
    {isPlain : Bool} {opened : Setup.Opened} (now : Instant)
    (hread : read args = .ok ⟨.zone .current, path, isPlain⟩)
    (hopened : ((setupAt path).openOn host files).result = .ok opened)
    (hpreference : opened.preference = ofTable t a host.detector) :
    ∃ output, (run host now files args).1 = ⟨output, .success⟩ ∧
      told? "Zone" output = some (ofTable t a host.detector).resolved.zone.name ∧
      told? "Source" output = some (ofTable t a host.detector).resolved.source.name ∧
      ((told? "Saved" output).isSome = true ↔ (ofTable t a host.detector).resolved.source = .stored ∧
        ∃ r ∈ t.rows, r.key = displayZoneKey ∧ r.updatedAt ≠ "") := by
  obtain ⟨time, htold, htime⟩ := tellZone_ofTable t a host.detector
  have hlisted : (ofTable t a host.detector).resolved.zone.Listed := listed_resolved host.listed_detected
  have htells := tells_toldLines hlisted time isPlain
  refine ⟨_, ?_, htells.zone, htells.source, ?_⟩
  · rw [run_of_read now hread, runInvocation_of_opened now hopened, hpreference, perform, htold]
    rfl
  · rw [htells.saved, Option.isSome_map]
    exact htime

/-- A database of the current layout with any texts in its table is opened as it is. What is read under a key
fails for the rows alone whose time of writing is no timestamp, whichever way it is read. The zone is a stored
one if its row can be read and has a zone for its value, and then the time of its storing can be read too: so
`zone show` always succeeds, and tells that time if there is one. Where the database may be changed, a value
can be set under any key and read again, and the other rows stay as they were. -/
theorem any_text_is_told [Wording] (t : TextTable) (a : Access) (detector : Detector) :
    let d := t.database a
    let p := ofTable t a detector
    Database.openOn a (.database (some t.table)) = .ok (d, []) ∧
    (∀ host files path place, (setupAt path).Ready host files place t.table →
      ∃ opened, ((setupAt path).openOn host files).result = .ok opened ∧
        opened.preference = ofTable t .full host.detector) ∧
    (∀ key, ((∃ e, d.get key = .error e) ↔ t.Unreadable key) ∧
      ((∃ e, d.entry key = .error e) ↔ t.Unreadable key) ∧
      ((∃ e, p.store.updatedAt key = .error e) ↔ t.Unreadable key)) ∧
    (p.resolved.source = .stored ↔ ∃ r zone, t.Stores r zone) ∧
    (p.resolved.source = .stored → ∃ time, p.storedAt = .ok time) ∧
    (∀ host now files args path isPlain opened, read args = .ok ⟨.zone .current, path, isPlain⟩ →
      ((setupAt path).openOn host files).result = .ok opened →
      opened.preference = ofTable t a host.detector →
        ∃ output, (run host now files args).1 = ⟨output, .success⟩ ∧
          told? "Zone" output = some (ofTable t a host.detector).resolved.zone.name ∧
          told? "Source" output = some (ofTable t a host.detector).resolved.source.name ∧
          ((told? "Saved" output).isSome = true ↔ (ofTable t a host.detector).resolved.source = .stored ∧
            ∃ r ∈ t.rows, r.key = displayZoneKey ∧ r.updatedAt ≠ "")) ∧
    (∀ now key value,
      match a.refusal? true with
      | some refusal =>
          d.set now key value = .error (Database.failed "Failed to store preference" refusal)
      | none => ∃ t' : TextTable, d.set now key value = .ok (t'.database a) ∧
          (t'.database a).get key = .ok (some value) ∧
          (t'.rows.filter fun r => r.key ≠ key) = t.rows.filter fun r => r.key ≠ key) := by
  intro d p
  refine ⟨TextTable.openOn_table t a, fun _ _ _ _ => opened_of_ready, fun key => ?_,
    source_eq_stored_iff, fun hsource => ?_, ?_, fun now key value => ?_⟩
  · exact ⟨TextTable.map_entry_fails_iff _, TextTable.entry_fails_iff, TextTable.map_entry_fails_iff _⟩
  · obtain ⟨r, zone, h⟩ := source_eq_stored_iff.1 hsource
    exact ⟨r.time?, storedAt_of_stores h⟩
  · intro host now files args path isPlain opened hread hopened hpreference
    exact run_current_ofTable now hread hopened hpreference
  · have hset := t.set_table a now key value
    cases hrefusal : a.refusal? true with
    | some refusal =>
      rw [hrefusal] at hset
      exact hset
    | none =>
      rw [hrefusal] at hset
      refine ⟨t.write ⟨key, value, now.text⟩, hset, ?_, TextRow.filter_put ⟨key, value, now.text⟩ t.rows⟩
      rw [Database.get, t.entry_write a now key value]
      rfl

end

/-- A tree with nothing in it but a database with this table. -/
def filesWith (t : TextTable) : Files where
  items := [([Files.Name.ofString "tzs.db"], .file (.database (some t.table)))]

theorem ready_filesWith (t : TextTable) :
    (setupAt (some "tzs.db")).Ready {} (filesWith t) [Files.Name.ofString "tzs.db"] t.table :=
  ⟨_, _, rfl, rfl, rfl, ⟨rfl, rfl, rfl, rfl, rfl, rfl⟩, ⟨rfl, by decide⟩, rfl, rfl⟩

def storedAtTime (time : String) : TextTable :=
  ⟨[⟨"display_zone", "africa/abidjan", time⟩], by simp⟩

/-- A zone that was stored at a time, at none, and at one that cannot be read: then it is passed over. -/
theorem any_text_is_told_of_one_row :
    let args := ["--database-file", "tzs.db", "zone", "show"]
    let output := fun time => (run {} ⟨0, by decide, by decide⟩ (filesWith (storedAtTime time)) args).1.output
    read args = .ok ⟨.zone .current, some "tzs.db", false⟩ ∧
      told? "Zone" (output "2001-02-03T04:05:06Z") = some "Africa/Abidjan" ∧
      (told? "Saved" (output "2001-02-03T04:05:06Z")).isSome = true ∧
      told? "Zone" (output "") = some "Africa/Abidjan" ∧ (told? "Saved" (output "")).isSome = false ∧
      told? "Zone" (output "now") = some "UTC" ∧ (told? "Saved" (output "now")).isSome = false := by
  intro args output
  have hread : read args = .ok ⟨.zone .current, some "tzs.db", false⟩ := by decide +kernel
  have htold : ∀ time, let r := (ofTable (storedAtTime time) .full (Host.detector {})).resolved
      told? "Zone" (output time) = some r.zone.name ∧
        ((told? "Saved" (output time)).isSome = true ↔ r.source = .stored ∧ time ≠ "") := by
    intro time
    obtain ⟨-, hopens, -, -, -, hruns, -⟩ := any_text_is_told (storedAtTime time) .full {}
    obtain ⟨opened, hopened, hpreference⟩ :=
      hopens {} _ (some "tzs.db") _ (ready_filesWith (storedAtTime time))
    obtain ⟨out, hfinished, hzone, -, hsaved⟩ :=
      hruns {} ⟨0, by decide, by decide⟩ _ args (some "tzs.db") false opened hread hopened hpreference
    have hout : output time = out := congrArg Finished.output hfinished
    rw [hout]
    refine ⟨hzone, hsaved.trans (and_congr_right fun _ => ?_)⟩
    simp [storedAtTime, displayZoneKey]
  have hunsaved : ∀ time, ¬ ((ofTable (storedAtTime time) .full (Host.detector {})).resolved.source = .stored ∧
      time ≠ "") → (told? "Saved" (output time)).isSome = false :=
    fun time hnot => Bool.eq_false_iff.2 (mt (htold time).2.1 hnot)
  refine ⟨hread, (htold _).1, (htold _).2.2 ⟨rfl, by decide⟩, (htold _).1, hunsaved _ ?_, (htold _).1,
    hunsaved _ ?_⟩
  · exact fun h => h.2 rfl
  · exact fun h => nomatch h.1

end WallClock.Command

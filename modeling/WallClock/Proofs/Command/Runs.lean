import WallClock.Proofs.Command.Format
import WallClock.Proofs.Command.Written
import WallClock.Proofs.Preference.Opening
import WallClock.Proofs.Selector.Reading

/-!
The zone to show times in over all runs of the program. Runs have nothing in common but the tree of files
in which the database is kept, so what is known after any of them is the choice that the database has.
The choice is the one made by the last run that set a zone, and whatever shows or uses a zone goes by it.
-/

namespace WallClock.Command

open Preference Report Store

/-! ### Records -/

structure Request where
  now : Instant
  args : List String

structure Record where
  request : Request
  finished : Finished

namespace Record

/-- The command that a run has carried out with success. -/
def done? (r : Record) : Option Command :=
  if r.finished.exit = .success then (read r.request.args).toOption.map (·.command) else none

def Changes (r : Record) : Prop :=
  (∃ name, r.done? = some (.zone (.set name))) ∨ r.done? = some (.zone .clear)

end Record

theorem done?_of_error {r : Record} {stop : Stop} (h : read r.request.args = .error stop) :
    r.done? = none := by
  rw [Record.done?, h]
  exact ite_self none

theorem done?_of_ok {r : Record} {i : Invocation} (h : read r.request.args = .ok i) :
    r.done? = if r.finished.exit = .success then some i.command else none := by
  rw [Record.done?, h]
  rfl

theorem not_changes_of_none {r : Record} (h : r.done? = none) : ¬ r.Changes := by
  rintro (⟨name, hdone⟩ | hdone)
  · rw [h] at hdone
    cases hdone
  · rw [h] at hdone
    cases hdone

theorem not_changes_of_other {r : Record} {i : Invocation} (hread : read r.request.args = .ok i)
    (hset : ∀ name, i.command ≠ .zone (.set name)) (hclear : i.command ≠ .zone .clear) :
    ¬ r.Changes := by
  have hdone := done?_of_ok hread
  split at hdone
  · rintro (⟨name, heq⟩ | heq)
    · exact hset name (Option.some.inj (hdone.symm.trans heq))
    · exact hclear (Option.some.inj (hdone.symm.trans heq))
  · exact not_changes_of_none hdone

section

variable [Zone.Database]

/-! ### Histories -/

/-- What a request comes to, and the tree after it. -/
def record [Wording] (host : Host) (files : Files) (r : Request) : Record × Files :=
  let (finished, files) := run host r.now files r.args
  (⟨r, finished⟩, files)

/-- What requests come to one after the other, and the tree after the last one. -/
def history [Wording] (host : Host) (files : Files) (requests : List Request) : List Record × Files :=
  requests.foldl (fun (records, files) r =>
    let (next, files) := record host files r
    (records ++ [next], files)) ([], files)

/-- The last run begins with the tree that the others leave. -/
theorem history_concat [Wording] (host : Host) (files : Files) (requests : List Request) (r : Request) :
    history host files (requests ++ [r]) =
      ((history host files requests).1 ++ [(record host (history host files requests).2 r).1],
        (record host (history host files requests).2 r).2) := by
  rw [history, List.foldl_append]
  rfl

def Record.Chooses (r : Record) (c : Choice) : Prop :=
  ∃ name, r.done? = some (.zone (.set name)) ∧ Zone.parse name = .ok c.zone ∧ c.time = r.request.now

/-- What the last run that set the zone has chosen, if the zone was not cleared since then. -/
def LastChosen (records : List Record) (c : Choice) : Prop :=
  ∃ before r after, records = before ++ r :: after ∧ r.Chooses c ∧ ∀ later ∈ after, ¬ later.Changes

/-- The choice is the one that the records account for. -/
def Follows (choice : Option Choice) (records : List Record) : Prop :=
  ∀ c, choice = some c ↔ LastChosen records c

variable {records : List Record} {detector : Detector} {choice : Option Choice}

/-- The run added at the end is the last that set the zone, or it leaves the last one what it was. -/
theorem lastChosen_concat_iff {r : Record} {c : Choice} :
    LastChosen (records ++ [r]) c ↔ r.Chooses c ∨ ¬ r.Changes ∧ LastChosen records c :=
  exists_last_concat_iff

theorem Record.Chooses.changes {r : Record} {c : Choice} (h : r.Chooses c) : r.Changes := by
  obtain ⟨name, hdone, _⟩ := h
  exact Or.inl ⟨name, hdone⟩

theorem Record.Chooses.unique {r : Record} {c c' : Choice} (h : r.Chooses c) (h' : r.Chooses c') :
    c = c' := by
  obtain ⟨name, hdone, hzone, htime⟩ := h
  obtain ⟨name', hdone', hzone', htime'⟩ := h'
  rw [hdone] at hdone'
  cases hdone'
  ext
  · exact Except.ok.inj (hzone.symm.trans hzone')
  · exact htime.trans htime'.symm

theorem follows_nil : Follows none [] := by
  intro c
  constructor
  · intro hnone
    cases hnone
  · rintro ⟨before, r, after, heq, _⟩
    exact absurd heq (by simp)

/-! ### Single runs -/

/-- Whether the arguments, if they are understood, ask for the database at this path. -/
def uses (path : Option String) (args : List String) : Bool :=
  (read args).toOption.all fun i => i.databasePath == path

/-- What the file at a place has stored as the zone to show times in. -/
def storedRow (files : Files) (place : Files.Place) : Option Row :=
  match files.item? place with
  | some (.file (.database (some t))) => t.row? displayZoneKey
  | _ => none

/-- The file at the place stands for this choice, whether it is there yet or not. -/
structure Standing (host : Host) (path : Option String) (files : Files) (place : Files.Place)
    (choice : Option Choice) : Prop where
  serves : (setupAt path).Serves host files place (Choice.table choice)
  stored : storedRow files place = choice.map Choice.row
  listed : ∀ c ∈ choice, c.zone.Listed

variable {host : Host} {path : Option String} {files : Files} {place : Files.Place}

theorem standing_of_shared (h : (setupAt path).Shared host files place) :
    Standing host path files place none := by
  refine ⟨h.serves, ?_, fun c hc => nomatch hc⟩
  rw [storedRow, h.absent]
  rfl

theorem standing_of_ready (h : (setupAt path).Ready host files place (Choice.table choice))
    (hlisted : ∀ c ∈ choice, c.zone.Listed) : Standing host path files place choice := by
  refine ⟨h.serves (Choice.upToDate_table choice), ?_, hlisted⟩
  rw [storedRow, h.item]
  exact Choice.row?_table choice

/-- A run carries out its command on preferences with the choice, and leaves the choice that the command
leaves. -/
theorem Standing.invoked (h : Standing host path files place choice) (now : Instant)
    {i : Invocation} (hpath : i.databasePath = path) :
    (runInvocation host now files i).1 =
        finishedWith i.isPlain (perform now (ofChoice host.detector choice) i.command).1 ∧
      Standing host path (runInvocation host now files i).2 place
        (choiceAfter now choice i.command) := by
  obtain ⟨opened, events, hopen, hready⟩ := h.serves
  have hchange := perform_ofChoice host.detector choice now i.command
  cases hperform : perform now (ofChoice host.detector choice) i.command with
  | mk result preference =>
    rw [hperform] at hchange
    obtain rfl : preference = ofChoice host.detector (choiceAfter now choice i.command) := hchange
    have hrun : runInvocation host now files i =
        (finishedWith i.isPlain result,
          Setup.Opened.close ⟨ofChoice host.detector (choiceAfter now choice i.command),
            .file place (.atJournal place)⟩ opened) := by
      rw [runInvocation, hpath]
      dsimp only
      rw [show Setup.withDatabasePath {} (path.map Files.Path.mk) = setupAt path from rfl, hopen]
      dsimp only
      rw [show (⟨.ofDatabase ⟨Choice.table choice, .full⟩, host.detector⟩ : Preference) =
        ofChoice host.detector choice from rfl, hperform]
      rfl
    rw [hrun]
    refine ⟨rfl, standing_of_ready ?_ (listed_choiceAfter h.listed now i.command)⟩
    exact hready.close ⟨Choice.table (choiceAfter now choice i.command), .full⟩

/-! ### What a run does to the choice -/

/-- What becomes of the choice in a run: it is made anew, it is dropped, or it stays. -/
inductive Turns (r : Record) (before : Option Choice) : Option Choice → Prop
  | chosen {c : Choice} : r.Chooses c → Turns r before (some c)
  | cleared : r.done? = some (.zone .clear) → Turns r before none
  | kept : ¬ r.Changes → Turns r before before

/-- Only a run that sets or clears the zone turns the choice. -/
theorem Turns.of_not_changes {r : Record} {after : Option Choice} (h : Turns r choice after)
    (hno : ¬ r.Changes) : after = choice := by
  cases h with
  | chosen hchooses => exact absurd hchooses.changes hno
  | cleared hdone => exact absurd (Or.inr hdone) hno
  | kept => rfl

/-- One more run keeps the choice the one that the records account for. -/
theorem Follows.concat {r : Record} {after : Option Choice} (h : Follows choice records)
    (hturns : Turns r choice after) : Follows after (records ++ [r]) := by
  intro c
  rw [lastChosen_concat_iff]
  cases hturns with
  | chosen hchooses =>
    constructor
    · rintro ⟨⟩
      exact Or.inl hchooses
    · rintro (hchooses' | ⟨hno, _⟩)
      · rw [hchooses.unique hchooses']
      · exact absurd hchooses.changes hno
  | cleared hdone =>
    constructor
    · intro hnone
      cases hnone
    · rintro (⟨name, hdone', _⟩ | ⟨hno, _⟩)
      · rw [hdone] at hdone'
        cases hdone'
      · exact absurd (Or.inr hdone) hno
  | kept hno =>
    rw [← h c]
    constructor
    · exact fun heq => Or.inr ⟨hno, heq⟩
    · rintro (hchooses | ⟨_, heq⟩)
      · exact absurd hchooses.changes hno
      · exact heq

/-- The choice turns as the command has it, given that the run ends with the command's result. -/
theorem turns_of_ok {r : Record} {i : Invocation} (hread : read r.request.args = .ok i)
    (hfinished : r.finished = finishedWith i.isPlain
      (perform r.request.now (ofChoice detector choice) i.command).1) :
    Turns r choice (choiceAfter r.request.now choice i.command) := by
  have hdone := done?_of_ok hread
  rw [hfinished] at hdone
  obtain ⟨command, databasePath, isPlain⟩ := i
  cases command with
  | zone command =>
    cases command with
    | set name =>
      rw [perform, setZone_ofChoice] at hdone
      cases hparse : Zone.parse name with
      | ok found =>
        rw [hparse] at hdone
        rw [choiceAfter, hparse]
        exact .chosen ⟨name, hdone, hparse, rfl⟩
      | error e =>
        rw [hparse] at hdone
        rw [choiceAfter, hparse]
        exact .kept (not_changes_of_none hdone)
    | clear =>
      rw [perform, clearZone_ofChoice] at hdone
      exact .cleared hdone
    | current | list => exact .kept (not_changes_of_other hread (by simp) (by simp))
  | format | access => exact .kept (not_changes_of_other hread (by simp) (by simp))

/-- Any run turns the choice as its record says, and the file stands for the new one. -/
theorem Standing.recorded [Wording] (h : Standing host path files place choice) {r : Request}
    (huses : uses path r.args = true) :
    ∃ after, Turns (record host files r).1 choice after ∧
      Standing host path (record host files r).2 place after := by
  cases hread : read r.args with
  | error stop =>
    have hrecord : record host files r = (⟨r, stopped r.args stop⟩, files) := by
      rw [record, run_of_stop r.now hread]
    rw [hrecord]
    exact ⟨choice, .kept (not_changes_of_none (done?_of_error hread)), h⟩
  | ok i =>
    have hrecord : record host files r =
        (⟨r, (runInvocation host r.now files i).1⟩, (runInvocation host r.now files i).2) := by
      rw [record, run_of_read r.now hread]
    have hpath : i.databasePath = path := by
      rw [uses, hread] at huses
      exact beq_iff_eq.1 huses
    obtain ⟨hfinished, hstanding⟩ := h.invoked r.now hpath
    rw [hrecord]
    exact ⟨_, turns_of_ok hread hfinished, hstanding⟩

/-! ### What a run ends with -/

theorem Standing.listed_active (h : Standing host path files place choice) :
    (afterChoice host.detector choice).zone.Listed :=
  listed_afterChoice host.listed_detected h.listed

variable [Wording]

theorem Standing.finished (h : Standing host path files place choice) (now : Instant)
    {args : List String} {command : Command} {isPlain : Bool}
    (hread : read args = .ok ⟨command, path, isPlain⟩) :
    (run host now files args).1 =
      finishedWith isPlain (perform now (ofChoice host.detector choice) command).1 := by
  rw [run_of_read now hread]
  exact (h.invoked now rfl).1

/-- `zone show` tells the active zone, and when it was stored. -/
theorem Standing.finished_current (h : Standing host path files place choice) {now : Instant}
    {args : List String} {isPlain : Bool} (hread : read args = .ok ⟨.zone .current, path, isPlain⟩) :
    ∃ output, (run host now files args).1 = ⟨output, .success⟩ ∧
      Tells (afterChoice host.detector choice) (choice.map (·.time)) output := by
  refine ⟨_, ?_, tells_toldLines h.listed_active (choice.map (·.time)) isPlain⟩
  rw [h.finished now hread, perform, tellZone_ofChoice h.listed]
  rfl

/-- What `zone list` offers while a zone is active. -/
def offered (host : Host) (active : Zone) (filter : Option String) : Selector :=
  (Selector.ofDetector host.detector active).restricted filter

/-- `zone list` marks the active zone, whatever is filtered and in whatever form. -/
theorem Standing.finished_list (h : Standing host path files place choice) {now : Instant}
    {args : List String} {isPlain json : Bool} {filter : Option String}
    (hread : read args = .ok ⟨.zone (.list filter json), path, isPlain⟩) :
    ∃ output, (run host now files args).1 = ⟨output, .success⟩ ∧
      ShowsSelector (offered host (afterChoice host.detector choice).zone filter) json isPlain output := by
  have hclear : (offered host (afterChoice host.detector choice).zone filter).Clear :=
    (Selector.clear_ofDetector host.zones_detector h.listed_active).restricted filter
  have hcanonical : (offered host (afterChoice host.detector choice).zone filter).Canonical :=
    (Selector.canonical_ofDetector _ _).restricted filter
  refine ⟨_, ?_, showsSelector_of_clear hcanonical hclear json isPlain⟩
  rw [h.finished now hread, perform, listZones_ofChoice h.listed]
  rfl

/-- `format` without a zone shows instants in the active one. -/
theorem Standing.finished_format (h : Standing host path files place choice) {now : Instant}
    {args : List String} {isPlain isStrict : Bool} {instants : List String}
    (hread : read args = .ok ⟨.format instants none isStrict, path, isPlain⟩) :
    (∀ args', read args' = .ok ⟨.format instants (some (afterChoice host.detector choice).zone.name)
        isStrict, path, isPlain⟩ → (run host now files args').1 = (run host now files args).1) ∧
      (isStrict = false → (run host now files args).1.exit = .success) ∧
      ((run host now files args).1.exit = .success →
        (run host now files args).1.output = pieces (afterChoice host.detector choice).zone instants) := by
  have hzone : zoneFor (ofChoice host.detector choice) none =
      .ok (afterChoice host.detector choice).zone := by
    rw [zoneFor, resolved_ofChoice h.listed]
  have hshows := showsIn_of_zoneFor now (ofChoice host.detector choice) isPlain hzone
  rw [h.finished now hread]
  refine ⟨fun args' hread' => ?_, ?_, fun hsuccess => ?_⟩
  · rw [h.finished now hread', perform, perform, showInstants_ofChoice host.listed_detected h.listed]
  · rintro rfl
    rw [hshows.lenient]
  · cases isStrict with
    | false => rw [hshows.lenient]
    | true => rw [hshows.strict_success instants hsuccess, hshows.lenient]

/-- `zone clear` tells whether anything was stored. -/
theorem Standing.finished_clear (h : Standing host path files place choice) {now : Instant}
    {args : List String} {isPlain : Bool} (hread : read args = .ok ⟨.zone .clear, path, isPlain⟩) :
    ∃ output, (run host now files args).1 = ⟨output, .success⟩ ∧
      shownLines? output = some ["Success: " ++ if (storedRow files place).isSome
        then "Display zone cleared" else "No display zone was saved"] := by
  refine ⟨(Output.report (.status true (if choice.isSome then "Display zone cleared"
    else "No display zone was saved"))).text isPlain, ?_, ?_⟩
  · rw [h.finished now hread, perform, clearZone_ofChoice]
    rfl
  · rw [h.stored, Option.isSome_map]
    generalize choice.isSome = stored
    cases stored <;> cases isPlain <;> rfl

theorem Standing.storedRow_record (h : Standing host path files place choice) {r : Request}
    (huses : uses path r.args = true) (hno : ¬ (record host files r).1.Changes) :
    storedRow (record host files r).2 place = storedRow files place := by
  obtain ⟨after, hturns, hafter⟩ := h.recorded huses
  rw [hafter.stored, h.stored, hturns.of_not_changes hno]

/-! ### All runs -/

/-- After any requests the file stands for the choice that their records account for. -/
theorem standing_of_requests (hshared : (setupAt path).Shared host files place)
    {requests : List Request} (huses : ∀ r ∈ requests, uses path r.args = true) :
    ∃ choice, Follows choice (history host files requests).1 ∧
      Standing host path (history host files requests).2 place choice := by
  induction requests using List.reverseRecOn with
  | nil => exact ⟨none, follows_nil, standing_of_shared hshared⟩
  | append_singleton requests r ih =>
    obtain ⟨choice, hfollows, hstanding⟩ :=
      ih fun q hq => huses q (List.mem_append_left [r] hq)
    obtain ⟨after, hturns, hafter⟩ :=
      hstanding.recorded (huses r (List.mem_append_right requests List.mem_cons_self))
    rw [history_concat]
    exact ⟨after, hfollows.concat hturns, hafter⟩

/-- Requests share a database that is not there at first, on any host. After each of them one zone is
active: that of the last run that set one, if none has cleared it since then, or else that of the host, or
else universal time. It is the zone that `zone show` tells and the only one that `zone list` marks, whatever
is filtered and in whatever form; instants are shown in it, and as if it had been asked for by its name.
What is stored is changed by nothing but a run that sets or clears the zone with success, and a run that
clears it tells whether anything was stored. -/
theorem active_zone_after_requests (hshared : (setupAt path).Shared host files place)
    {requests : List Request} (huses : ∀ r ∈ requests, uses path r.args = true) :
    let records := (history host files requests).1
    let after := (history host files requests).2
    ∃ choice, Follows choice records ∧ storedRow after place = choice.map Choice.row ∧
      let active := afterChoice host.detector choice
      ∀ now args isPlain,
        (read args = .ok ⟨.zone .current, path, isPlain⟩ →
          ∃ output, (run host now after args).1 = ⟨output, .success⟩ ∧
            Tells active (choice.map (·.time)) output) ∧
        (∀ filter json, read args = .ok ⟨.zone (.list filter json), path, isPlain⟩ →
          ∃ output, (run host now after args).1 = ⟨output, .success⟩ ∧
            (offered host active.zone filter).selected = active.zone.name ∧
            ShowsSelector (offered host active.zone filter) json isPlain output) ∧
        (∀ instants isStrict, read args = .ok ⟨.format instants none isStrict, path, isPlain⟩ →
          (∀ args', read args' = .ok ⟨.format instants (some active.zone.name) isStrict, path, isPlain⟩ →
            (run host now after args').1 = (run host now after args).1) ∧
          (isStrict = false → (run host now after args).1.exit = .success) ∧
          ((run host now after args).1.exit = .success →
            (run host now after args).1.output = pieces active.zone instants)) ∧
        (read args = .ok ⟨.zone .clear, path, isPlain⟩ →
          ∃ output, (run host now after args).1 = ⟨output, .success⟩ ∧
            shownLines? output = some ["Success: " ++ if (storedRow after place).isSome
              then "Display zone cleared" else "No display zone was saved"]) ∧
        (uses path args = true → ¬ (record host after ⟨now, args⟩).1.Changes →
          storedRow (record host after ⟨now, args⟩).2 place = storedRow after place) := by
  intro records after
  obtain ⟨choice, hfollows, h⟩ := standing_of_requests hshared huses
  refine ⟨choice, hfollows, h.stored, fun now args isPlain => ⟨h.finished_current, ?_, ?_,
    h.finished_clear, ?_⟩⟩
  · intro filter json hread
    obtain ⟨output, hfinished, hshows⟩ := h.finished_list hread
    exact ⟨output, hfinished, Selector.selected_restricted _ filter, hshows⟩
  · intro instants isStrict hread
    exact h.finished_format hread
  · intro huses' hno
    exact h.storedRow_record huses' hno

end

/-- A run sets the zone and another one is not understood. The zone that was set is the one that `zone show`
tells, with the time of the run, the one that is selected in the JSON of `zone list` with a filter, and the one
in which an instant is shown. -/
theorem active_zone_after_setting_once :
    let requests : List Request :=
      [⟨⟨0, by decide, by decide⟩, ["--database-file", "tzs.db", "zone", "set", "africa/abidjan"]⟩,
        ⟨⟨0, by decide, by decide⟩, ["zone", "show", "--all"]⟩]
    let place := [Files.Name.ofString "tzs.db"]
    let after := (history {} { items := [] } requests).2
    let output := fun args =>
      (run {} ⟨0, by decide, by decide⟩ after ("--database-file" :: "tzs.db" :: args)).1.output
    (setupAt (some "tzs.db")).Shared {} { items := [] } place ∧
      (∀ r ∈ requests, uses (some "tzs.db") r.args = true) ∧
      storedRow after place =
        some ⟨.text "display_zone", .text "Africa/Abidjan", .text "1970-01-01T00:00:00Z"⟩ ∧
      told? "Zone" (output ["zone", "show"]) = some "Africa/Abidjan" ∧
      told? "Saved" (output ["zone", "show"]) = some "1970-01-01 00:00" ∧
      (Selector.parse? (output ["zone", "list", "--json", "--filter", "abi"])).map (·.selected) =
        some "Africa/Abidjan" ∧
      output ["format", "2024-01-01T12:00:00Z"] = "2024-01-01 12:00\n" := by
  intro requests place after output
  have hshared : (setupAt (some "tzs.db")).Shared {} { items := [] } place := by
    refine ⟨rfl, rfl, fun p l hp hreference => ?_⟩
    cases hp
    cases hreference
  have huses : ∀ r ∈ requests, uses (some "tzs.db") r.args = true := by decide +kernel
  obtain ⟨choice, hfollows, hstored, hruns⟩ := active_zone_after_requests hshared huses
  have hlast : LastChosen (history {} { items := [] } requests).1
      ⟨⟨"Africa/Abidjan", .universal⟩, ⟨0, by decide, by decide⟩⟩ := by
    refine ⟨[], _, [_], rfl, ⟨"africa/abidjan", by decide +kernel, rfl, rfl⟩, fun later hmem => ?_⟩
    rw [List.mem_singleton.1 hmem]
    exact not_changes_of_none (by decide +kernel)
  obtain rfl := (hfollows _).2 hlast
  have hruns' := hruns ⟨0, by decide, by decide⟩
  have hshow : read ["--database-file", "tzs.db", "zone", "show"] =
      .ok ⟨.zone .current, some "tzs.db", false⟩ := by decide +kernel
  have hlist : read ["--database-file", "tzs.db", "zone", "list", "--json", "--filter", "abi"] =
      .ok ⟨.zone (.list (some "abi") true), some "tzs.db", false⟩ := by decide +kernel
  have hformat : read ["--database-file", "tzs.db", "format", "2024-01-01T12:00:00Z"] =
      .ok ⟨.format ["2024-01-01T12:00:00Z"] none false, some "tzs.db", false⟩ := by decide +kernel
  obtain ⟨told, htold, htells⟩ := (hruns' _ false).1 hshow
  obtain ⟨listed, hlisted, hselected, hshows⟩ := (hruns' _ false).2.1 (some "abi") true hlist
  obtain ⟨-, hsuccess, hpieces⟩ := (hruns' _ false).2.2.1 _ false hformat
  have hshow : output ["zone", "show"] = told := congrArg Finished.output htold
  have hlist : output ["zone", "list", "--json", "--filter", "abi"] = listed :=
    congrArg Finished.output hlisted
  refine ⟨hshared, huses, hstored, ?_, ?_, ?_, ?_⟩
  · rw [hshow]
    exact htells.zone
  · rw [hshow, htells.saved]
    decide +kernel
  · rw [hlist, hshows.json rfl]
    exact congrArg some hselected
  · refine (hpieces (hsuccess rfl)).trans ?_
    decide +kernel

end WallClock.Command

import WallClock.Command.Run
import WallClock.Proofs.Preference.Choice
import WallClock.Proofs.Selector.Listing

/-!
Commands carried out on preferences with a choice of a zone. All that show a zone, list zones or show
instants go by the same zone, and the choice that is left is known from the command. A run of the program
ends as its command does on the preferences that the run opens.
-/

namespace WallClock

/-! ### The detector of a host -/

variable [Zone.Database]

/-- Any host knows all zones. -/
theorem Host.zones_detector (host : Host) : host.detector.zones = some Zone.names := by
  rw [detector]
  split
  · rfl
  · rfl

theorem Host.listed_detected (host : Host) : ∀ zone ∈ host.detector.detected, zone.Listed := by
  intro zone hzone
  rw [detector] at hzone
  split at hzone
  · exact Detector.listed_of_setting hzone
  · cases hzone

theorem Preference.listed_afterChoice {detector : Detector} {choice : Option Choice}
    (hdetected : ∀ zone ∈ detector.detected, zone.Listed) (hchoice : ∀ c ∈ choice, c.zone.Listed) :
    (afterChoice detector choice).zone.Listed := by
  cases choice with
  | some c => exact hchoice c rfl
  | none =>
    rw [afterChoice]
    split
    · rename_i zone hzone
      exact hdetected zone hzone
    · exact Zone.listed_utc

namespace Command

open Preference

variable {detector : Detector} {choice : Option Choice}

def choiceAfter (now : Instant) (choice : Option Choice) : Command → Option Choice
  | .zone (.set name) =>
      match Zone.parse name with
      | .ok found => some ⟨found, now⟩
      | .error _ => choice
  | .zone .clear => none
  | _ => choice

/-- A zone that is stored was looked up, so it is found again under its name. -/
theorem listed_choiceAfter (h : ∀ c ∈ choice, c.zone.Listed) (now : Instant) (command : Command) :
    ∀ c ∈ choiceAfter now choice command, c.zone.Listed := by
  intro c hc
  unfold choiceAfter at hc
  split at hc
  · split at hc
    · rename_i found hparse
      cases hc
      exact Zone.listed_of_parse hparse
    · exact h c hc
  · cases hc
  · exact h c hc

/-! ### Single commands -/

/-- The line that says when a zone was stored, if that is known. -/
def savedLine (zone : Zone) (time : Option Instant) : List String :=
  (time.map fun i => Report.field "Saved" (Display.text i zone)).toList

/-- The lines that tell a zone, and when it was stored if that is known. -/
def toldLines (r : Resolved) (time : Option Instant) : List String :=
  "# Display zone" :: "" :: (r.report.lines ++ savedLine r.zone time)

omit [Zone.Database] in
theorem savedLines_cases (p : Preference) (r : Resolved) :
    (∃ time, savedLines p r = .ok (savedLine r.zone time)) ∨
      ∃ failure, savedLines p r = .error failure := by
  rw [savedLines]
  split
  · split
    · rename_i time _
      exact Or.inl ⟨time, rfl⟩
    · rename_i failure _
      exact Or.inr ⟨failure, rfl⟩
  · exact Or.inl ⟨none, rfl⟩

/-- Reading the time of storing is all that can make `zone show` fail. -/
theorem tellZone_of_saved {p : Preference} {time : Option Instant}
    (h : savedLines p p.resolved = .ok (savedLine p.resolved.zone time)) :
    tellZone p = .ok (.report ⟨toldLines p.resolved time⟩) := by
  rw [tellZone, h]
  rfl

omit [Zone.Database] in
theorem savedLines_ofChoice (detector : Detector) (choice : Option Choice) :
    savedLines (ofChoice detector choice) (afterChoice detector choice) =
      .ok (savedLine (afterChoice detector choice).zone (choice.map (·.time))) := by
  cases choice with
  | some c =>
    rw [savedLines, storedAt_ofChoice]
    rfl
  | none =>
    rw [afterChoice]
    cases detector.detected with
    | some zone => rfl
    | none => rfl

theorem tellZone_ofChoice (h : ∀ c ∈ choice, c.zone.Listed) :
    tellZone (ofChoice detector choice) =
      .ok (.report ⟨toldLines (afterChoice detector choice) (choice.map (·.time))⟩) := by
  have hsaved := savedLines_ofChoice detector choice
  rw [← resolved_ofChoice h] at hsaved ⊢
  exact tellZone_of_saved hsaved

/-- Instants are shown as if the active zone had been asked for. -/
theorem showInstants_ofChoice (hdetected : ∀ zone ∈ detector.detected, zone.Listed)
    (h : ∀ c ∈ choice, c.zone.Listed) (instants : List String) (isStrict : Bool) :
    showInstants (ofChoice detector choice) instants none isStrict =
      showInstants (ofChoice detector choice) instants
        (some (afterChoice detector choice).zone.name) isStrict := by
  have hzone : zoneFor (ofChoice detector choice) (some (afterChoice detector choice).zone.name) =
      zoneFor (ofChoice detector choice) none := by
    rw [zoneFor, Zone.parse_name (listed_afterChoice hdetected h), zoneFor, resolved_ofChoice h]
    rfl
  rw [showInstants, showInstants, hzone]

theorem listZones_ofChoice (h : ∀ c ∈ choice, c.zone.Listed) (filter : Option String) (json : Bool) :
    listZones (ofChoice detector choice) filter json =
      let selector :=
        (Selector.ofDetector detector (afterChoice detector choice).zone).restricted filter
      if json then .values selector.toJson.pretty else .report selector.listing := by
  have hselector : (ofChoice detector choice).selector =
      .ofDetector detector (afterChoice detector choice).zone := by
    rw [selector, resolved_ofChoice h]
    rfl
  unfold listZones
  rw [hselector]
  cases filter with
  | none => rfl
  | some needle => rfl

theorem setZone_ofChoice (detector : Detector) (choice : Option Choice) (now : Instant) (name : String) :
    setZone (ofChoice detector choice) now name =
      match Zone.parse name with
      | .ok found =>
          .ok (.report (.status true ("Display zone set to " ++ found.name)),
            ofChoice detector (some ⟨found, now⟩))
      | .error e => .error (.ofError "Invalid zone" e) := by
  rw [setZone]
  cases Zone.parse name with
  | error e => rfl
  | ok found =>
    change (do
      let p ← inContext "Failed to save display zone" ((ofChoice detector choice).choose now found)
      .ok (Output.report (.status true ("Display zone set to " ++ found.name)), p)) = _
    rw [choose_ofChoice]
    rfl

omit [Zone.Database] in
theorem clearZone_ofChoice (detector : Detector) (choice : Option Choice) :
    clearZone (ofChoice detector choice) =
      .ok (.report (.status true
          (if choice.isSome then "Display zone cleared" else "No display zone was saved")),
        ofChoice detector none) := by
  rw [clearZone, clear_ofChoice]
  rfl

/-! ### Any command -/

/-- A command does to preferences in a database what it does to the choice that the database has. -/
theorem perform_ofChoice (detector : Detector) (choice : Option Choice) (now : Instant)
    (command : Command) :
    (perform now (ofChoice detector choice) command).2 =
      ofChoice detector (choiceAfter now choice command) := by
  cases command with
  | format | access => rfl
  | zone command =>
    cases command with
    | current | list => rfl
    | set name =>
      rw [perform, setZone_ofChoice, choiceAfter]
      cases Zone.parse name with
      | ok found => rfl
      | error e => rfl
    | clear =>
      rw [perform, clearZone_ofChoice]
      rfl

/-! ### Runs -/

def setupAt (path : Option String) : Setup :=
  Setup.withDatabasePath {} (path.map Files.Path.mk)

/-- What a run ends with that has come to a result. -/
def finishedWith (isPlain : Bool) (result : Result) : Finished where
  output := result.output.text isPlain
  exit :=
    match result.failure with
    | some f => .failure f
    | none => .success

/-- What a run ends with whose preferences cannot be opened. -/
def unopened (e : Error) : Finished where
  output := ""
  exit := .failure (.ofError "Failed to open preference database" e)

variable {host : Host} {files : Files}

theorem runInvocation_of_opened (now : Instant) {i : Invocation} {opened : Setup.Opened}
    (hopened : ((setupAt i.databasePath).openOn host files).result = .ok opened) :
    (runInvocation host now files i).1 =
      finishedWith i.isPlain (perform now opened.preference i.command).1 := by
  rw [runInvocation]
  dsimp only
  rw [show Setup.withDatabasePath {} (i.databasePath.map Files.Path.mk) = setupAt i.databasePath
    from rfl, hopened]
  rfl

/-- Without preferences no command is carried out. -/
theorem runInvocation_of_error (now : Instant) {i : Invocation} {e : Error}
    (herror : ((setupAt i.databasePath).openOn host files).result = .error e) :
    (runInvocation host now files i).1 = unopened e := by
  rw [runInvocation]
  dsimp only
  rw [show Setup.withDatabasePath {} (i.databasePath.map Files.Path.mk) = setupAt i.databasePath
    from rfl, herror]
  rfl

variable [Wording]

theorem run_of_read (now : Instant) {args : List String} {i : Invocation} (hread : read args = .ok i) :
    run host now files args = runInvocation host now files i := by
  rw [run, hread]

theorem run_of_stop (now : Instant) {args : List String} {stop : Stop} (hread : read args = .error stop) :
    run host now files args = (stopped args stop, files) := by
  rw [run, hread]

end Command

end WallClock

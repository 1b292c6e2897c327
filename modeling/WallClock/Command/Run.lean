import WallClock.Command.Failure
import WallClock.Command.Reader
import WallClock.Command.Wording
import WallClock.Preference.Setup
import WallClock.Report.Style
import WallClock.Selector.Json
import WallClock.Selector.Listing

/-!
Carrying out commands. What a command writes is either a report, which may be in colour, or values,
which are written as they are: instants shown, texts that are no instants, and JSON.
-/

namespace WallClock.Command

inductive Output where
  | report (r : Report)
  | values (lines : String)
deriving DecidableEq, Repr

namespace Output

/-- Values with the end of their last line. -/
def ended (text : String) : String :=
  if text = "" ∨ text.toList.getLast? = some '\n' then text else text ++ "\n"

/-- The output as it is written, in colour unless it is plain. -/
def text (isPlain : Bool) : Output → String
  | report r => if isPlain then r.plain else r.styled
  | values lines => ended lines

end Output

/-- What came of a command: what it wrote, and whether it failed. -/
structure Result where
  output : Output
  failure : Option Failure := none
deriving DecidableEq, Repr

namespace Result

/-- A command that fails before it writes anything. -/
def failed (failure : Failure) : Result where
  output := .values ""
  failure := some failure

/-- A command that went well if there is something to write. -/
def ofExcept : Except Failure Output → Result
  | .ok output => { output }
  | .error failure => .failed failure

end Result

/-- An answer, an error being told with what was being done. -/
def inContext {α : Type} (context : String) : Except Error α → Except Failure α
  | .ok a => .ok a
  | .error e => .error (.ofError context e)

/-! ### The commands -/

variable [Zone.Database]

/-- The zone to show instants in: the one that is named, or else the preferred one. -/
def zoneFor (p : Preference) : Option String → Except Failure Zone
  | some name => inContext "Invalid --zone" (Zone.parse name)
  | none => .ok p.resolved.zone

def shownLine (zone : Zone) (isStrict : Bool) (raw : String) : Except Failure String :=
  match Display.ofInstantText raw zone with
  | .ok shown => .ok shown
  | .error e =>
      if e.isFormatError && !isStrict then .ok raw
      else .error (.ofError ("Failed to format '" ++ raw ++ "'") e)

/-- Instants shown in the zone, each on a line. -/
def shownLines (zone : Zone) (isStrict : Bool) : List String → Except Failure String
  | [] => .ok ""
  | raw :: rest => do
      let line ← shownLine zone isStrict raw
      let lines ← shownLines zone isStrict rest
      .ok (line ++ "\n" ++ lines)

def showInstants (p : Preference) (instants : List String) (zone : Option String)
    (isStrict : Bool) : Except Failure Output := do
  let zone ← zoneFor p zone
  let lines ← shownLines zone isStrict instants
  .ok (.values lines)

/-- The line that says when the zone was stored. -/
def savedLines (p : Preference) (r : Resolved) : Except Failure (List String) :=
  match r.source with
  | .stored =>
      match inContext "Failed to read preference timestamp" p.storedAt with
      | .ok saved => .ok (saved.map fun i => Report.field "Saved" (Display.text i r.zone)).toList
      | .error failure => .error failure
  | _ => .ok []

def tellZone (p : Preference) : Except Failure Output := do
  let r := p.resolved
  let saved ← savedLines p r
  .ok (.report ⟨"# Display zone" :: "" :: (r.report.lines ++ saved)⟩)

def setZone (p : Preference) (now : Instant) (zone : String) :
    Except Failure (Output × Preference) := do
  let chosen ← inContext "Invalid zone" (Zone.parse zone)
  let p ← inContext "Failed to save display zone" (p.choose now chosen)
  .ok (.report (.status true ("Display zone set to " ++ chosen.name)), p)

def clearZone (p : Preference) : Except Failure (Output × Preference) := do
  let (removed, p) ← inContext "Failed to clear display zone" p.clear
  let message := if removed then "Display zone cleared" else "No display zone was saved"
  .ok (.report (.status true message), p)

def listZones (p : Preference) (filter : Option String) (json : Bool) : Output :=
  let selector := match filter with
    | some needle => p.selector.filtered needle
    | none => p.selector
  if json then .values selector.toJson.pretty else .report selector.listing

/-- Whether the role may open the view. It is reported, and a refusal is a failure as well. -/
def checkAccess (required : Role) (role : Option Role) : Result :=
  let who := (role.map (·.name)).getD "anonymous"
  if Role.mayOpen role required then
    { output := .report (.status true (who ++ " may access " ++ required.name ++ " views")) }
  else
    { output := .report (.status false (who ++ " may not access " ++ required.name ++ " views"))
      failure := some { context := "access to " ++ required.name ++ " views denied" } }

/-- A command that may change the preferences, which stay as they are if it fails. -/
def changing (p : Preference) : Except Failure (Output × Preference) → Result × Preference
  | .ok (output, p) => ({ output }, p)
  | .error failure => (.failed failure, p)

/-- Carries out a command at the moment `now`. -/
def perform (now : Instant) (p : Preference) : Command → Result × Preference
  | .format instants name isStrict => (.ofExcept (showInstants p instants name isStrict), p)
  | .zone .current => (.ofExcept (tellZone p), p)
  | .zone (.set name) => changing p (setZone p now name)
  | .zone .clear => changing p (clearZone p)
  | .zone (.list filter json) => ({ output := listZones p filter json }, p)
  | .access required role => (checkAccess required role, p)

/-! ### Runs of the program -/

/-- What a run of the program ends with. -/
inductive Exit where
  | success
  | failure (f : Failure)
  /-- The arguments were not understood, and this is told of them. -/
  | misuse (told : String)
deriving DecidableEq, Repr

def Exit.code : Exit → Nat
  | success => 0
  | failure _ => 1
  | misuse _ => 2

/-- What is written to the second output. -/
def Exit.text : Exit → String
  | success => ""
  | failure f => f.text
  | misuse told => told

/-- A run of the program: what it wrote and how it ended. -/
structure Finished where
  output : String
  exit : Exit
deriving DecidableEq, Repr

/-- A run that does not come to a command. -/
def stopped [Wording] (args : List String) : Stop → Finished
  | .help => ⟨Wording.help args, .success⟩
  | .version => ⟨version ++ "\n", .success⟩
  | .misuse m => ⟨"", .misuse (Wording.misuse args m)⟩

/-- Carries out an invocation. The preferences are opened first, even if they are not needed. -/
def runInvocation (host : Host) (now : Instant) (files : Files) (i : Invocation) :
    Finished × Files :=
  let setup := Setup.withDatabasePath {} (i.databasePath.map Files.Path.mk)
  let opening := setup.openOn host files
  match opening.result with
  | .error e =>
      (⟨"", .failure (.ofError "Failed to open preference database" e)⟩, opening.files)
  | .ok opened =>
      let (result, preference) := perform now opened.preference i.command
      let exit := match result.failure with
        | some f => Exit.failure f
        | none => Exit.success
      (⟨result.output.text i.isPlain, exit⟩,
        { opened with preference }.close opening.files)

def run [Wording] (host : Host) (now : Instant) (files : Files) (args : List String) : Finished × Files :=
  match read args with
  | .error stop => (stopped args stop, files)
  | .ok i => runInvocation host now files i

end WallClock.Command

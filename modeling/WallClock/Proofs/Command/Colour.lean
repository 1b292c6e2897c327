import WallClock.Proofs.Command.Flags
import WallClock.Proofs.Command.Written
import WallClock.Proofs.Preference.Opening

/-!
Runs with and without colour. The flag that leaves colour out changes nothing but how a report looks: what is
done, how it ends and what values are written is the same, and a terminal shows of the lines in colour what
the plain lines have, but for their asterisks.
-/

namespace WallClock

def Invocation.plain (i : Invocation) : Invocation :=
  { i with isPlain := true }

namespace Command

open Text Report

/-! ### Arguments that are passed on -/

/-- An answer that makes no other use of what was given at the levels above than to put it into the
invocation. -/
def PassesOn (answer : List Given → Except Stop Invocation) : Prop :=
  ∃ read : Except Stop (Command × List Given), ∀ outer,
    answer outer = read.map fun (command, inner) => invocation command (outer ++ inner)

theorem passesOn_error (stop : Stop) : PassesOn fun _ => .error stop :=
  ⟨.error stop, fun _ => rfl⟩

theorem passesOn_ok (command : Command) (g : Given) :
    PassesOn fun outer => .ok (invocation command (outer ++ [g])) :=
  ⟨.ok (command, [g]), fun _ => rfl⟩

theorem passesOn_bind {α : Type} {x : Except Stop α} {answer : α → List Given → Except Stop Invocation}
    (h : ∀ a, PassesOn (answer a)) : PassesOn fun outer => x >>= fun a => answer a outer := by
  cases x with
  | error stop => exact passesOn_error stop
  | ok a => exact h a

theorem passesOn_below {answer : List Given → Except Stop Invocation} (h : PassesOn answer) (g : Given) :
    PassesOn fun outer => answer (outer ++ [g]) := by
  obtain ⟨read, hread⟩ := h
  refine ⟨read.map fun (command, inner) => (command, g :: inner), fun outer => ?_⟩
  dsimp only
  rw [hread]
  cases read with
  | error stop => rfl
  | ok given =>
    change Except.ok (invocation _ (outer ++ [g] ++ _)) = _
    rw [List.append_assoc]
    rfl

theorem passesOn_readFormat (args : List String) : PassesOn fun outer => readFormat outer args := by
  refine passesOn_bind fun (g, next) => ?_
  dsimp only
  cases g.words.isEmpty with
  | true => exact passesOn_error _
  | false => exact passesOn_ok _ g

theorem passesOn_readSet (args : List String) : PassesOn fun outer => readSet outer args := by
  refine passesOn_bind fun (g, next) => ?_
  dsimp only
  cases g.words.head? with
  | none => exact passesOn_error _
  | some name => exact passesOn_ok _ g

theorem passesOn_readAccess (args : List String) : PassesOn fun outer => readAccess outer args := by
  refine passesOn_bind fun (g, next) => ?_
  dsimp only
  cases g.words.head?.bind Role.ofName? with
  | none => exact passesOn_error _
  | some required => exact passesOn_ok _ g

/-- A level that ends a command line. -/
theorem passesOn_read (level : Level) (args : List String) (command : Given → Command) :
    PassesOn fun outer => level.read args >>= fun (g, _) =>
      .ok (invocation (command g) (outer ++ [g])) :=
  passesOn_bind fun (g, _) => passesOn_ok (command g) g

theorem passesOn_readZone (args : List String) : PassesOn fun outer => readZone outer args := by
  refine passesOn_bind fun (g, next) => ?_
  dsimp only
  split
  · rename_i rest
    exact passesOn_below (passesOn_read plainLevel rest fun _ => .zone .current) g
  · rename_i rest
    exact passesOn_below (passesOn_readSet rest) g
  · rename_i rest
    exact passesOn_below (passesOn_read plainLevel rest fun _ => .zone .clear) g
  · rename_i rest
    exact passesOn_below (passesOn_read listLevel rest fun g =>
      .zone (.list (g.value? filterSwitch.long) (g.has jsonSwitch.long))) g
  · exact passesOn_error _
  · exact passesOn_error _

/-- The answer to what was given at the level of the program. -/
def answer (next : Option (String × List String)) (g : Given) : Except Stop Invocation :=
  match next with
  | some ("format", args) => readFormat [g] args
  | some ("zone", args) => readZone [g] args
  | some ("access", args) => readAccess [g] args
  | some (_, args) => .error (readHelp programLevel args)
  | none => .ok (invocation (.zone .current) [g])

theorem read_eq (args : List String) :
    read args = programLevel.read args >>= fun (g, next) => answer next g := by
  rfl

/-- Below the level of the program nothing looks at what was given above. -/
theorem exists_answer (next : Option (String × List String)) :
    ∃ read : Except Stop (Command × List Given), ∀ g,
      answer next g = read.map fun (command, inner) => invocation command (g :: inner) := by
  have hpassed : ∀ {answer}, PassesOn answer → ∃ read : Except Stop (Command × List Given), ∀ g,
      answer [g] = read.map fun (command, inner) => invocation command (g :: inner) :=
    fun ⟨read, hread⟩ => ⟨read, fun g => hread [g]⟩
  unfold answer
  split
  · rename_i args
    exact hpassed (passesOn_readFormat args)
  · rename_i args
    exact hpassed (passesOn_readZone args)
  · rename_i args
    exact hpassed (passesOn_readAccess args)
  · exact ⟨.error _, fun _ => rfl⟩
  · exact ⟨.ok (.zone .current, []), fun _ => rfl⟩

/-! ### The flag that leaves colour out -/

/-- The flag makes an invocation plain and changes nothing else in it. -/
theorem invocation_withFlag (command : Command) (g : Given) (inner : List Given) :
    invocation command (g.withFlag plainSwitch.long :: inner) =
      (invocation command (g :: inner)).plain := by
  have hpath : (g.withFlag plainSwitch.long :: inner).reverse.findSome? (·.value? databaseSwitch.long) =
      (g :: inner).reverse.findSome? (·.value? databaseSwitch.long) := by
    rw [List.reverse_cons, List.reverse_cons, List.findSome?_append, List.findSome?_append]
    rfl
  have hflag : (g.withFlag plainSwitch.long).has plainSwitch.long = true := by
    rw [Given.has_withFlag, beq_self_eq_true, Bool.or_true]
  rw [invocation, invocation, hpath, List.any_cons, hflag]
  rfl

theorem isPlain_invocation {g : Given} (h : g.has plainSwitch.long = true) (command : Command)
    (inner : List Given) : (invocation command (g :: inner)).isPlain = true := by
  rw [invocation, List.any_cons, h]
  rfl

theorem answer_withFlag (next : Option (String × List String)) (g : Given) :
    answer next (g.withFlag plainSwitch.long) = (answer next g).map Invocation.plain := by
  obtain ⟨read, hread⟩ := exists_answer next
  rw [hread, hread]
  cases read with
  | error stop => rfl
  | ok given => exact congrArg Except.ok (invocation_withFlag given.1 g given.2)

/-- The flag, once given, is not lost below. -/
theorem isPlain_of_answer {next : Option (String × List String)} {g : Given} {i : Invocation}
    (h : answer next g = .ok i) (hg : g.has plainSwitch.long = true) : i.isPlain = true := by
  obtain ⟨read, hread⟩ := exists_answer next
  rw [hread] at h
  cases read with
  | error stop => cases h
  | ok given =>
    cases h
    exact isPlain_invocation hg given.1 given.2

/-- No short spelling stands for the flag. -/
theorem spellsOut_programLevel : programLevel.SpellsOut plainSwitch.long := by
  intro s hs hlong
  simp only [programLevel, commonSwitches, List.mem_cons, List.not_mem_nil, or_false] at hs
  rcases hs with rfl | rfl | rfl | rfl
  · exact absurd hlong (by decide)
  · exact absurd hlong (by decide)
  · exact ⟨rfl, rfl⟩
  · exact absurd hlong (by decide)

theorem read_no_color (args : List String) :
    programLevel.read ("--no-color" :: args) =
      programLevel.readFrom (Given.withFlag {} plainSwitch.long) args := by
  have hlook : look "--no-color" = .switches (.long plainSwitch.long none) := by
    rfl
  have htake : programLevel.take {} (.long plainSwitch.long none) =
      .ok (.done (Given.withFlag {} plainSwitch.long)) := by
    rfl
  exact Level.readFrom_of_done hlook htake

/-- Arguments with the flag in front of them ask for the same, but without colour. -/
theorem read_plain (args : List String) :
    (∀ i, read args = .ok i → i.isPlain = false → read ("--no-color" :: args) = .ok i.plain) ∧
      ∀ stop, read args = .error stop → "--no-color" ∉ args → read ("--no-color" :: args) = .error stop := by
  have hread : read ("--no-color" :: args) =
      programLevel.readFrom (Given.withFlag {} plainSwitch.long) args >>= fun (g, next) => answer next g := by
    rw [read_eq, read_no_color]
  rcases programLevel.readFrom_withFlag spellsOut_programLevel {} args with hsame | ⟨hagain, hhas⟩
  · have hplain : read ("--no-color" :: args) = (read args).map Invocation.plain := by
      rw [hread, hsame, read_eq]
      change _ = (programLevel.readFrom {} args >>= _).map _
      cases programLevel.readFrom {} args with
      | error stop => rfl
      | ok given => exact answer_withFlag given.2 given.1
    rw [hplain]
    constructor
    · intro i hi _
      rw [hi]
      rfl
    · intro stop hstop _
      rw [hstop]
      rfl
  · refine ⟨fun i hi hplain => ?_, fun stop _ hnot => absurd hagain hnot⟩
    rw [read_eq] at hi
    change (programLevel.readFrom {} args >>= _) = _ at hi
    cases hlevel : programLevel.readFrom {} args with
    | error stop =>
      rw [hlevel] at hi
      cases hi
    | ok given =>
      rw [hlevel] at hi
      rw [isPlain_of_answer hi (hhas given.1 given.2 hlevel)] at hplain
      cases hplain

/-! ### What is written -/

/-- How a text in colour differs from a plain one. Values do not; of a report a terminal shows what the plain
text has without its asterisks, as a whole and line by line. -/
structure DiffersInStyle (isValues : Bool) (coloured plain : String) : Prop where
  values : isValues = true → coloured = plain
  report : isValues = false → shown coloured = unmarked plain
  lines : isValues = false → ∃ colouredLines plainLines, lines? coloured = some colouredLines ∧
    lines? plain = some plainLines ∧ colouredLines.map shown = plainLines.map unmarked

theorem differsInStyle_empty (isValues : Bool) : DiffersInStyle isValues "" "" where
  values _ := rfl
  report _ := rfl
  lines _ := ⟨[], [], rfl, rfl, rfl⟩

theorem Writes.differsInStyle {isValues : Bool} {output : Output} (h : Writes isValues output) :
    DiffersInStyle isValues (output.text false) (output.text true) := by
  cases h with
  | values lines => exact ⟨fun _ => rfl, (fun h => nomatch h), (fun h => nomatch h)⟩
  | nothing => exact differsInStyle_empty isValues
  | report hlines =>
    refine ⟨fun h => (nomatch h), fun _ => shown_styled hlines, fun _ => ?_⟩
    exact ⟨_, _, lines?_styled hlines, lines?_plain hlines, shown_lines hlines⟩

/-- Two runs that do the same, one in colour and one without. -/
structure SameButColour (command : Command) (coloured plain : Finished × Files) : Prop where
  exit : coloured.1.exit = plain.1.exit
  files : coloured.2 = plain.2
  output : DiffersInStyle command.writesValues coloured.1.output plain.1.output

/-- Two runs that do not come to a command. They leave the files as they were and end with the same code. What
they tell may be worded differently: of the usage, or of arguments that are not understood. -/
structure StopAlike (files : Files) (coloured plain : Finished × Files) : Prop where
  code : coloured.1.exit.code = plain.1.exit.code
  files : coloured.2 = files ∧ plain.2 = files
  exit : coloured.1.exit.code ≠ 2 → coloured.1.exit = plain.1.exit
  silent : coloured.1.exit.code = 2 → coloured.1.output = "" ∧ plain.1.output = ""

section

variable [Zone.Database]

/-- A command is carried out before it matters whether its output is in colour. -/
theorem sameButColour_invocation (host : Host) (now : Instant) (files : Files) {i : Invocation}
    (h : i.isPlain = false) :
    SameButColour i.command (runInvocation host now files i) (runInvocation host now files i.plain) := by
  rw [runInvocation, runInvocation]
  dsimp only [Invocation.plain]
  cases hresult : ((Setup.withDatabasePath {} (i.databasePath.map Files.Path.mk)).openOn host files).result with
  | error e => exact ⟨rfl, rfl, differsInStyle_empty _⟩
  | ok opened =>
    obtain ⟨_, _, _, _, c, _, _, _, _, _, hopened, _⟩ := Setup.openOn_ok hresult
    have hwrites : Writes i.command.writesValues (perform now opened.preference i.command).1.output := by
      rw [hopened]
      exact writes_perform host.zones_detector host.listed_detected now i.command
    refine ⟨rfl, rfl, ?_⟩
    rw [h]
    exact hwrites.differsInStyle

omit [Zone.Database] in
/-- The arguments may show in what is told of them, but in nothing else. -/
theorem stopAlike_stopped [Wording] (files : Files) (args plainArgs : List String) (stop : Stop) :
    StopAlike files (stopped args stop, files) (stopped plainArgs stop, files) := by
  cases stop with
  | help | version => exact ⟨rfl, ⟨rfl, rfl⟩, fun _ => rfl, fun hcode => nomatch hcode⟩
  | misuse m => exact ⟨rfl, ⟨rfl, rfl⟩, fun hcode => absurd rfl hcode, fun _ => ⟨rfl, rfl⟩⟩

/-- A run with the flag in front of its arguments differs from the run without it in colour alone, and so
does any run that is asked for the same without colour. It ends in the same way, leaves the same files and
with them the same preferences, and writes the same values. Of a report in colour a terminal shows the plain
lines without their asterisks. Where the arguments ask for nothing that can be done, the run stops with the
same code, and both leave the files as they were. -/
theorem colour_alone_differs [Wording] (host : Host) (now : Instant) (files : Files) (args : List String) :
    (∀ i, read args = .ok i → i.isPlain = false →
      read ("--no-color" :: args) = .ok i.plain ∧
        ∀ plainArgs, read plainArgs = .ok i.plain →
          SameButColour i.command (run host now files args) (run host now files plainArgs)) ∧
      ∀ stop, read args = .error stop → "--no-color" ∉ args →
        read ("--no-color" :: args) = .error stop ∧
          StopAlike files (run host now files args) (run host now files ("--no-color" :: args)) := by
  obtain ⟨hplain, hstopped⟩ := read_plain args
  constructor
  · intro i hi hcolour
    refine ⟨hplain i hi hcolour, fun plainArgs hargs => ?_⟩
    rw [run_of_read now hi, run_of_read now hargs]
    exact sameButColour_invocation host now files hcolour
  · intro stop hstop hnot
    have hflagged := hstopped stop hstop hnot
    refine ⟨hflagged, ?_⟩
    rw [run_of_stop now hstop, run_of_stop now hflagged]
    exact stopAlike_stopped files args _ stop

end

/-- The zone is shown in colour with a new database. Without colour it is told in the same lines. A switch that
there is not ends the run with the same code. -/
theorem zone_shown_without_colour :
    let args := ["--database-file", "tzs.db", "zone", "show"]
    let runs := run {} ⟨0, by decide, by decide⟩ { items := [] }
    read args = .ok ⟨.zone .current, some "tzs.db", false⟩ ∧
      (runs args).1.exit = (runs ("--no-color" :: args)).1.exit ∧
      (runs args).2 = (runs ("--no-color" :: args)).2 ∧
      shown (runs args).1.output = "# Display zone\n\nZone: UTC\nSource: fallback\n" ∧
      unmarked (runs ("--no-color" :: args)).1.output = "# Display zone\n\nZone: UTC\nSource: fallback\n" ∧
      read ["--bogus"] = .error (.misuse (.unknownSwitch "--bogus")) ∧
      (runs ["--bogus"]).1.exit.code = (runs ["--no-color", "--bogus"]).1.exit.code := by
  intro args runs
  have hread : read args = .ok ⟨.zone .current, some "tzs.db", false⟩ := by
    decide +kernel
  have hbogus : read ["--bogus"] = .error (.misuse (.unknownSwitch "--bogus")) := by
    decide +kernel
  have hdiffers := colour_alone_differs {} ⟨0, by decide, by decide⟩ { items := [] }
  obtain ⟨hplain, hsame⟩ := (hdiffers args).1 _ hread rfl
  obtain ⟨-, hstops⟩ := (hdiffers ["--bogus"]).2 _ hbogus (by decide)
  have halike := hsame _ hplain
  have hshown := halike.output.report rfl
  have hunmarked : unmarked (runs ("--no-color" :: args)).1.output =
      "# Display zone\n\nZone: UTC\nSource: fallback\n" := by
    decide +kernel
  exact ⟨hread, halike.exit, halike.files, hshown.trans hunmarked, hunmarked, hbogus, hstops.code⟩

/-- Texts that tell the usage as well, with the flag in it if it was given. -/
@[reducible] def Wording.withUsage : Wording where
  help _ := "Usage: tzs [OPTIONS] [COMMAND]\n"
  misuse args m :=
    let options := if args.contains "--no-color" then "--no-color" else "[OPTIONS]"
    "error: " ++ m.message ++ "\n\nUsage: tzs " ++ options ++ " [COMMAND]\n\n" ++
      "For more information, try '--help'.\n"

/-- The flag cannot be given once more, and what is told of arguments that are not understood may differ by
it. -/
theorem colour_not_alone_differs :
    let once := ["--database-file", "tzs.db", "--no-color", "format", "--zone", "africa/abidjan",
      "2024-01-01T12:00:00Z"]
    let ends := fun wording args => (@run _ wording {} ⟨0, by decide, by decide⟩ { items := [] } args).1
    (∀ wording, ends wording once = ⟨"2024-01-01 12:00\n", .success⟩) ∧
      (∀ wording, (ends wording ("--no-color" :: once)).exit.code = 2) ∧
      (ends .withUsage ["--bogus"]).exit.text ≠ (ends .withUsage ["--no-color", "--bogus"]).exit.text := by
  intro once ends
  refine ⟨fun wording => ?_, fun wording => ?_, ?_⟩
  · have hread : read once =
        .ok ⟨.format ["2024-01-01T12:00:00Z"] (some "africa/abidjan") false, some "tzs.db", true⟩ := by
      decide +kernel
    refine (congrArg Prod.fst (run_of_read _ hread)).trans ?_
    decide +kernel
  · have hread : read ("--no-color" :: once) = .error (.misuse (.repeated "no-color")) := by
      decide +kernel
    have hends : ends wording ("--no-color" :: once) =
        @stopped wording ("--no-color" :: once) (.misuse (.repeated "no-color")) :=
      congrArg Prod.fst (run_of_stop _ hread)
    rw [hends]
    rfl
  · decide +kernel

end Command

end WallClock

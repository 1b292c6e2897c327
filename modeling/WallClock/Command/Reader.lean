import WallClock.Command
import WallClock.Command.Arguments

/-!
What the arguments of a command line ask for. The switches for the database and for colour exist at
every level; of paths given at several levels the innermost counts, and colour is off if it is
switched off at any.
-/

namespace WallClock.Command

/-! ### Levels of the program -/

def databaseSwitch : Switch where
  long := "database-file"
  use := .value fun path => path ≠ ""

def plainSwitch : Switch where
  long := "no-color"
  use := .flag

def helpSwitch : Switch where
  long := "help"
  short := some 'h'
  use := .help

def versionSwitch : Switch where
  long := "version"
  short := some 'V'
  use := .version

def commonSwitches : List Switch :=
  [databaseSwitch, plainSwitch, helpSwitch]

def zoneSwitch : Switch where
  long := "zone"
  short := some 'z'
  use := .value fun _ => true

def strictSwitch : Switch where
  long := "strict"
  use := .flag

def filterSwitch : Switch where
  long := "filter"
  short := some 'f'
  use := .value fun _ => true

def jsonSwitch : Switch where
  long := "json"
  use := .flag

def isRole (name : String) : Bool :=
  (Role.ofName? name).isSome

def roleSwitch : Switch where
  long := "role"
  short := some 'r'
  use := .value isRole

def programLevel : Level where
  switches := versionSwitch :: commonSwitches
  commands := [("format", "format"), ("f", "format"), ("zone", "zone"), ("z", "zone"),
    ("access", "access"), ("help", "help")]

def formatLevel : Level where
  switches := zoneSwitch :: strictSwitch :: commonSwitches
  mostWords := none

def zoneLevel : Level where
  switches := commonSwitches
  commands := [("show", "show"), ("s", "show"), ("set", "set"), ("clear", "clear"),
    ("list", "list"), ("ls", "list"), ("help", "help")]

/-- The level of a command that has only the common switches. -/
def plainLevel : Level where
  switches := commonSwitches

def setLevel : Level where
  switches := commonSwitches
  mostWords := some 1

def listLevel : Level where
  switches := filterSwitch :: jsonSwitch :: commonSwitches

def accessLevel : Level where
  switches := roleSwitch :: commonSwitches
  mostWords := some 1
  isUsableWord := isRole

/-! ### Reading -/

/-- The invocation of a command, given what stands at each level, the outermost first. -/
def invocation (command : Command) (levels : List Given) : Invocation where
  command := command
  databasePath := levels.reverse.findSome? (·.value? databaseSwitch.long)
  isPlain := levels.any (·.has plainSwitch.long)

/-- The level below a command. -/
def levelBelow (command : String) : Level :=
  if command = "zone" then zoneLevel else plainLevel

/-- Asks for help on the command that words lead to, each naming a command of the level below the one
before it. Whatever they begin with, all that follow are words. -/
def readHelp (level : Level) : List String → Stop
  | [] => .help
  | word :: rest =>
      match level.commands.lookup word with
      | some command => readHelp (levelBelow command) rest
      | none => .misuse (.unexpectedWord word)

def readFormat (outer : List Given) (args : List String) : Except Stop Invocation := do
  let (g, _) ← formatLevel.read args
  if g.words.isEmpty then .error (.misuse (.missingWord "instants"))
  else
    .ok (invocation (.format g.words (g.value? zoneSwitch.long) (g.has strictSwitch.long))
      (outer ++ [g]))

def readSet (outer : List Given) (args : List String) : Except Stop Invocation := do
  let (g, _) ← setLevel.read args
  match g.words.head? with
  | some name => .ok (invocation (.zone (.set name)) (outer ++ [g]))
  | none => .error (.misuse (.missingWord "zone"))

def readZone (outer : List Given) (args : List String) : Except Stop Invocation := do
  let (g, next) ← zoneLevel.read args
  let outer := outer ++ [g]
  match next with
  | some ("show", args) =>
      let (g, _) ← plainLevel.read args
      .ok (invocation (.zone .current) (outer ++ [g]))
  | some ("set", args) => readSet outer args
  | some ("clear", args) =>
      let (g, _) ← plainLevel.read args
      .ok (invocation (.zone .clear) (outer ++ [g]))
  | some ("list", args) =>
      let (g, _) ← listLevel.read args
      .ok (invocation (.zone (.list (g.value? filterSwitch.long) (g.has jsonSwitch.long)))
        (outer ++ [g]))
  | some (_, args) => .error (readHelp zoneLevel args)
  | none => .error (.misuse .missingCommand)

def readAccess (outer : List Given) (args : List String) : Except Stop Invocation := do
  let (g, _) ← accessLevel.read args
  match g.words.head?.bind Role.ofName? with
  | some required =>
      .ok (invocation (.access required ((g.value? roleSwitch.long).bind Role.ofName?))
        (outer ++ [g]))
  | none => .error (.misuse (.missingWord "role"))

/-- The invocation that the arguments ask for. Without a command it is the one that says which zone
is used. -/
def read (args : List String) : Except Stop Invocation := do
  let (g, next) ← programLevel.read args
  match next with
  | some ("format", args) => readFormat [g] args
  | some ("zone", args) => readZone [g] args
  | some ("access", args) => readAccess [g] args
  | some (_, args) => .error (readHelp programLevel args)
  | none => .ok (invocation (.zone .current) [g])

end WallClock.Command

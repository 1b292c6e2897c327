/-!
Arguments on a command line, before they mean anything. Commands are nested levels, and each level
has switches and words of its own. `Level.read` reads a level from left to right, up to the word that
names a command of the next level. A switch may be given once at each level.
-/

namespace WallClock.Command

/-- Why arguments are not understood. -/
inductive Misuse where
  | unknownSwitch (spelling : String)
  | unexpectedWord (word : String)
  | unexpectedValue (name : String)
  | missingValue (name : String)
  | unusable (value : String)
  | repeated (name : String)
  | missingWord (what : String)
  | missingCommand
deriving DecidableEq, Repr

/-- Why the arguments are not read to their end. -/
inductive Stop where
  /-- Help is asked for. -/
  | help
  /-- The version is asked for. -/
  | version
  | misuse (m : Misuse)
deriving DecidableEq, Repr

/-! ### Levels -/

/-- What a switch is for. -/
inductive Use where
  | flag
  /-- It is followed by a value, which must be usable. -/
  | value (isUsable : String → Bool)
  | help
  | version

/-- An argument that begins with a hyphen: `--long`, or `-s` with the letter `short`. -/
structure Switch where
  long : String
  short : Option Char := none
  use : Use

/-- What may be given at one level. -/
structure Level where
  switches : List Switch
  /-- The spellings of the commands of the next level, each with its proper name. -/
  commands : List (String × String) := []
  /-- The most words that may be given, if there is a limit. -/
  mostWords : Option Nat := some 0
  isUsableWord : String → Bool := fun _ => true

/-- What has been given at a level. -/
structure Given where
  flags : List String := []
  values : List (String × String) := []
  words : List String := []
deriving DecidableEq, Repr

namespace Given

def has (g : Given) (name : String) : Bool :=
  g.flags.contains name

/-- The value that was given for a switch. -/
def value? (g : Given) (name : String) : Option String :=
  g.values.lookup name

def addFlag (g : Given) (name : String) : Except Stop Given :=
  if g.has name then .error (.misuse (.repeated name))
  else .ok { g with flags := name :: g.flags }

def addValue (g : Given) (name : String) (isUsable : String → Bool) (value : String) :
    Except Stop Given :=
  if !isUsable value then .error (.misuse (.unusable value))
  else if (g.value? name).isSome then .error (.misuse (.repeated name))
  else .ok { g with values := (name, value) :: g.values }

def addWord (g : Given) (level : Level) (word : String) : Except Stop Given :=
  if level.mostWords.any (· ≤ g.words.length) then .error (.misuse (.unexpectedWord word))
  else if !level.isUsableWord word then .error (.misuse (.unusable word))
  else .ok { g with words := g.words ++ [word] }

/-- More words, whatever they begin with. -/
def addWords (g : Given) (level : Level) : List String → Except Stop Given
  | [] => .ok g
  | word :: rest => do
      let g ← g.addWord level word
      addWords g level rest

end Given

/-! ### Reading -/

inductive Spelling where
  /-- Two hyphens and a name, with a value after an equals sign. -/
  | long (name : String) (value : Option String)
  /-- A hyphen and letters. -/
  | short (letters : List Char)

/-- What an argument looks like. -/
inductive Look where
  /-- Two hyphens alone: all that follows are words. -/
  | separator
  | switches (s : Spelling)
  | word

/-- The look of an argument. A hyphen alone is a word. -/
def look (arg : String) : Look :=
  match arg.toList with
  | ['-', '-'] => .separator
  | '-' :: '-' :: s =>
      let name := String.ofList (s.takeWhile (· != '='))
      match s.dropWhile (· != '=') with
      | [] => .switches (.long name none)
      | _ :: value => .switches (.long name (some (String.ofList value)))
  | '-' :: c :: s => .switches (.short (c :: s))
  | _ => .word

/-- Whether an argument can be the value of the switch before it. -/
def isValue (arg : String) : Bool :=
  match look arg with
  | .word => true
  | _ => false

/-- What came of a switch: what has been given with it, or that its value is still to come. -/
inductive Taken where
  | done (g : Given)
  | awaits (name : String) (isUsable : String → Bool)

/-- Takes a switch with the value attached to it. -/
def takeSwitch (g : Given) (s : Switch) (value : Option String) : Except Stop Taken :=
  match s.use, value with
  | .value isUsable, some value => (g.addValue s.long isUsable value).map .done
  | .value isUsable, none => .ok (.awaits s.long isUsable)
  | _, some _ => .error (.misuse (.unexpectedValue s.long))
  | .flag, none => (g.addFlag s.long).map .done
  | .help, none => .error .help
  | .version, none => .error .version

namespace Level

def takeLong (level : Level) (g : Given) (name : String) (value : Option String) :
    Except Stop Taken :=
  match level.switches.find? (·.long == name) with
  | some s => takeSwitch g s value
  | none => .error (.misuse (.unknownSwitch ("--" ++ name)))

/-- The value that is joined to a letter, from what stands after the letter. -/
def joined? : List Char → Option String
  | [] => none
  | '=' :: s => some (String.ofList s)
  | s => some (String.ofList s)

/-- Takes switches by their letters. What follows the letter of a switch with a value is the
value. -/
def takeShort (level : Level) (g : Given) : List Char → Except Stop Taken
  | [] => .ok (.done g)
  | c :: s =>
      match level.switches.find? (·.short == some c) with
      | none => .error (.misuse (.unknownSwitch ("-" ++ c.toString)))
      | some switch =>
          match switch.use with
          | .value _ => takeSwitch g switch (joined? s)
          | _ =>
              match takeSwitch g switch none with
              | .ok (.done g) => takeShort level g s
              | taken => taken

def take (level : Level) (g : Given) : Spelling → Except Stop Taken
  | .long name value => level.takeLong g name value
  | .short letters => level.takeShort g letters

/-- Reads a level: what is given at it, and the command of the next level with the arguments that are
left for it. -/
def readFrom (level : Level) (g : Given) :
    List String → Except Stop (Given × Option (String × List String))
  | [] => .ok (g, none)
  | arg :: rest =>
      match look arg with
      | .separator => (g.addWords level rest).map fun g => (g, none)
      | .word =>
          match level.commands.lookup arg with
          | some command => .ok (g, some (command, rest))
          | none =>
              match g.addWord level arg with
              | .ok g => readFrom level g rest
              | .error stop => .error stop
      | .switches s =>
          match level.take g s, rest with
          | .error stop, _ => .error stop
          | .ok (.done g), rest => readFrom level g rest
          | .ok (.awaits name _), [] => .error (.misuse (.missingValue name))
          | .ok (.awaits name isUsable), value :: rest =>
              if isValue value then
                match g.addValue name isUsable value with
                | .ok g => readFrom level g rest
                | .error stop => .error stop
              else .error (.misuse (.missingValue name))

/-- Reads a level at which nothing has been given yet. -/
def read (level : Level) (args : List String) :
    Except Stop (Given × Option (String × List String)) :=
  level.readFrom {} args

end Level

end WallClock.Command

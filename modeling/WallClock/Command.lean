import WallClock.Role

/-!
What can be asked of the program.
-/

namespace WallClock

/-- What can be asked about the zone to show times in. -/
inductive ZoneCommand where
  /-- Say which zone it is and where it comes from. -/
  | current
  /-- Store a zone. -/
  | set (zone : String)
  /-- Forget the stored zone. -/
  | clear
  /-- List the zones to choose from, only those that contain a text if one is given. -/
  | list (filter : Option String) (json : Bool)
deriving DecidableEq, Repr

inductive Command where
  /-- Show instants in a zone. What is no instant is shown as it is, unless that is `strict`ly
  refused. -/
  | format (instants : List String) (zone : Option String) (strict : Bool)
  | zone (command : ZoneCommand)
  /-- Say whether a role may open a view. -/
  | access (required : Role) (role : Option Role)
deriving DecidableEq, Repr

/-- A command and how it is carried out. -/
structure Invocation where
  command : Command
  /-- Where the database of preferences lies. -/
  databasePath : Option String := none
  /-- Whether reports are left without colour. -/
  isPlain : Bool := false
deriving DecidableEq, Repr

namespace Command

def programName : String := "tzs"

def version : String := programName ++ " 0.1.0"

end Command

end WallClock

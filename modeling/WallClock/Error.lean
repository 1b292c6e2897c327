/-!
What can go wrong outside the command line, as causes. `message` gives the wording of each, and
`source?` the deeper cause that a report of failure names below it.
-/

namespace WallClock

/-- A failure of reading an instant or a zone, or of keeping preferences. -/
inductive Error where
  /-- A text that is no instant, or one that lies too early. -/
  | invalidInstant (input reason : String)
  /-- A zone that is not in the directory, as it was given and as it was looked up. -/
  | unknownZone (zone sought : String)
  /-- A statement that the database refused. -/
  | database (attempt cause : String)
  /-- A directory that could not be made. -/
  | fileSystem (path cause : String)
  /-- The directory for the data of applications could not be made. -/
  | dataDirectory (cause : String)
  /-- A value that cannot be used as it is kept. -/
  | configuration (detail : String)
deriving DecidableEq, Repr

namespace Error

/-- What is said of a name that the directory of zones does not have. -/
def notInDirectory (sought : String) : String :=
  "failed to find time zone `" ++ sought ++ "` in time zone database"

def message : Error → String
  | invalidInstant input reason => "Invalid instant '" ++ input ++ "': " ++ reason
  | unknownZone zone sought =>
      "Unknown time zone '" ++ zone ++ "': " ++ notInDirectory sought
  | database attempt _ => "Database error: " ++ attempt
  | fileSystem path cause => "File system error at path '" ++ path ++ "': " ++ cause
  | dataDirectory cause => "XDG directory error: " ++ cause
  | configuration detail => "Configuration error: " ++ detail

/-- The deeper cause, if the error has one of its own. -/
def source? : Error → Option String
  | unknownZone _ sought => some (notInDirectory sought)
  | database _ cause => some cause
  | fileSystem _ cause => some cause
  | _ => none

/-- Whether the error is about what was to be shown: the instant or the zone. -/
def isFormatError : Error → Bool
  | invalidInstant .. => true
  | unknownZone .. => true
  | _ => false

/-- A failure elsewhere, told with what was being done. -/
def inContext (context cause : String) : Error :=
  configuration (context ++ ": " ++ cause)

end Error

end WallClock

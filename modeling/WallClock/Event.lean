import WallClock.Zone

/-!
What the library has to say about its work, and how urgent it is.
-/

namespace WallClock

inductive Event where
  /-- The stored zone cannot be read or used. -/
  | ignoringStored (cause : Error)
  | usingStored (zone : String)
  | usingDetected (zone : String)
  | storing (zone : String)
  | clearing
  | opening (path : String)
  | addingUpdatedAt
deriving DecidableEq, Repr

/-- How urgent an event is. -/
inductive Event.Level where
  | warning
  | detail
deriving DecidableEq, Repr

namespace Event

def level : Event → Level
  | ignoringStored _ => .warning
  | _ => .detail

def message : Event → String
  | ignoringStored cause => "Ignoring stored display zone: " ++ cause.message
  | usingStored zone => "Using stored display zone " ++ zone
  | usingDetected zone => "Using detected display zone " ++ zone
  | storing zone => "Storing display zone " ++ zone
  | clearing => "Clearing display zone"
  | opening path => "Opening preference database at " ++ path
  | addingUpdatedAt => "Adding updated_at column to preferences table"

end Event

end WallClock

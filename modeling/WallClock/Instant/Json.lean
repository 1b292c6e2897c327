import WallClock.Instant.Printer
import WallClock.Instant.Reader
import WallClock.Json.Value

/-!
Instants as JSON: a string that holds the timestamp and nothing else, not even blanks. The whole time
line may be read, years before the first included.
-/

namespace WallClock.Instant

open Json

def toJson (i : Instant) : Value :=
  .ofString i.text

def ofJson? : Value → Option Instant
  | .string (some timestamp) => read? timestamp
  | _ => none

def ofJsonText? (s : String) : Option Instant :=
  (Value.parse? s).bind ofJson?

end WallClock.Instant

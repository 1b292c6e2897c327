import WallClock.Json.Layout
import WallClock.Report
import WallClock.Zone

/-!
A zone to show times in, with the reason why it is this one.
-/

namespace WallClock

/-- Where a zone to show times in comes from. -/
inductive Source where
  /-- It was chosen and stored. -/
  | stored
  /-- It is the zone of the host. -/
  | detected
  /-- Neither is known. -/
  | fallback
deriving DecidableEq, Repr

def Source.name : Source → String
  | stored => "stored"
  | detected => "detected"
  | fallback => "fallback"

structure Resolved where
  zone : Zone
  source : Source

namespace Resolved

/-- The lines that give zone and source. -/
def report (r : Resolved) : Report where
  lines := [Report.field "Zone" r.zone.name, Report.field "Source" r.source.name]

def toJson (r : Resolved) : Json.Value :=
  .ofMembers [("zone", .ofString r.zone.name), ("source", .ofString r.source.name)]

end Resolved

end WallClock

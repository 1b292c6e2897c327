import WallClock.Civil.Minute
import WallClock.Instant.Reader
import WallClock.Zone

/-!
What a clock on the wall shows: an instant as civil time to the minute in a zone. What is left of a
minute is cut off, before 1970 as after it.
-/

namespace WallClock

/-- The minutes from 1970-01-01 00:00 to the instant on a clock of the zone, rounded down. -/
def Zone.localMinute (zone : Zone) (i : Instant) : Int :=
  (i.nanos + zone.offsetAt i * nanosPerSecond) / (60 * nanosPerSecond)

namespace Display

/-- The instant as a clock of the zone shows it. -/
def text (i : Instant) (zone : Zone) : String :=
  String.ofList (Civil.Minute.text (zone.localMinute i))

/-- The instant that `input` denotes, as a clock of the zone shows it. -/
def ofInstantText (input : String) (zone : Zone) : Except Error String :=
  (Instant.ofText input).map fun i => text i zone

/-- The instant and the zone given as texts. The instant is looked at first. -/
def ofTexts [Zone.Database] (input zone : String) : Except Error String :=
  match Instant.ofText input with
  | .error e => .error e
  | .ok i => (Zone.parse zone).map fun zone => text i zone

end Display

end WallClock

import WallClock.Text.Blank
import WallClock.Zone
import WallClock.Zone.Recurring.Reader

/-!
What a host can tell about time zones: the zone it is in and the zones it knows, either of which may
be missing. `ofSetting` reads the setting that hosts keep in the variable `TZ`.
-/

namespace WallClock

/-- What is known of the zones of a host. -/
structure Detector where
  /-- The zone the host is in, if it can tell. -/
  detected : Option Zone := none
  /-- The names of the zones it knows, if it can list them. -/
  zones : Option (List String) := none

namespace Detector

/-- Where the path of a file in the database of zones begins to name a zone. -/
def databaseMark : List Char := "zoneinfo/".toList

/-- What follows the last mark of the database of zones; the whole text if there is none. -/
def afterMark : List Char → List Char
  | [] => []
  | c :: s =>
      if Text.occursIn databaseMark s then afterMark s
      else if databaseMark.isPrefixOf (c :: s) then (c :: s).drop databaseMark.length
      else c :: s

variable [Zone.Database]

/-- The zone that the setting of a host names. An empty setting means universal time. A setting that
spells out a recurring rule has no name, and neither has the zone of which nothing is known. -/
def zoneOfSetting (setting : String) : Option Zone :=
  let text := setting.toList
  if text.isEmpty then some Zone.utc
  else if (Zone.Recurring.read? text).isSome then none
  else
    let name := String.ofList (afterMark (if text.head? = some ':' then text.tail else text))
    if Zone.sameName name Zone.unknownName then none else Zone.find? name

/-- A host with this setting that knows all zones. -/
def ofSetting (setting : String) : Detector where
  detected := zoneOfSetting setting
  zones := some Zone.names

end Detector

end WallClock

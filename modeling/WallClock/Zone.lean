import WallClock.Error
import WallClock.Instant
import WallClock.Text.Blank
import WallClock.Text.Case
import WallClock.Zone.Names
import WallClock.Zone.Tables

/-!
Time zones and the directory in which they are looked up. A lookup disregards the case of ASCII
letters and answers the zone under its canonical spelling. The one name outside the list is
`Etc/Unknown`, which keeps the spelling it was given and runs on universal time. The rules of the names
come from a database of their own, of which any may be in use.
-/

namespace WallClock

/-- A zone: its name and its rules of local time. -/
structure Zone where
  name : String
  rules : Zone.Rules

/-- A database of time zones: the rules of local time by the name of the zone. -/
class Zone.Database where
  rulesOf : String → Zone.Rules
  rulesOf_utc : rulesOf "UTC" = .universal

namespace Zone

/-- The database of the tables that are here. It stands in for a whole one: a name that has no table is
given universal time in place of its own rules. -/
instance Database.ofTables : Database where
  rulesOf name := (tabulated? name).getD .universal
  rulesOf_utc := rfl

/-- Zones are told apart by their names alone. -/
instance : BEq Zone := ⟨fun a b => a.name == b.name⟩

def utc : Zone where
  name := "UTC"
  rules := .universal

/-- The name of the zone of which nothing is known. -/
def unknownName : String := "Etc/Unknown"

/-- Whether two names are equal but for the case of ASCII letters. -/
def sameName (a b : String) : Bool :=
  Text.folded a == Text.folded b

variable [Database]

/-- The zone of this name, which has no blanks at its ends. -/
def find? (name : String) : Option Zone :=
  if sameName name unknownName then some ⟨name, .universal⟩
  else
    let sought := Text.folded name
    (names.find? fun listed => Text.folded listed == sought).map fun listed =>
      ⟨listed, Database.rulesOf listed⟩

/-- The zone that a text names, blanks at its ends disregarded. -/
def parse (input : String) : Except Error Zone :=
  let sought := Text.trimmed input
  match find? sought with
  | some zone => .ok zone
  | none => .error (.unknownZone input sought)

/-- The offset in effect at an instant, in seconds east of Greenwich. The second is rounded down and not
toward zero: an instant that lies before a transition by a fraction of a second lies before it, also before
1970. In Kolkata 1941-09-30T18:29:59.999999999Z is still shown as 23:59, the clocks being turned at 18:30. -/
def offsetAt (zone : Zone) (i : Instant) : Int :=
  zone.rules.offsetAt i.second

end Zone

end WallClock

import WallClock.Detector
import WallClock.Text.Case

/-!
The selector of zones: the names to choose from, in order and without repetitions, and the one that
is selected. A filter keeps the names that contain a text and always the selected one.
-/

namespace WallClock

structure Selector where
  /-- The names in the order in which they are offered. -/
  zones : List String
  selected : String
  /-- Whether all zones of the host are offered, and not only the detected one. -/
  complete : Bool
deriving DecidableEq, Repr

namespace Selector

/-- The names with `name` at its place in order, unless it is there already. -/
def insert (name : String) : List String → List String
  | [] => [name]
  | first :: rest =>
      if name < first then name :: first :: rest
      else if name = first then first :: rest
      else first :: insert name rest

/-- The names in order, each once. -/
def ordered (names : List String) : List String :=
  names.foldr insert []

/-- The names that a detector offers, and whether they are all that the host has. A detector that
lists no zones offers the one it detects, or else universal time. -/
def offered (detector : Detector) : List String × Bool :=
  match detector.zones with
  | some (first :: rest) => (first :: rest, true)
  | _ => ([(detector.detected.map (·.name)).getD Zone.utc.name], false)

/-- The selector over what the detector offers. The selected zone is among its names. -/
def ofDetector (detector : Detector) (selected : Zone) : Selector where
  zones := ordered (selected.name :: (offered detector).1)
  selected := selected.name
  complete := (offered detector).2

def size (s : Selector) : Nat :=
  s.zones.length

def isEmpty (s : Selector) : Bool :=
  s.zones.isEmpty

def isSelected (s : Selector) (name : String) : Bool :=
  s.selected == name

/-- The selector with only those names that contain `needle`, the case of ASCII letters disregarded,
and the selected one. -/
def filtered (s : Selector) (needle : String) : Selector :=
  { s with zones := s.zones.filter fun name => s.isSelected name || Text.containsFolded name needle }

end Selector

end WallClock

import WallClock.Json.Layout
import WallClock.Selector

/-!
The selector as JSON: an object with the members `zones`, `selected` and `complete`, written in this
order. When it is read the order is free, further members are passed over, and each of the three must
be there exactly once; an array of the three values is read as well.
-/

namespace WallClock.Selector

open Json

def toJson (s : Selector) : Value :=
  .ofMembers [("zones", .array (s.zones.map .ofString)), ("selected", .ofString s.selected),
    ("complete", .bool s.complete)]

/-- The value of the only member of this name. -/
def onlyMember? (name : String) (members : List (Content × Value)) : Option Value :=
  match members.filter fun member => member.1 == some name.toList with
  | [member] => some member.2
  | _ => none

/-- The strings of an array that holds nothing else. -/
def strings? (v : Value) : Option (List String) :=
  v.array?.bind fun elements => elements.mapM Value.string?

/-- The selector that three values give. -/
def ofValues? (zones selected complete : Value) : Option Selector := do
  let zones ← strings? zones
  let selected ← selected.string?
  let complete ← complete.bool?
  some ⟨zones, selected, complete⟩

/-- The selector that a value of JSON gives. Each name of a member must have content. -/
def ofJson? : Value → Option Selector
  | .object members => do
      if members.any (·.1.isNone) then none
      else
        let zones ← onlyMember? "zones" members
        let selected ← onlyMember? "selected" members
        let complete ← onlyMember? "complete" members
        ofValues? zones selected complete
  | .array [zones, selected, complete] => ofValues? zones selected complete
  | _ => none

def parse? (s : String) : Option Selector :=
  (Value.parse? s).bind ofJson?

end WallClock.Selector

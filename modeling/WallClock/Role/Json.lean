import WallClock.Json.Value
import WallClock.Role

/-!
Roles as JSON: the name as a string, or an object whose only member has the name and is null. Names
are in lower case.
-/

namespace WallClock.Role

open Json

def toJson (r : Role) : Value :=
  .ofString r.name

def ofJson? : Value → Option Role
  | .string (some name) => ofName? (String.ofList name)
  | .object [(some name, .null)] => ofName? (String.ofList name)
  | _ => none

def ofJsonText? (s : String) : Option Role :=
  (Value.parse? s).bind ofJson?

end WallClock.Role

import WallClock.Text.Lowercase

/-!
Roles and the views that they may open. Without a role no view is open; a view for administrators
is open to administrators alone.
-/

namespace WallClock

inductive Role where
  | admin
  | user
deriving DecidableEq, Repr

namespace Role

def name : Role → String
  | admin => "admin"
  | user => "user"

/-- The role of exactly this name. -/
def ofName? (name : String) : Option Role :=
  if name = admin.name then some admin
  else if name = user.name then some user
  else none

/-- The role whose name the text is once it is in lower case. Blanks are not disregarded. -/
def parse? (input : String) : Option Role :=
  ofName? (String.ofList (Text.lowercase input.toList))

/-- What is said of a text that names no role. -/
def refusal (input : String) : String :=
  "Invalid role: " ++ input

/-- Whether a view that requires the role `required` is open. -/
def mayOpen (role : Option Role) (required : Role) : Bool :=
  match role, required with
  | none, _ => false
  | some _, user => true
  | some role, admin => role == admin

end Role

end WallClock

import WallClock.Files.Path
import WallClock.Store.Database

/-!
A tree of directories and files, given as what stands at each place. Directories are made with those
they lie in, as far as these are missing.
-/

namespace WallClock

/-- A place in the tree: the names that lead to it, the last one first. The root has none. -/
abbrev Files.Place := List Files.Name

/-- What may stand at a place. -/
inductive Files.Item where
  | directory
  | file (content : Store.Storage)
deriving DecidableEq, Repr

/-- A tree of files and the directory in it from which paths start that have no slash in front. The
root is always a directory. -/
structure Files where
  items : List (Files.Place × Files.Item)
  working : Files.Place := []

namespace Files

/-- Why a path leads nowhere or a directory cannot be made. -/
inductive Fault where
  | missing
  | occupied
  | notDirectory
  | nameTooLong
  | zeroByte
deriving DecidableEq, Repr

def Fault.message : Fault → String
  | missing => "No such file or directory (os error 2)"
  | occupied => "File exists (os error 17)"
  | notDirectory => "Not a directory (os error 20)"
  | nameTooLong => "File name too long (os error 36)"
  | zeroByte => "file name contained an unexpected NUL byte"

def longestName : Nat := 255

def longestPath : Nat := 4095

/-- The path from the root to a place, in bytes. -/
def pathTo (place : Place) : List UInt8 :=
  place.reverse.flatMap fun name => slash :: name

def item? (fs : Files) : Place → Option Item
  | [] => some .directory
  | place => fs.items.lookup place

/-- The tree without what stands at the place. -/
def remove (fs : Files) (place : Place) : Files :=
  { fs with items := fs.items.filter fun entry => entry.1 != place }

/-- The tree with the item at the place, whatever was there. -/
def put (fs : Files) (place : Place) (item : Item) : Files :=
  { fs with items := (place, item) :: (fs.remove place).items }

/-- The place that names lead to from another place. All but the last must be directories. -/
def walk (fs : Files) (place : Place) : List Name → Except Fault Place
  | [] => .ok place
  | name :: rest =>
      match fs.item? place with
      | none => .error .missing
      | some (.file _) => .error .notDirectory
      | some .directory =>
          if name = Name.outer then walk fs place.tail rest
          else if longestName < name.length then .error .nameTooLong
          else walk fs (name :: place) rest

/-- The place from which a route starts. -/
def start (fs : Files) (r : Route) : Place :=
  if r.fromRoot then [] else fs.working

/-- The place of a route. What is named last need not exist. -/
def place (fs : Files) (r : Route) : Except Fault Place :=
  fs.walk (fs.start r) r.names

def itemOn? (fs : Files) (r : Route) : Option Item :=
  match fs.place r with
  | .error _ => none
  | .ok place => (fs.item? place).filter fun item => !r.toDirectory || item == .directory

/-- Why a path is not followed at all. -/
def refusal? (p : Path) : Option Fault :=
  if p.bytes.contains 0 then some .zeroByte
  else if longestPath < p.bytes.length then some .nameTooLong
  else none

/-- What stands at the place of a path. -/
def itemAt? (fs : Files) (p : Path) : Option Item :=
  if (refusal? p).isSome then none else fs.itemOn? p.route

/-- Makes one directory where the names lead to, unless something stands there. -/
def makeOne (fs : Files) (start : Place) (names : List Name) : Except Fault Files :=
  match fs.walk start names with
  | .error fault => .error fault
  | .ok place =>
      if (fs.item? place).isSome then .error .occupied else .ok (fs.put place .directory)

def leadToDirectory (fs : Files) (start : Place) (names : List Name) : Bool :=
  match fs.walk start names with
  | .ok place => fs.item? place == some .directory
  | .error _ => false

/-- Makes one directory; one that is there already will do. -/
def ensureOne (fs : Files) (start : Place) (names : List Name) : Option Fault × Files :=
  match fs.makeOne start names with
  | .ok fs => (none, fs)
  | .error fault => (if fs.leadToDirectory start names then none else some fault, fs)

/-- Makes the directory that the names lead to, the last name being first, with those it lies in.
What has been made stays even if it goes no further. -/
def ensureFrom (fs : Files) (start : Place) : List Name → Option Fault × Files
  | [] => (none, fs)
  | name :: outer =>
      match fs.makeOne start (name :: outer).reverse with
      | .error .missing =>
          match ensureFrom fs start outer with
          | (none, fs) => fs.ensureOne start (name :: outer).reverse
          | (some fault, fs) => (some fault, fs)
      | _ => fs.ensureOne start (name :: outer).reverse

/-- Makes the directory of a path, with those it lies in. -/
def ensureDirectory (fs : Files) (p : Path) : Option Fault × Files :=
  match refusal? p with
  | some fault => (some fault, fs)
  | none => fs.ensureFrom (fs.start p.route) p.route.names.reverse

end Files

end WallClock

import WallClock.Text.Bytes
import WallClock.Text.Parts

/-!
Paths of files. A path is kept as the text it was given as. What it describes is a route: names of
directories, which slashes separate. A name that is a single point stands for nothing, and a path
that begins with a slash starts at the root.
-/

namespace WallClock.Files

/-- The name of a file or of a directory, in bytes. -/
abbrev Name := List UInt8

namespace Name

def ofString (s : String) : Name :=
  Text.bytes s.toList

/-- The name that leads back to the directory in which a directory lies. -/
def outer : Name := ofString ".."

/-- Whether a part of a path names nothing. -/
def isIdle (part : Name) : Bool :=
  part.isEmpty || part == ofString "."

end Name

/-- The way that a path describes. -/
structure Route where
  /-- Whether it starts at the root, and not at the working directory. -/
  fromRoot : Bool
  names : List Name
  /-- Whether it can lead to a directory only. -/
  toDirectory : Bool
deriving DecidableEq, Repr

/-- The byte between the names of a path. -/
def slash : UInt8 := '/'.toUInt8

/-- The route of the path in these bytes. -/
def Route.ofBytes (s : List UInt8) : Route :=
  let parts := Text.parts slash s
  { fromRoot := s.head? == some slash
    names := parts.filter fun part => !Name.isIdle part
    toDirectory := parts.getLast?.any Name.isIdle }

structure Path where
  text : String
deriving DecidableEq, Repr

namespace Path

def bytes (p : Path) : List UInt8 :=
  Text.bytes p.text.toList

def route (p : Path) : Route :=
  .ofBytes p.bytes

/-- Takes off the last part, from a text in reverse. -/
def dropPart (s : List Char) : List Char :=
  s.dropWhile (· != '/')

/-- Takes off the slashes and idle points at the end, from a text in reverse. The slash of the root
and a point at the very beginning stay. -/
def dropIdle : List Char → List Char
  | ['/'] => ['/']
  | '/' :: s => dropIdle s
  | '.' :: '/' :: s => dropIdle ('/' :: s)
  | s => s

/-- The path without its last name, if it has one. -/
def parent? (p : Path) : Option Path :=
  match dropIdle p.text.toList.reverse with
  | [] => none
  | ['/'] => none
  | s => some ⟨String.ofList (dropIdle (dropPart s)).reverse⟩

def join (p : Path) (name : String) : Path :=
  if p.text.toList.getLast? = some '/' then ⟨p.text ++ name⟩ else ⟨p.text ++ "/" ++ name⟩

end Path

end WallClock.Files

import WallClock.Store.Beside

/-!
Opening a database at a path or at a location. A file that is not there is made, if the location does
not say otherwise.
-/

namespace WallClock.Store

/-- Where an open database is kept. -/
inductive Keeping where
  | memory
  /-- In the file at the place, used as `settled`. -/
  | file (place : Files.Place) (settled : Settled)
deriving DecidableEq, Repr

namespace Keeping

/-- The tree without the files that are there only while the database is open. -/
def release (files : Files) : Keeping → Files
  | memory => files
  | file _ settled => settled.passing.foldl (fun files place => files.remove place) files

/-- The tree with the database as it is now. A change takes away a journal that was left. -/
def save (database : Database) (files : Files) : Keeping → Files
  | memory => files
  | file place settled =>
      let item := Files.Item.file database.storage
      if files.item? place = some item then files
      else
        match settled.journal with
        | none => files.put place item
        | some journal => (files.remove journal).put place item

/-- The tree after the database has been closed. -/
def close (keeping : Keeping) (database : Database) (files : Files) : Files :=
  keeping.release (keeping.save database files)

end Keeping

/-- An open database, where it is kept, and what there was to say when it was opened. -/
structure Connection where
  database : Database
  keeping : Keeping
  events : List Event

namespace Connection

/-- A database that cannot be reached. -/
def refused (cause : String) : Error :=
  .database "Failed to open database connection" cause

/-! ### Places -/

/-- The most bytes that the path of a place may have on the way to a database. -/
def longestWay : Nat := 511

/-- The most bytes that the path of a database may have. There is room for the ending of a journal. -/
def longestPath : Nat := 504

/-- The place that names lead to from another place. What is named on the way need not exist if the
path leads back from there. -/
def locate (files : Files) (place : Files.Place) : List Files.Name → Except Files.Fault Files.Place
  | [] => .ok place
  | name :: rest =>
      if name = Files.Name.outer then locate files place.tail rest
      else if Files.longestName < name.length ∨ longestWay < (Files.pathTo (name :: place)).length then
        .error .nameTooLong
      else
        match files.item? place with
        | some (.file _) => .error .notDirectory
        | _ => locate files (name :: place) rest

/-- The place of a database. It may not be the root. -/
def placeOf (files : Files) (path : List UInt8) : Except Files.Fault Files.Place :=
  let route := Files.Route.ofBytes path
  match locate files (files.start route) route.names with
  | .error fault => .error fault
  | .ok place =>
      if longestPath < (Files.pathTo place).length then .error .nameTooLong
      else if place = [] then .error .occupied
      else .ok place

/-! ### Opening -/

/-- A new database that no file keeps. -/
def ofMemory (isReadOnly : Bool) : Except Error Connection :=
  (Database.create (if isReadOnly then .readOnly else .full)).map fun d => ⟨d, .memory, []⟩

/-- Opens the database in a file that is there. -/
def ofContent (l : Location) (files : Files) (place : Files.Place) (content : Storage) :
    Except Error Connection × Files :=
  match settle l files place content.isBlank with
  | (.error refusal, files) => (.error (Database.unmade refusal.message), files)
  | (.ok settled, files) =>
      let keeping := Keeping.file place settled
      match Database.openOn settled.access content with
      | .error e => (.error e, keeping.release files)
      | .ok (database, events) => (.ok ⟨database, keeping, events⟩, keeping.save database files)

def ofPlace (l : Location) (files : Files) (place : Files.Place) :
    Except Error Connection × Files :=
  match files.item? place with
  | some .directory => (.error (refused "is a directory"), files)
  | some (.file content) => ofContent l files place content
  | none =>
      if l.mode = .create ∧ files.item? place.tail = some .directory then
        ofContent l (files.put place (.file .empty)) place .empty
      else (.error (refused Files.Fault.missing.message), files)

/-- Whether there is the file that a new one is to be like. -/
def hasLikeFile (l : Location) (files : Files) : Bool :=
  l.likeFile.all fun path => path ≠ [] ∧ (files.itemOn? (.ofBytes path)).isSome

def ofLocation (l : Location) (files : Files) : Except Error Connection × Files :=
  if l.isPrivate then (ofMemory l.isReadOnly, files)
  else if l.locking = .memory then (ofMemory (l.isReadOnly || l.isFixed), files)
  else
    match placeOf files l.path with
    | .error fault => (.error (refused fault.message), files)
    | .ok place =>
        if hasLikeFile l files then ofPlace l files place
        else (.error (refused Files.Fault.missing.message), files)

def ofPath (files : Files) (path : Files.Path) : Except Error Connection × Files :=
  match Location.read? path.text with
  | .error cause => (.error (refused cause), files)
  | .ok l => ofLocation l files

end Connection

end WallClock.Store

import WallClock.Preference
import WallClock.Store.Connection

/-!
Opening preferences on a host. The database lies where it is said to, or else in the directory that
the host has for the data of applications; the directories on the way are made.
-/

namespace WallClock

/-- What a host says in the variables of its environment. -/
structure Host where
  /-- The directory for the data of applications. -/
  dataHome : Option String := none
  /-- The home of the user. -/
  home : Option String := none
  /-- The setting of the time zone. -/
  zoneSetting : Option String := none

namespace Host

/-- What the host knows of time zones. -/
def detector [Zone.Database] (h : Host) : Detector :=
  match h.zoneSetting with
  | some setting => .ofSetting setting
  | none => { zones := some Zone.names }

/-- The directory for the data of applications. Only a path from the root counts; without one it is
`.local/share` in the home of the user. -/
def dataDirectory? (h : Host) : Option Files.Path :=
  match h.dataHome.filter fun text => (Files.Path.mk text).route.fromRoot with
  | some text => some ⟨text⟩
  | none => h.home.map fun text => (Files.Path.mk text).join ".local/share"

end Host

/-- Where the database lies, if that is said. -/
structure Setup where
  databasePath : Option Files.Path := none

namespace Setup

/-- The setup with the database at another path. Without one it stays where it is. -/
def withDatabasePath (s : Setup) : Option Files.Path → Setup
  | some path => { s with databasePath := some path }
  | none => s

/-- The directory below that for the data of applications in which the database lies by default. -/
def defaultDirectory : String := "tzstamp"

def defaultName : String := "tzstamp.db"

/-- Preferences that are open and where their database is kept. -/
structure Opened where
  preference : Preference
  keeping : Store.Keeping

/-- What came of opening preferences: the tree afterwards, what there is to say, and the preferences
or the error. -/
structure Outcome where
  files : Files
  events : List Event
  result : Except Error Opened

/-- Opens the preferences at a path whose directory is there. -/
def openAt (detector : Detector) (files : Files) (path : Files.Path) : Outcome :=
  let opening := Event.opening path.text
  match Store.Connection.ofPath files path with
  | (.error e, files) => ⟨files, [opening], .error e⟩
  | (.ok c, files) =>
      ⟨files, opening :: c.events, .ok ⟨⟨.ofDatabase c.database, detector⟩, c.keeping⟩⟩

/-- Makes the directory in which a path lies. A path of one name lies in a directory that is there. -/
def ensureParent (files : Files) (path : Files.Path) : Option Error × Files :=
  match path.parent?.filter (·.text ≠ "") with
  | none => (none, files)
  | some parent =>
      let (fault, files) := files.ensureDirectory parent
      (fault.map fun fault => .fileSystem parent.text fault.message, files)

/-- The path of the database by default, whose directory is made. -/
def ensureDefault (host : Host) (files : Files) : Except Error Files.Path × Files :=
  match host.dataDirectory? with
  | none => (.error (.dataDirectory "no home directory"), files)
  | some directory =>
      let directory := directory.join defaultDirectory
      match files.ensureDirectory directory with
      | (none, files) => (.ok (directory.join defaultName), files)
      | (some fault, files) => (.error (.dataDirectory fault.message), files)

def path (s : Setup) (host : Host) (files : Files) : Except Error Files.Path × Files :=
  match s.databasePath with
  | some path => (.ok path, files)
  | none => ensureDefault host files

/-- Opens the preferences of the setup on a host. -/
def openOn [Zone.Database] (s : Setup) (host : Host) (files : Files) : Outcome :=
  match s.path host files with
  | (.error e, files) => ⟨files, [], .error e⟩
  | (.ok path, files) =>
      match ensureParent files path with
      | (some e, files) => ⟨files, [], .error e⟩
      | (none, files) => openAt host.detector files path

/-- The tree after the preferences have been closed. -/
def Opened.close (o : Opened) (files : Files) : Files :=
  match o.preference.store.backend with
  | .memory _ => files
  | .database d => o.keeping.close d files

end Setup

end WallClock

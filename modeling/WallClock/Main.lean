import WallClock.Command.Run
import WallClock.Store.Json
import Std.Time.DateTime.Timestamp

/-!
The program: it takes the arguments, the environment, the clock and the files on the way to the
database from its host, runs the command on them, and writes back what has changed.
-/

namespace WallClock.Main

/-- The absolute path to a place, if its names are text. -/
def placeText? (place : Files.Place) : Option String :=
  String.fromUTF8? ⟨(Files.pathTo place).toArray⟩

def hostFile (path : String) : IO Files.Item := do
  try
    let text ← IO.FS.readFile path
    return .file (Store.Storage.ofFileText text)
  catch _ =>
    return .file .foreign

def hostItem (path : String) : IO (Option Files.Item) := do
  try
    let found ← IO.FS.realPath path
    if ← found.isDir then
      return some .directory
    else
      return some (← hostFile path)
  catch _ =>
    return none

/-- Puts into the tree what the host has at a place. -/
def look (files : Files) (place : Files.Place) : IO Files := do
  match placeText? place with
  | none => return files
  | some path =>
      match ← hostItem path with
      | some item => return files.put place item
      | none => return files

/-- Puts into the tree what the host has at each place on the way, and beside the last one. -/
def gather (files : Files) (start : Files.Place) (names : List Files.Name) : IO Files := do
  let mut files := files
  let mut place := start
  for name in names do
    place := if name = Files.Name.outer then place.tail else name :: place
    files ← look files place
  for beside in [Store.journalPlace, Store.logPlace, Store.indexPlace, Store.lockPlace] do
    files ← look files (beside place)
  return files

def wantedPath? (host : Host) (args : List String) : Option Files.Path :=
  match Command.read args with
  | .error _ => none
  | .ok i =>
      match i.databasePath with
      | some path => some ⟨path⟩
      | none => host.dataDirectory?.map fun path =>
          (path.join Setup.defaultDirectory).join Setup.defaultName

/-- The routes that opening the database at a path may follow. -/
def routes (path : Files.Path) : List Files.Route :=
  match Store.Location.read? path.text with
  | .error _ => [path.route]
  | .ok l => path.route :: .ofBytes l.path :: (l.likeFile.map Files.Route.ofBytes).toList

/-- The tree of the host as far as it lies on the way to the database. -/
def hostFiles (path : Option Files.Path) : IO Files := do
  let current := (Files.Path.mk (← IO.currentDir).toString).route.names
  let mut files : Files := { items := [], working := current.reverse }
  files ← gather files [] current
  for route in (path.map routes).getD [] do
    files ← gather files (files.start route) route.names
  return files

/-- Removes on the host what is gone from the tree, makes what is new in it, and writes the files that
have changed. -/
def writeBack (before after : Files) : IO Unit := do
  for (place, _) in before.items do
    if (after.item? place).isNone then
      for path in placeText? place do
        IO.FS.removeFile path
  let isNew := fun (entry : Files.Place × Files.Item) => before.item? entry.1 != some entry.2
  let changed := after.items.filter isNew
  for (place, item) in changed.mergeSort fun a b => a.1.length ≤ b.1.length do
    for path in placeText? place do
      match item with
      | .directory => IO.FS.createDirAll path
      | .file content =>
          for text in content.fileText? do
            IO.FS.writeFile path text

/-- The setting of the time zone: the variable `TZ`, or else where the local time of the system is
linked to. -/
def zoneSetting : IO (Option String) := do
  match ← IO.getEnv "TZ" with
  | some setting => return some setting
  | none =>
      try
        let link ← IO.FS.realPath "/etc/localtime"
        return some link.toString
      catch _ =>
        return none

/-- What the clock shows, in nanoseconds since 1970-01-01T00:00:00Z. -/
def clockNanos : IO Int := do
  return (← Std.Time.Timestamp.now).toNanosecondsSinceUnixEpoch.val

def run (args : List String) : IO UInt32 := do
  let host : Host :=
    { dataHome := ← IO.getEnv "XDG_DATA_HOME", home := ← IO.getEnv "HOME"
      zoneSetting := ← zoneSetting }
  match Instant.ofNanos? (← clockNanos) with
  | none =>
      IO.eprintln "the clock shows no time that can be used"
      return 1
  | some now =>
      let before ← hostFiles (wantedPath? host args)
      let (finished, after) := Command.run host now before args
      writeBack before after
      IO.print finished.output
      IO.eprint finished.exit.text
      return finished.exit.code.toUInt32

end WallClock.Main

def main (args : List String) : IO UInt32 :=
  WallClock.Main.run args

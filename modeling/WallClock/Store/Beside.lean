import WallClock.Files
import WallClock.Store.Location

/-!
What stands beside the file of a database. A journal holds what the file had before a change and goes
when the change is complete; a log holds changes that the file does not have yet, with an index to it.
A journal or a log that is there when a database is opened was left by somebody who did not come to
an end: `settle` undoes what was not completed, which is nothing here, and says how the database can be
used.
-/

namespace WallClock.Store

/-- The place whose name has an ending more. -/
def beside (ending : String) : Files.Place → Files.Place
  | [] => []
  | name :: outer => (name ++ Text.bytes ending.toList) :: outer

def journalPlace : Files.Place → Files.Place := beside "-journal"

def logPlace : Files.Place → Files.Place := beside "-wal"

def indexPlace : Files.Place → Files.Place := beside "-shm"

def lockPlace : Files.Place → Files.Place := beside ".lock"

/-- What stands beside a database: something, and of what kind, or nothing that counts. A file without
any bytes does not count. -/
inductive Neighbour where
  | absent
  | file
  | directory
deriving DecidableEq, Repr

/-- What stands at a place beside a database. -/
def neighbour (files : Files) (place : Files.Place) : Neighbour :=
  match files.item? place with
  | none => .absent
  | some .directory => .directory
  | some (.file .empty) => .absent
  | some (.file _) => .file

/-- Whether a file can be made at a place beside a database. -/
def mayMake (files : Files) (place : Files.Place) : Bool :=
  (place.head?.any fun name => name.length ≤ Files.longestName) &&
    files.item? place != some .directory

structure Settled where
  access : Access
  /-- The place where a journal is made for each change, and removed after it. -/
  journal : Option Files.Place := none
  /-- What is removed when the database is closed. -/
  passing : List Files.Place := []
deriving DecidableEq, Repr

namespace Settled

/-- Changes are kept in a journal. -/
def journaled (l : Location) (files : Files) (place : Files.Place) : Settled where
  access :=
    if l.isReadOnly then .readOnly
    else if mayMake files (journalPlace place) then .full
    else .unjournaled
  journal := some (journalPlace place)

/-- Changes are kept in the log that is there. It is removed at the end by whoever may write. -/
def logged (l : Location) (places : List Files.Place) : Settled :=
  if l.isReadOnly then { access := .readOnly } else { access := .full, passing := places }

end Settled

/-- Whether the lock that a location asks for cannot be had. -/
def isLocked (l : Location) (files : Files) (place : Files.Place) : Bool :=
  l.usesLockDirectory &&
    ((files.item? (lockPlace place)).isSome || !mayMake files (lockPlace place))

/-- Deals with a journal that was left. One beside a database in which nothing is yet cannot matter.
Those who put a lock beside the database take it for their own. -/
def settleJournal (l : Location) (files : Files) (place : Files.Place) (isBlank : Bool) :
    Except Refusal Files :=
  if l.usesLockDirectory then .ok files
  else
    match neighbour files (journalPlace place) with
    | .absent => .ok files
    | .directory => if isBlank then .ok files else .error .noAccess
    | .file =>
        if !l.isReadOnly then .ok (files.remove (journalPlace place))
        else if isBlank then .ok files
        else .error .readOnly

/-- Uses a log that was left. Its index is made anew, unless one has the database for oneself and
needs none. With a directory in the way of the index nothing can be changed, and only a log too short
to hold changes will do. -/
def useLog (l : Location) (files : Files) (place : Files.Place) : Except Refusal Settled × Files :=
  if l.locking = .exclusive then (.ok (.logged l [logPlace place]), files)
  else if files.item? (indexPlace place) = some .directory then
    if files.item? (logPlace place) = some (.file .singleByte) then
      (.ok { access := .readOnly }, files)
    else (.error .noFile, files)
  else
    (.ok (.logged l [logPlace place, indexPlace place]),
      files.put (indexPlace place) (.file .foreign))

/-- Deals with a log that was left. One beside a database in which nothing is yet is removed. -/
def settleLog (l : Location) (files : Files) (place : Files.Place) (isBlank : Bool) :
    Except Refusal Settled × Files :=
  match neighbour files (logPlace place) with
  | .absent => (.ok (.journaled l files place), files)
  | .directory => (.error (if isBlank then .noAccess else .noFile), files)
  | .file =>
      if isBlank then
        let files := files.remove (logPlace place)
        (.ok (.journaled l files place), files)
      else if l.mayHaveLog then useLog l files place
      else (.error .noFile, files)

/-- How a database can be used, in view of what stands beside it. A file that is said never to change
is read as it is. -/
def settle (l : Location) (files : Files) (place : Files.Place) (isBlank : Bool) :
    Except Refusal Settled × Files :=
  if l.isFixed then (.ok { access := .readOnly }, files)
  else if isLocked l files place then (.error .locked, files)
  else
    match settleJournal l files place isBlank with
    | .error refusal => (.error refusal, files)
    | .ok files => settleLog l files place isBlank

end WallClock.Store

import WallClock.Instant.Printer
import WallClock.Instant.Reader
import WallClock.Event
import WallClock.Store.Table

/-!
A database of preferences. Opening one brings its table up to date: a table of the early layout gets
the column for the time of writing, and a database without a table gets a new one. Each value is kept
with the time of its writing as a timestamp; rows older than that column have an empty one. What is
refused because nothing may be changed leaves the database as it was.
-/

namespace WallClock.Store

/-- What a file has that a database is opened on. -/
inductive Storage where
  /-- No bytes at all. -/
  | empty
  /-- One byte, which does not count. -/
  | singleByte
  /-- A database, with its table of preferences if it has one. -/
  | database (table : Option Table)
  /-- Something that is no database. -/
  | foreign
deriving DecidableEq, Repr

/-- Whether nothing has been written to the file yet. -/
def Storage.isBlank : Storage → Bool
  | empty => true
  | singleByte => true
  | _ => false

/-- How far a database can be changed. -/
inductive Access where
  | full
  /-- A statement that might change something is refused. -/
  | readOnly
  /-- A statement is refused when it comes to change something, as no journal of it can be kept. -/
  | unjournaled
deriving DecidableEq, Repr

/-- Why a statement is refused that might change something, and does so if it `changes`. -/
def Access.refusal? (a : Access) (changes : Bool) : Option Refusal :=
  match a with
  | full => none
  | readOnly => some .readOnly
  | unjournaled => if changes then some .noFile else none

structure Database where
  table : Table
  access : Access := .full
deriving DecidableEq, Repr

/-- A value and the time of its writing, if that was recorded. -/
structure Entry where
  value : String
  updatedAt : Option Instant
deriving DecidableEq

namespace Database

/-- An error of the database while it was attempted to do something. -/
def failed (attempt : String) (refusal : Refusal) : Error :=
  .database attempt refusal.message

/-- What making the table of preferences fails with. -/
def unmade (cause : String) : Error :=
  .database "Failed to initialize database schema" cause

/-- Whether the table has the early layout. Only a table of exactly the right name is looked at. -/
def isEarly (t : Table) : Bool :=
  t.name == Table.preferences && !t.lists Table.updatedAtColumn

/-- Adds the column for the time of writing. -/
def addUpdatedAt (a : Access) (t : Table) : Except Refusal Table :=
  match a.refusal? true with
  | some refusal => .error refusal
  | none => t.addUpdatedAt

/-- The table with the column for the time of writing, if it has the early layout, and what there is
to say about it. -/
def migrate (a : Access) (t : Table) : Except Error (Table × List Event) :=
  if isEarly t then
    match addUpdatedAt a t with
    | .ok t => .ok (t, [.addingUpdatedAt])
    | .error refusal =>
        .error (failed "Failed to add updated_at column to preferences table" refusal)
  else .ok (t, [])

/-- A database with a new table. -/
def create (a : Access) : Except Error Database :=
  match a.refusal? true with
  | some refusal => .error (unmade refusal.message)
  | none => .ok ⟨.empty, a⟩

/-- Opens the database that a file has. -/
def openOn (a : Access) : Storage → Except Error (Database × List Event)
  | .foreign => .error (unmade "file is not a database")
  | .database (some t) => (migrate a t).map fun (t, events) => (⟨t, a⟩, events)
  | _ => (create a).map fun d => (d, [])

/-- A database of its own that no file has. -/
def inMemory : Database where
  table := .empty

/-- What a file has that the database was opened on. -/
def storage (d : Database) : Storage :=
  .database (some d.table)

/-- The time of writing under the key, read from its timestamp. -/
def readUpdatedAt (key updatedAt : String) : Except Error (Option Instant) :=
  if updatedAt = "" then .ok none
  else
    match Instant.read? updatedAt.toList with
    | some i => .ok (some i)
    | none =>
        .error (.inContext ("Invalid updated_at for preference '" ++ key ++ "'")
          Instant.Refusal.unreadable.reason)

/-- The value under the key and the time of its writing. -/
def entry (d : Database) (key : String) : Except Error (Option Entry) :=
  match d.table.select key with
  | .error refusal => .error (failed "Failed to read preference" refusal)
  | .ok none => .ok none
  | .ok (some (value, updatedAt)) =>
      (readUpdatedAt key updatedAt).map fun updatedAt => some ⟨value, updatedAt⟩

/-- The value under the key. It is not answered if the time of its writing cannot be read. -/
def get (d : Database) (key : String) : Except Error (Option String) :=
  (d.entry key).map fun entry => entry.map (·.value)

def set (d : Database) (now : Instant) (key value : String) : Except Error Database :=
  let attempt := "Failed to store preference"
  match d.table.upsert key value now.text, d.access.refusal? true with
  | .error refusal, _ => .error (failed attempt refusal)
  | .ok _, some refusal => .error (failed attempt refusal)
  | .ok t, none => .ok { d with table := t }

/-- Removes the value under the key and answers whether there was one. -/
def remove (d : Database) (key : String) : Except Error (Bool × Database) :=
  let attempt := "Failed to delete preference"
  match d.table.delete key with
  | .error refusal => .error (failed attempt refusal)
  | .ok (removed, t) =>
      match d.access.refusal? removed with
      | some refusal => .error (failed attempt refusal)
      | none => .ok (removed, { d with table := t })

end Database

end WallClock.Store

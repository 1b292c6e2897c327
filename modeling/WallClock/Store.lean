import WallClock.Store.Database
import WallClock.Store.Memory

/-!
Stores of preferences: values by key, kept in memory or in a database. A store may be offline; then
every operation fails and nothing changes.
-/

namespace WallClock

inductive Store.Backend where
  | memory (m : Store.Memory)
  | database (d : Store.Database)
deriving DecidableEq, Repr

structure Store where
  backend : Store.Backend
  online : Bool := true
deriving DecidableEq, Repr

namespace Store

def inMemory : Store where
  backend := .memory .empty

def ofDatabase (d : Database) : Store where
  backend := .database d

/-- What every operation of a store that is offline ends in. -/
def offline : Error :=
  .configuration "store offline"

def get (s : Store) (key : String) : Except Error (Option String) :=
  if s.online then
    match s.backend with
    | .memory m => .ok (m.get key)
    | .database d => d.get key
  else .error offline

def set (s : Store) (now : Instant) (key value : String) : Except Error Store :=
  if s.online then
    match s.backend with
    | .memory m => .ok { s with backend := .memory (m.set key value) }
    | .database d => (d.set now key value).map fun d => { s with backend := .database d }
  else .error offline

/-- Removes the value under the key and answers whether there was one. -/
def remove (s : Store) (key : String) : Except Error (Bool × Store) :=
  if s.online then
    match s.backend with
    | .memory m =>
        let (removed, m) := m.remove key
        .ok (removed, { s with backend := .memory m })
    | .database d =>
        (d.remove key).map fun (removed, d) => (removed, { s with backend := .database d })
  else .error offline

/-- The time at which the value under the key was written, if it is recorded. -/
def updatedAt (s : Store) (key : String) : Except Error (Option Instant) :=
  if s.online then
    match s.backend with
    | .memory _ => .ok none
    | .database d => (d.entry key).map fun entry => entry.bind (·.updatedAt)
  else .error offline

end Store

end WallClock

/-!
Preferences kept in memory: values by key, without the time of their writing.
-/

namespace WallClock.Store

/-- Values by key. The first pair with a key counts. -/
structure Memory where
  pairs : List (String × String)
deriving DecidableEq, Repr

namespace Memory

def empty : Memory :=
  ⟨[]⟩

def get (m : Memory) (key : String) : Option String :=
  m.pairs.lookup key

/-- The pairs without those of the key. -/
def without (m : Memory) (key : String) : Memory :=
  ⟨m.pairs.filter fun pair => pair.1 != key⟩

def set (m : Memory) (key value : String) : Memory :=
  ⟨(key, value) :: (m.without key).pairs⟩

/-- Removes the value under the key and answers whether there was one. -/
def remove (m : Memory) (key : String) : Bool × Memory :=
  ((m.get key).isSome, m.without key)

end Memory

end WallClock.Store

/-!
Moments on the time line, counted in nanoseconds since 1970-01-01T00:00:00Z. The time line is cut
off so that the local time of every instant stays within the years -9999 to 9999, whatever the
offset; the bounds are part of the type.
-/

namespace WallClock

def nanosPerSecond : Int := 1000000000

/-- A moment of the time line. -/
structure Instant where
  /-- Nanoseconds since 1970-01-01T00:00:00Z. -/
  nanos : Int
  /-- The first second of the time line, -009999-01-02T01:59:59Z, has begun. -/
  notBefore : -377705023201000000000 ≤ nanos
  /-- The last second of the time line, 9999-12-30T22:00:00Z, is not over. -/
  notAfter : nanos < 253402207201000000000
deriving DecidableEq

namespace Instant

/-- The instant with this count of nanoseconds, if it is on the time line. -/
def ofNanos? (nanos : Int) : Option Instant :=
  if h : -377705023201000000000 ≤ nanos ∧ nanos < 253402207201000000000 then
    some ⟨nanos, h.1, h.2⟩
  else none

/-- The instant `nano` nanoseconds after the second `second`, both of which may be negative. The
two are checked each by itself and then together. -/
def ofEpoch? (second nano : Int) : Option Instant :=
  if -377705023201 ≤ second ∧ second ≤ 253402207200 ∧ -999999999 ≤ nano ∧ nano ≤ 999999999 then
    ofNanos? (second * nanosPerSecond + nano)
  else none

/-- The second in which the instant lies. -/
def second (i : Instant) : Int :=
  i.nanos / nanosPerSecond

/-- The nanoseconds since that second began. -/
def fraction (i : Instant) : Nat :=
  (i.nanos % nanosPerSecond).toNat

/-- The whole seconds from 1970-01-01T00:00:00Z to the instant, rounded toward that moment. -/
def wholeSeconds (i : Instant) : Int :=
  i.nanos.tdiv nanosPerSecond

/-- What is left of the nanoseconds after the whole seconds, with the sign of the count. -/
def leftoverNanos (i : Instant) : Int :=
  i.nanos.tmod nanosPerSecond

instance : LE Instant := ⟨fun i j => i.nanos ≤ j.nanos⟩

instance : LT Instant := ⟨fun i j => i.nanos < j.nanos⟩

instance (i j : Instant) : Decidable (i ≤ j) := inferInstanceAs (Decidable (i.nanos ≤ j.nanos))

instance (i j : Instant) : Decidable (i < j) := inferInstanceAs (Decidable (i.nanos < j.nanos))

theorem ofNanos?_nanos (i : Instant) : ofNanos? i.nanos = some i := by
  simp [ofNanos?, i.notBefore, i.notAfter]

end Instant

end WallClock

import WallClock.Display
import WallClock.Preference.Resolved
import WallClock.Selector
import WallClock.Store

/-!
The zone to show times in. A stored choice wins; without one it is the zone of the host, and without
that universal time. A store that fails, or that holds something which is no zone, is passed over
with a warning. Blank text counts as no choice.
-/

namespace WallClock

/-- A store of preferences and what is known of the host. -/
structure Preference where
  store : Store
  detector : Detector

namespace Preference

/-- The key under which the zone to show times in is stored. -/
def displayZoneKey : String := "display_zone"

variable [Zone.Database]

/-- The stored zone. An error says why what is stored is passed over. -/
def storedZone (p : Preference) : Except Error (Option Zone) :=
  match p.store.get displayZoneKey with
  | .error e => .error e
  | .ok none => .ok none
  | .ok (some value) =>
      if Text.trimmed value = "" then .ok none
      else
        match Zone.parse value with
        | .ok zone => .ok (some zone)
        | .error e => .error e

/-- The zone to use when none is stored. -/
def unstored (p : Preference) : Resolved :=
  match p.detector.detected with
  | some zone => ⟨zone, .detected⟩
  | none => ⟨.utc, .fallback⟩

/-- The zone to show times in, and where it comes from. -/
def resolved (p : Preference) : Resolved :=
  match p.storedZone with
  | .ok (some zone) => ⟨zone, .stored⟩
  | _ => p.unstored

/-- What there is to say when the zone is resolved. -/
def resolutionEvents (p : Preference) : List Event :=
  let ofDetector := (p.detector.detected.map fun zone => Event.usingDetected zone.name).toList
  match p.storedZone with
  | .ok (some zone) => [.usingStored zone.name]
  | .ok none => ofDetector
  | .error e => .ignoringStored e :: ofDetector

/-- Stores a zone at the moment `now`. -/
def choose (p : Preference) (now : Instant) (zone : Zone) : Except Error Preference :=
  (p.store.set now displayZoneKey zone.name).map fun store => { p with store := store }

/-- What there is to say when a zone is stored, whether or not that succeeds. -/
def storingEvents (zone : Zone) : List Event :=
  [.storing zone.name]

/-- Removes the stored zone and answers whether there was one. -/
def clear (p : Preference) : Except Error (Bool × Preference) :=
  (p.store.remove displayZoneKey).map fun (removed, store) => (removed, { p with store := store })

/-- What there is to say when the stored zone is removed, whether or not that succeeds. -/
def clearingEvents : List Event :=
  [.clearing]

def storedAt (p : Preference) : Except Error (Option Instant) :=
  p.store.updatedAt displayZoneKey

/-- The selector with the resolved zone selected. -/
def selector (p : Preference) : Selector :=
  .ofDetector p.detector p.resolved.zone

end Preference

end WallClock

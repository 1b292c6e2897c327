import WallClock.Zone.Recurring

/-!
The rules of local time in one zone: a first offset, transitions to other offsets, and a recurring
rule from the last transition on. Transitions stand in the order of time, and no offset reaches
26 hours; both are part of the type.
-/

namespace WallClock.Zone

/-- From the second `start` on the offset is `offset`. -/
structure Transition where
  start : Int
  offset : Int
deriving DecidableEq, Repr

/-- Whether the size of an offset is below 26 hours. -/
def isOffset (offset : Int) : Bool :=
  -93599 ≤ offset && offset ≤ 93599

/-- Whether each transition comes after the one before it. -/
def ascending : List Transition → Bool
  | [] => true
  | [_] => true
  | a :: b :: rest => a.start < b.start && ascending (b :: rest)

/-- Whether offsets are below 26 hours in size and transitions in the order of time. -/
def isConsistent (first : Int) (transitions : List Transition) (after : Recurring) : Bool :=
  isOffset first && transitions.all (isOffset ·.offset) && after.offsets.all isOffset &&
    ascending transitions

/-- The rules of local time in one zone. -/
structure Rules where
  /-- The offset before the first transition. -/
  first : Int
  transitions : List Transition
  /-- What holds from the last transition on. -/
  after : Recurring
  consistent : isConsistent first transitions after = true := by decide +kernel

namespace Rules

/-- The offset at the given second when `current` is the offset before the transitions. -/
def offsetFrom (after : Recurring) (second : Int) : (current : Int) → List Transition → Int
  | _, [] => after.offsetAt second
  | current, t :: rest =>
      if second < t.start then current else offsetFrom after second t.offset rest

def offsetAt (r : Rules) (second : Int) : Int :=
  offsetFrom r.after second r.first r.transitions

def universal : Rules where
  first := 0
  transitions := []
  after := ⟨0, none⟩

def fixed (offset : Int) (h : isOffset offset = true := by decide) : Rules where
  first := offset
  transitions := []
  after := ⟨offset, none⟩
  consistent := by simp [isConsistent, ascending, Recurring.offsets, h]

theorem isOffset_first (r : Rules) : isOffset r.first = true := by
  have h := r.consistent
  simp only [isConsistent, Bool.and_eq_true] at h
  exact h.1.1.1

theorem isOffset_transitions (r : Rules) : r.transitions.all (isOffset ·.offset) = true := by
  have h := r.consistent
  simp only [isConsistent, Bool.and_eq_true] at h
  exact h.1.1.2

theorem isOffset_after (r : Rules) : r.after.offsets.all isOffset = true := by
  have h := r.consistent
  simp only [isConsistent, Bool.and_eq_true] at h
  exact h.1.2

theorem ascending_transitions (r : Rules) : ascending r.transitions = true := by
  have h := r.consistent
  simp only [isConsistent, Bool.and_eq_true] at h
  exact h.2

theorem isOffset_offsetFrom {after : Recurring} {second : Int}
    (hafter : after.offsets.all isOffset = true) : ∀ {current : Int} {ts : List Transition},
    isOffset current = true → ts.all (isOffset ·.offset) = true →
    isOffset (offsetFrom after second current ts) = true
  | _, [], _, _ => List.all_eq_true.1 hafter _ (after.offsetAt_mem_offsets second)
  | current, t :: rest, hcurrent, hts => by
      rw [List.all_cons, Bool.and_eq_true] at hts
      rw [offsetFrom]
      split
      · exact hcurrent
      · exact isOffset_offsetFrom hafter hts.1 hts.2

/-- No zone is ever 26 hours away from Greenwich. -/
theorem isOffset_offsetAt (r : Rules) (second : Int) : isOffset (r.offsetAt second) = true :=
  isOffset_offsetFrom r.isOffset_after r.isOffset_first r.isOffset_transitions

end Rules

end WallClock.Zone

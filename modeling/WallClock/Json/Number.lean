/-!
Numbers of JSON. A number is kept as the characters that spell it, because nothing here counts with
it. `readNumber` takes the longest run of characters that can begin a number and refuses it if it
breaks off too early.
-/

namespace WallClock.Json

/-- How far a number has been spelt. -/
inductive NumberPlace where
  | start
  | sign
  | zero
  | whole
  | point
  | fraction
  | mark
  | markSign
  | exponent
deriving DecidableEq

namespace NumberPlace

/-- Whether a number may end here. -/
def complete : NumberPlace → Bool
  | zero => true
  | whole => true
  | fraction => true
  | exponent => true
  | _ => false

/-- What may follow the digits before the point. -/
def afterWhole (c : Char) : Option NumberPlace :=
  if c = '.' then some point else if c = 'e' ∨ c = 'E' then some mark else none

/-- The first digit before the point, of which zero stands alone. -/
def firstDigit (c : Char) : Option NumberPlace :=
  if c = '0' then some zero else if c.isDigit then some whole else none

/-- The place after one more character. -/
def next? : NumberPlace → Char → Option NumberPlace
  | start, c => if c = '-' then some sign else firstDigit c
  | sign, c => firstDigit c
  | zero, c => afterWhole c
  | whole, c => if c.isDigit then some whole else afterWhole c
  | point, c => if c.isDigit then some fraction else none
  | fraction, c =>
      if c.isDigit then some fraction else if c = 'e' ∨ c = 'E' then some mark else none
  | mark, c =>
      if c = '+' ∨ c = '-' then some markSign else if c.isDigit then some exponent else none
  | markSign, c => if c.isDigit then some exponent else none
  | exponent, c => if c.isDigit then some exponent else none

end NumberPlace

/-- Reads a number on from `place` as far as it goes. -/
def readNumberFrom (place : NumberPlace) : List Char → Option (List Char × List Char)
  | [] => if place.complete then some ([], []) else none
  | c :: s =>
      match place.next? c with
      | some place => (readNumberFrom place s).map fun (spelling, rest) => (c :: spelling, rest)
      | none => if place.complete then some ([], c :: s) else none

def readNumber (s : List Char) : Option (List Char × List Char) :=
  readNumberFrom .start s

theorem append_of_readNumberFrom {place : NumberPlace} {s spelling rest : List Char}
    (h : readNumberFrom place s = some (spelling, rest)) : spelling ++ rest = s := by
  induction s generalizing place spelling with
  | nil =>
    simp only [readNumberFrom] at h
    split at h <;> simp_all
  | cons c s ih =>
    simp only [readNumberFrom] at h
    split at h
    · obtain ⟨⟨tail, rest'⟩, htail, heq⟩ := Option.map_eq_some_iff.1 h
      cases heq
      rw [List.cons_append, ih htail]
    · split at h <;> simp_all

/-- A number takes at least one character. -/
theorem length_of_readNumber {s spelling rest : List Char}
    (h : readNumber s = some (spelling, rest)) : rest.length < s.length := by
  have happend := congrArg List.length (append_of_readNumberFrom h)
  have hspelling : spelling ≠ [] := by
    intro hnil
    subst hnil
    cases s with
    | nil => simp [readNumber, readNumberFrom, NumberPlace.complete] at h
    | cons c s =>
      simp only [readNumber, readNumberFrom] at h
      split at h
      · obtain ⟨_, _, heq⟩ := Option.map_eq_some_iff.1 h
        cases heq
      · simp [NumberPlace.complete] at h
  have := List.length_pos_iff.2 hspelling
  rw [List.length_append] at happend
  omega

end WallClock.Json

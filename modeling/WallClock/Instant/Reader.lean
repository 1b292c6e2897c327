import WallClock.Error
import WallClock.Instant
import WallClock.Civil.Date
import WallClock.Text.Blank
import WallClock.Text.Digits

/-!
Reading timestamps: a date, a time of day and an offset, then annotations in brackets, which are
checked for their form and otherwise disregarded. Each reader takes its part off the front of the
text and answers the rest; `read?` demands that nothing is left. `parse` is the reader for text
typed by people: it allows blanks at the ends and refuses what lies before the year 1.
-/

namespace WallClock.Instant

open Text Civil

/-! ### Dates -/

/-- Four digits, or a sign and six digits for a year of at most 9999; zero has no minus sign. -/
def readYear : List Char → Option (Int × List Char)
  | '+' :: s => (readAtMost 9999 6 s).map fun (year, rest) => ((year : Int), rest)
  | '-' :: s =>
      match readAtMost 9999 6 s with
      | some (year, rest) => if year = 0 then none else some (-(year : Int), rest)
      | none => none
  | s => (readDigits 4 s).map fun (year, rest) => ((year : Int), rest)

/-- Two digits, after a hyphen if the parts of the date are separated. -/
def readDatePart (separated : Bool) : List Char → Option (Nat × List Char)
  | [] => none
  | c :: s =>
      if separated then (if c = '-' then readDigits 2 s else none) else readDigits 2 (c :: s)

/-- A date whose parts are separated by hyphens or by nothing. The day must exist. -/
def readDate (s : List Char) : Option (Date × List Char) := do
  let (year, s) ← readYear s
  let separated := s.head? == some '-'
  let (month, s) ← readDatePart separated s
  let (day, s) ← readDatePart separated s
  let date : Date := ⟨year, month, day⟩
  if date.Valid then some (date, s) else none

/-! ### Times of day and offsets -/

/-- What followed an hour: nothing, minutes, or minutes and seconds. -/
structure Minutes where
  minute : Nat := 0
  second : Option Nat := none

/-- The minutes and seconds after an hour, each after a colon or both without one. Seconds may be
as large as `lastSecond`. -/
def readMinutes (lastSecond : Nat) : List Char → Option (Minutes × List Char)
  | ':' :: s =>
      match readAtMost 59 2 s with
      | some (minute, ':' :: s) =>
          (readAtMost lastSecond 2 s).map fun (second, s) => (⟨minute, some second⟩, s)
      | some (minute, s) => some (⟨minute, none⟩, s)
      | none => none
  | s =>
      match readDigits 2 s with
      | none => some ({}, s)
      | some (minute, s) =>
          if 59 < minute then none
          else match readDigits 2 s with
            | none => some (⟨minute, none⟩, s)
            | some (second, s) =>
                if lastSecond < second then none else some (⟨minute, some second⟩, s)

/-- The nanoseconds after a point or a comma, one to nine digits of a fraction; zero if there is
neither mark. -/
def readFraction : List Char → Option (Nat × List Char)
  | [] => some (0, [])
  | c :: s =>
      if c = '.' ∨ c = ',' then
        match spanDigits 9 s with
        | ([], _) => none
        | (digits, rest) => some (digitsValue digits * tenTo (9 - digits.length), rest)
      else some (0, c :: s)

/-- A fraction is read only after seconds. -/
def readFractionAfter (second : Option Nat) (s : List Char) : Option (Nat × List Char) :=
  if second.isSome then readFraction s else some (0, s)

/-- The time of day in nanoseconds. A leap second is taken as the second before it. -/
def readTime (s : List Char) : Option (Int × List Char) := do
  let (hour, s) ← readAtMost 23 2 s
  let (minutes, s) ← readMinutes 60 s
  let (nanos, s) ← readFractionAfter minutes.second s
  let second := min 59 (minutes.second.getD 0)
  some ((hour * 3600 + minutes.minute * 60 + second : Nat) * nanosPerSecond + nanos, s)

/-- The largest size of an offset, 25:59:59, in seconds. -/
def largestOffset : Nat := 93599

/-- The size of an offset in seconds. Half a second and more is rounded up. -/
def readOffsetSize (s : List Char) : Option (Nat × List Char) := do
  let (hour, s) ← readAtMost 25 2 s
  let (minutes, s) ← readMinutes 59 s
  let (nanos, s) ← readFractionAfter minutes.second s
  let size := hour * 3600 + minutes.minute * 60 + minutes.second.getD 0 +
    if 500000000 ≤ nanos then 1 else 0
  if size ≤ largestOffset then some (size, s) else none

/-- The offset in seconds east of Greenwich. -/
def readOffset : List Char → Option (Int × List Char)
  | 'Z' :: s => some (0, s)
  | 'z' :: s => some (0, s)
  | '+' :: s => (readOffsetSize s).map fun (size, s) => ((size : Int), s)
  | '-' :: s => (readOffsetSize s).map fun (size, s) => (-(size : Int), s)
  | _ => none

/-! ### Annotations -/

def isLowerLetter (c : Char) : Bool := 'a' ≤ c && c ≤ 'z'

def isUpperLetter (c : Char) : Bool := 'A' ≤ c && c ≤ 'Z'

def isNameStart (c : Char) : Bool := isLowerLetter c || isUpperLetter c || c == '_' || c == '.'

def isNameChar (c : Char) : Bool := isNameStart c || c.isDigit || c == '+' || c == '-'

def isKeyStart (c : Char) : Bool := isLowerLetter c || c == '_'

def isKeyChar (c : Char) : Bool := isKeyStart c || c.isDigit || c == '-'

def isValueChar (c : Char) : Bool := isLowerLetter c || isUpperLetter c || c.isDigit

/-- The parts of a zone name, joined by slashes, and the closing bracket. `inPart` says whether a
part has begun. -/
def skipNameToClose : (inPart : Bool) → List Char → Option (List Char)
  | _, [] => none
  | false, c :: s => if isNameStart c then skipNameToClose true s else none
  | true, c :: s =>
      if isNameChar c then skipNameToClose true s
      else if c = '/' then skipNameToClose false s
      else if c = ']' then some s
      else none

/-- An offset without seconds and the closing bracket, from after the sign. -/
def skipOffsetToClose (s : List Char) : Option (List Char) :=
  match readAtMost 25 2 s with
  | some (_, s) =>
      match readMinutes 59 s with
      | some (⟨_, none⟩, ']' :: s) => some s
      | _ => none
  | none => none

/-- The annotation of a zone, an offset or a name, from after its opening bracket. An exclamation
mark may stand before it. -/
def skipZone (s : List Char) : Option (List Char) :=
  match if s.head? = some '!' then s.tail else s with
  | '+' :: s => skipOffsetToClose s
  | '-' :: s => skipOffsetToClose s
  | s => skipNameToClose false s

/-- Where a reader of annotations `[key=value]` stands. -/
inductive KeyedPlace where
  | outside
  | keyStart
  | key
  | valueStart
  | value

/-- Whether the text, read on from `place`, is a row of annotations `[key=value]`. -/
def onlyKeyed : (place : KeyedPlace) → List Char → Bool
  | .outside, [] => true
  | _, [] => false
  | .outside, c :: s => c == '[' && onlyKeyed .keyStart s
  | .keyStart, c :: s => isKeyStart c && onlyKeyed .key s
  | .key, c :: s =>
      if isKeyChar c then onlyKeyed .key s else c == '=' && onlyKeyed .valueStart s
  | .valueStart, c :: s => isValueChar c && onlyKeyed .value s
  | .value, c :: s =>
      if isValueChar c then onlyKeyed .value s
      else if c = '-' then onlyKeyed .valueStart s
      else c == ']' && onlyKeyed .outside s

/-- Whether the text consists of annotations: at most one of a zone, which comes first, and any
number of `[key=value]`. -/
def onlyAnnotations (s : List Char) : Bool :=
  match s with
  | '[' :: rest =>
      match skipZone rest with
      | some rest => onlyKeyed .outside rest
      | none => onlyKeyed .outside s
  | _ => s.isEmpty

/-! ### Timestamps -/

/-- The mark between date and time. -/
def skipSeparator : List Char → Option (List Char)
  | [] => none
  | c :: s => if c = 'T' ∨ c = 't' ∨ c = ' ' then some s else none

/-- The instant that the whole text denotes. -/
def read? (s : List Char) : Option Instant := do
  let (date, s) ← readDate s
  let s ← skipSeparator s
  let (time, s) ← readTime s
  let (offset, s) ← readOffset s
  if onlyAnnotations s then
    ofNanos? ((date.dayNumber * 86400 - offset) * nanosPerSecond + time)
  else none

/-- Why a text is not taken as an instant. -/
inductive Refusal where
  | unreadable
  | beforeYearOne
deriving DecidableEq

namespace Refusal

def reason : Refusal → String
  | unreadable => "not a timestamp with an offset"
  | beforeYearOne => "instants before year 0001 are not supported"

end Refusal

/-- The whole seconds of 0001-01-01T00:00:00Z. -/
def yearOne : Int := -62135596800

/-- The instant that the text denotes, blanks at its ends disregarded. What lies before the year 1
is refused; as the whole seconds decide, the last second before it is not. -/
def parse (input : String) : Except Refusal Instant :=
  match read? (trim input.toList) with
  | none => .error .unreadable
  | some i => if i.wholeSeconds < yearOne then .error .beforeYearOne else .ok i

/-- The instant that a text denotes. The error tells the text and why it is refused. -/
def ofText (input : String) : Except Error Instant :=
  match parse input with
  | .ok i => .ok i
  | .error refusal => .error (.invalidInstant input refusal.reason)

end WallClock.Instant

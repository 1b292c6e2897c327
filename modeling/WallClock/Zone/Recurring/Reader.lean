import WallClock.Zone.Recurring
import WallClock.Text.Digits

/-!
The written form of a recurring rule, as in `EST5EDT,M3.2.0,M11.1.0`: an abbreviation, an offset
west of Greenwich, and for summer time a second abbreviation, an offset that may be missing, and
the two times of the year. Abbreviations are checked and not kept.
-/

namespace WallClock.Zone.Recurring

open Text

def longestAbbreviation : Nat := 30

def isAsciiLetter (c : Char) : Bool := ('a' ≤ c && c ≤ 'z') || ('A' ≤ c && c ≤ 'Z')

def isQuotedChar (c : Char) : Bool := isAsciiLetter c || c.isDigit || c == '+' || c == '-'

/-- An abbreviation of three or more characters: letters, or letters, digits and signs between `<`
and `>`. -/
def skipAbbreviation : List Char → Option (List Char)
  | '<' :: s =>
      let word := s.takeWhile isQuotedChar
      match s.dropWhile isQuotedChar with
      | '>' :: rest =>
          if 3 ≤ word.length ∧ word.length ≤ longestAbbreviation then some rest else none
      | _ => none
  | s =>
      let word := s.takeWhile isAsciiLetter
      if 3 ≤ word.length ∧ word.length ≤ longestAbbreviation then some (s.dropWhile isAsciiLetter)
      else none

/-- A number of one to `most` digits between `least` and `greatest`. -/
def readNumber (most least greatest : Nat) (s : List Char) : Option (Nat × List Char) :=
  match spanDigits most s with
  | ([], _) => none
  | (digits, rest) =>
      let n := digitsValue digits
      if least ≤ n ∧ n ≤ greatest then some (n, rest) else none

/-- A sign, which may be missing. -/
def readSign : List Char → Int × List Char
  | '+' :: s => (1, s)
  | '-' :: s => (-1, s)
  | s => (1, s)

/-- Hours, and after colons minutes and seconds, in seconds. -/
def readSeconds (hourDigits lastHour : Nat) (s : List Char) : Option (Int × List Char) := do
  let (sign, s) := readSign s
  let (hour, s) ← readNumber hourDigits 0 lastHour s
  match s with
  | ':' :: s =>
      let (minute, s) ← readAtMost 59 2 s
      match s with
      | ':' :: s =>
          let (second, s) ← readAtMost 59 2 s
          some (sign * (hour * 3600 + minute * 60 + second : Nat), s)
      | s => some (sign * (hour * 3600 + minute * 60 : Nat), s)
  | s => some (sign * (hour * 3600 : Nat), s)

/-- An offset, written west of Greenwich and answered east of it. -/
def readOffset (s : List Char) : Option (Int × List Char) :=
  (readSeconds 2 24 s).map fun (west, s) => (-west, s)

def readYearDay : List Char → Option (YearDay × List Char)
  | 'J' :: s => (readNumber 3 1 365 s).map fun (day, s) => (.withoutLeapDay day, s)
  | 'M' :: s =>
      match readNumber 2 1 12 s with
      | some (month, '.' :: s) =>
          match readNumber 1 1 5 s with
          | some (week, '.' :: s) =>
              (readNumber 1 0 6 s).map fun (day, s) => (.inWeek month week day, s)
          | _ => none
      | _ => none
  | s => (readNumber 3 0 365 s).map fun (day, s) => (.counted day, s)

/-- A day of the year and, after a slash, a time; without one it is two o'clock. -/
def readYearTime (s : List Char) : Option (YearTime × List Char) :=
  match readYearDay s with
  | some (day, '/' :: s) => (readSeconds 3 167 s).map fun (time, s) => (⟨day, time⟩, s)
  | some (day, s) => some (⟨day, 7200⟩, s)
  | none => none

/-- The times between which summer time holds, each after a comma. -/
def readDaylightTimes (offset : Int) : List Char → Option Daylight
  | ',' :: s =>
      match readYearTime s with
      | some (starts, ',' :: s) =>
          match readYearTime s with
          | some (ends, []) => some ⟨offset, starts, ends⟩
          | _ => none
      | _ => none
  | _ => none

/-- The rule that the whole text denotes. Summer time without its times is no rule. -/
def read? (s : List Char) : Option Recurring := do
  let s ← skipAbbreviation s
  let (standard, s) ← readOffset s
  if s.isEmpty then some ⟨standard, none⟩
  else
    let s ← skipAbbreviation s
    let (offset, s) ←
      if s.head? == some ',' then some (standard + 3600, s) else readOffset s
    let daylight ← readDaylightTimes offset s
    some ⟨standard, some daylight⟩

end WallClock.Zone.Recurring

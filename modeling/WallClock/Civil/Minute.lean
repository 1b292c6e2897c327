import WallClock.Civil.Date
import WallClock.Text.Digits

/-!
Civil time to the minute, `YYYY-MM-DD HH:MM`, given as the number of minutes since
1970-01-01 00:00 on the same clock. `text` writes it and `read?` reads what `text` writes.
-/

namespace WallClock.Civil

open Text

/-- A year filled up with zeros to four characters, a minus sign being one of them. -/
def yearText (year : Int) : List Char :=
  if 0 ≤ year then padded 4 year.natAbs
  else if -1000 < year then '-' :: padded 3 year.natAbs
  else '-' :: padded 4 year.natAbs

/-- Reads a year of at least four characters, a minus sign being one of them. -/
def readYearText : List Char → Option (Int × List Char)
  | '-' :: s =>
      match spanDigits 4 s with
      | (digits, rest) =>
          if 3 ≤ digits.length then some (-(digitsValue digits : Int), rest) else none
  | s => (readDigits 4 s).map fun (year, rest) => ((year : Int), rest)

namespace Minute

def perDay : Int := 1440

/-- The civil date and time that lies `count` minutes after 1970-01-01 00:00. -/
def text (count : Int) : List Char :=
  let date := Date.ofDayNumber (count / perDay)
  let minuteOfDay := (count % perDay).toNat
  yearText date.year ++ '-' :: padded 2 date.month ++ '-' :: padded 2 date.day ++
    ' ' :: padded 2 (minuteOfDay / 60) ++ ':' :: padded 2 (minuteOfDay % 60)

/-- Takes the character `c` off the front. -/
def expect (c : Char) : List Char → Option (List Char)
  | [] => none
  | d :: rest => if d = c then some rest else none

/-- Reads a civil date and time and counts its minutes since 1970-01-01 00:00. -/
def read? (s : List Char) : Option Int := do
  let (year, s) ← readYearText s
  let s ← expect '-' s
  let (month, s) ← readDigits 2 s
  let s ← expect '-' s
  let (day, s) ← readDigits 2 s
  let s ← expect ' ' s
  let (hour, s) ← readAtMost 23 2 s
  let s ← expect ':' s
  let (minute, s) ← readAtMost 59 2 s
  let date : Date := ⟨year, month, day⟩
  if date.Valid ∧ s = [] then some (perDay * date.dayNumber + 60 * hour + minute) else none

end Minute

end WallClock.Civil

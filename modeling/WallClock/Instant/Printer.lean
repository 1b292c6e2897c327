import WallClock.Instant
import WallClock.Civil.Date
import WallClock.Text.Digits

/-!
The written form of an instant: date and time of day in universal time, the fraction of the second
without trailing zeros, and `Z`. Years below zero have a minus sign and six digits.
-/

namespace WallClock.Instant

open Text Civil

/-- A year of four digits, or a minus sign and six digits. -/
def signedYear (year : Int) : List Char :=
  if 0 ≤ year then padded 4 year.natAbs else '-' :: padded 6 year.natAbs

/-- The point and the nanoseconds without trailing zeros; nothing for a whole second. -/
def fractionText (nanos : Nat) : List Char :=
  if nanos = 0 then [] else '.' :: ((padded 9 nanos).reverse.dropWhile (· == '0')).reverse

def chars (i : Instant) : List Char :=
  let date := Date.ofDayNumber (i.second / 86400)
  let secondOfDay := (i.second % 86400).toNat
  signedYear date.year ++ '-' :: padded 2 date.month ++ '-' :: padded 2 date.day ++
    'T' :: padded 2 (secondOfDay / 3600) ++ ':' :: padded 2 (secondOfDay / 60 % 60) ++
    ':' :: padded 2 (secondOfDay % 60) ++ fractionText i.fraction ++ ['Z']

/-- The timestamp of the instant, as a string. -/
def text (i : Instant) : String :=
  String.ofList i.chars

end WallClock.Instant

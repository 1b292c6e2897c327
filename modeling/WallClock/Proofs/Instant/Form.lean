import WallClock.Instant.Printer
import WallClock.Instant.Reader
import Mathlib.Algebra.Group.Nat.Defs
import Mathlib.Data.List.DropRight
import WallClock.Proofs.Civil.Minute

/-!
The form of a timestamp: a civil date and a time of day in universal time, of which the year has four
digits, or six after a minus sign, and the second a fraction that does not end in a zero. The timestamp
of an instant has the form that belongs to it.
-/

namespace WallClock.Instant

open Text Civil

/-- How a year is written. -/
inductive YearForm : Int → List Char → Prop
  | fourDigits {n : Nat} : n ≤ 9999 → YearForm n (zeroPadded 4 n)
  | negative {n : Nat} : 0 < n → n ≤ 9999 → YearForm (-n) ('-' :: zeroPadded 6 n)

/-- How the nanoseconds of a second are written. A whole second has no fraction. -/
inductive FractionForm : Nat → List Char → Prop
  | whole : FractionForm 0 []
  | digits {s : List Char} : (∀ c ∈ s, c.isDigit = true) → s.length ≤ 9 →
      (∃ c, s.getLast? = some c ∧ c ≠ '0') →
      FractionForm (digitsValue s * 10 ^ (9 - s.length)) ('.' :: s)

/-- How an instant is written: date and time of day are those of its second, days being counted one by
one from 1970-01-01. -/
def Form (i : Instant) (s : List Char) : Prop :=
  ∃ (day : Int) (date : Date) (hour minute second nanos : Nat) (year fraction : List Char),
    Date.Numbered date day ∧ date.Valid ∧ hour < 24 ∧ minute < 60 ∧ second < 60 ∧
      nanos < 1000000000 ∧
      i.nanos = (((day * 24 + hour) * 60 + minute) * 60 + second) * nanosPerSecond + nanos ∧
      YearForm date.year year ∧ FractionForm nanos fraction ∧
      s = year ++ '-' :: zeroPadded 2 date.month ++ '-' :: zeroPadded 2 date.day ++
        'T' :: zeroPadded 2 hour ++ ':' :: zeroPadded 2 minute ++ ':' :: zeroPadded 2 second ++
        fraction ++ ['Z']

theorem yearForm_signedYear {year : Int} (h : FourDigits year) : YearForm year (signedYear year) := by
  have hlt := natAbs_lt_of_fourDigits h
  have hle : year.natAbs ≤ 9999 := Nat.le_of_lt_succ hlt
  unfold signedYear
  split
  case isTrue hpos =>
    obtain ⟨n, rfl⟩ := Int.eq_ofNat_of_zero_le hpos
    rw [Int.natAbs_natCast] at hlt hle ⊢
    rw [padded_eq_zeroPadded hlt]
    exact .fourDigits hle
  case isFalse hneg =>
    have hpositive : 0 < year.natAbs := by omega
    have hyear : year = -(year.natAbs : Int) := by omega
    rw [padded_eq_zeroPadded (Nat.lt_trans hlt (by decide))]
    nth_rewrite 1 [hyear]
    exact .negative hpositive hle

theorem exists_trailing_zeros (s : List Char) :
    ∃ count, s = s.rdropWhile (· == '0') ++ List.replicate count '0' := by
  refine ⟨(s.reverse.takeWhile (· == '0')).length, ?_⟩
  have hzeros : s.reverse.takeWhile (· == '0') =
      List.replicate (s.reverse.takeWhile (· == '0')).length '0' := by
    apply List.eq_replicate_of_mem
    intro c hc
    exact beq_iff_eq.1 (List.all_eq_true.1 List.all_takeWhile c hc)
  rw [List.rdropWhile, ← List.reverse_replicate, ← hzeros, ← List.reverse_append,
    List.takeWhile_append_dropWhile, List.reverse_reverse]

/-- The nanoseconds without their trailing zeros stand for the same fraction. -/
theorem fractionForm_fractionText {nanos : Nat} (h : nanos < tenTo 9) :
    FractionForm nanos (fractionText nanos) := by
  by_cases hzero : nanos = 0
  · rw [hzero]
    exact .whole
  rw [fractionText, if_neg hzero]
  change FractionForm nanos ('.' :: (padded 9 nanos).rdropWhile (· == '0'))
  obtain ⟨count, hpadded⟩ := exists_trailing_zeros (padded 9 nanos)
  have hlast := List.rdropWhile_last_not (· == '0') (padded 9 nanos)
  generalize (padded 9 nanos).rdropWhile (· == '0') = digits at hpadded hlast ⊢
  have hlength : digits.length + count = 9 := by
    rw [← length_padded 9 nanos, hpadded, List.length_append, List.length_replicate]
  have hvalue : digitsValue digits * 10 ^ (9 - digits.length) = nanos := by
    rw [← hlength, Nat.add_sub_cancel_left]
    change digitsValue digits * Nat.pow 10 count = nanos
    rw [← tenTo_eq_pow, ← digitsValue_append_zeros, ← hpadded, digitsValue_padded h]
  have hne : digits ≠ [] := by
    rintro rfl
    rw [show digitsValue [] = 0 from rfl, Nat.zero_mul] at hvalue
    exact hzero hvalue.symm
  rw [← hvalue]
  refine .digits (fun c hc => ?_) (by omega) ⟨digits.getLast hne, List.getLast?_eq_some_getLast hne, ?_⟩
  · apply isDigit_of_mem_padded
    rw [hpadded]
    exact List.mem_append_left _ hc
  · exact mt beq_iff_eq.2 (hlast hne)

/-- Digits behind the point are read as if zeros followed up to the ninth. -/
theorem readFraction_point {digits rest : List Char} (hne : digits ≠ [])
    (hdigits : ∀ c ∈ digits, c.isDigit = true) (hlength : digits.length ≤ 9)
    (hrest : EndsDigits rest) :
    readFraction ('.' :: (digits ++ rest)) =
      some (digitsValue digits * 10 ^ (9 - digits.length), rest) := by
  rw [readFraction, if_pos (Or.inl rfl), spanDigits_append hdigits hlength hrest]
  cases digits with
  | nil => exact absurd rfl hne
  | cons d digits =>
    dsimp only
    rw [tenTo_eq_pow]
    rfl

/-- A fraction is read as the nanoseconds that it stands for. -/
theorem readFraction_of_form {nanos : Nat} {s : List Char} (h : FractionForm nanos s)
    (rest : List Char) : readFraction (s ++ 'Z' :: rest) = some (nanos, 'Z' :: rest) := by
  cases h with
  | whole => rfl
  | @digits s hdigits hlength hlast =>
    obtain ⟨c, hc, -⟩ := hlast
    have hne : s ≠ [] := by
      rintro rfl
      cases hc
    exact readFraction_point hne hdigits hlength (endsDigits_cons (by decide))

/-- The time line has years of four digits only. -/
theorem fourDigits_year (i : Instant) : FourDigits (Date.ofDayNumber (i.second / 86400)).year := by
  have hfirst := i.notBefore
  have hlast := i.notAfter
  apply fourDigits_ofDayNumber
  unfold second nanosPerSecond
  omega

theorem fraction_lt (i : Instant) : i.fraction < tenTo 9 := by
  change i.fraction < 1000000000
  unfold fraction nanosPerSecond
  omega

/-- The timestamp of every instant is written in the form. -/
theorem form_chars (i : Instant) : Form i i.chars := by
  have hvalid : (Date.ofDayNumber (i.second / 86400)).Valid := Date.valid_ofDayNumber _
  have hday : (i.second % 86400).toNat < 86400 := by omega
  have hhour : (i.second % 86400).toNat / 3600 < 24 := by omega
  have hminute : (i.second % 86400).toNat / 60 % 60 < 60 := by omega
  have hsecond : (i.second % 86400).toNat % 60 < 60 := by omega
  refine ⟨i.second / 86400, .ofDayNumber (i.second / 86400), (i.second % 86400).toNat / 3600,
    (i.second % 86400).toNat / 60 % 60, (i.second % 86400).toNat % 60, i.fraction, _, _,
    Date.numbered_ofDayNumber _, hvalid, hhour, hminute, hsecond, i.fraction_lt, ?_,
    yearForm_signedYear i.fourDigits_year, fractionForm_fractionText i.fraction_lt, ?_⟩
  · unfold fraction second nanosPerSecond
    omega
  · rw [← padded_eq_zeroPadded (Minute.month_lt hvalid), ← padded_eq_zeroPadded (Minute.day_lt hvalid),
      ← padded_eq_zeroPadded (Nat.lt_trans hhour (by decide)),
      ← padded_eq_zeroPadded (Nat.lt_trans hminute (by decide)),
      ← padded_eq_zeroPadded (Nat.lt_trans hsecond (by decide))]
    rfl

end WallClock.Instant

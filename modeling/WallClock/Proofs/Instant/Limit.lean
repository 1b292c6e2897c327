import WallClock.Proofs.Instant.Parse
import WallClock.Proofs.Instant.RoundTrip

/-!
The lower limit of what is taken from texts. The limit is meant to be the first moment of the year 1,
but whole seconds are compared, and before 1970 these are rounded up: of the last second before the year
1 all but the first moment is taken, and written with the year 0000. Everywhere else the limit is as meant.
-/

namespace WallClock.Instant

open Text Civil

/-- The instant lies in the last second before the year 1, but not at its beginning. -/
def InLastSecond (i : Instant) : Prop :=
  (yearOne - 1) * nanosPerSecond < i.nanos ∧ i.nanos < yearOne * nanosPerSecond

/-- The second is cut off toward zero, so only what is too early by a whole second is found to be. -/
theorem wholeSeconds_lt_yearOne_iff {i : Instant} :
    i.wholeSeconds < yearOne ↔ i.nanos ≤ (yearOne - 1) * nanosPerSecond := by
  rw [← Int.not_le, yearOne_le_wholeSeconds_iff, Int.not_lt]

/-- What the check amounts to in nanoseconds. -/
theorem parse_of_read? {input : String} {i : Instant} (h : read? (trim input.toList) = some i) :
    parse input =
      if i.nanos ≤ (yearOne - 1) * nanosPerSecond then .error .beforeYearOne else .ok i := by
  simp only [parse, h, wholeSeconds_lt_yearOne_iff]

/-! ### The year that is written -/

/-- The years from 1 on begin at the limit. -/
theorem year_pos_iff {i : Instant} :
    1 ≤ (Date.ofDayNumber (i.second / 86400)).year ↔ yearOne * nanosPerSecond ≤ i.nanos := by
  rw [Date.le_year_ofDayNumber, show Date.yearStart 1 = -719162 by decide]
  unfold second yearOne nanosPerSecond
  omega

theorem year_nonneg {i : Instant} (h : (yearOne - 1) * nanosPerSecond < i.nanos) :
    0 ≤ (Date.ofDayNumber (i.second / 86400)).year := by
  rw [Date.le_year_ofDayNumber, show Date.yearStart 0 = -719528 by decide]
  unfold yearOne nanosPerSecond at h
  unfold second nanosPerSecond
  omega

theorem padded_injective {width m n : Nat} (hm : m < tenTo width) (hn : n < tenTo width)
    (h : padded width m = padded width n) : m = n := by
  rw [← digitsValue_padded hm, h, digitsValue_padded hn]

theorem take_chars {i : Instant} (h : 0 ≤ (Date.ofDayNumber (i.second / 86400)).year) :
    i.chars.take 4 = padded 4 (Date.ofDayNumber (i.second / 86400)).year.natAbs := by
  rw [chars_eq, dateText, signedYear, if_pos h]
  simp only [List.append_assoc]
  exact List.take_left' (length_padded 4 _)

/-- Of the instants that are taken, those of the last second and no others are written with the year
0000. -/
theorem written_in_year_zero_iff {i : Instant} (h : (yearOne - 1) * nanosPerSecond < i.nanos) :
    i.chars.take 4 = "0000".toList ↔ i.InLastSecond := by
  have hnonneg := year_nonneg h
  have hpos := @year_pos_iff i
  have hlt := natAbs_lt_of_fourDigits i.fourDigits_year
  rw [take_chars hnonneg, show "0000".toList = padded 4 0 by decide]
  constructor
  · intro hzero
    have hyear := padded_injective hlt (by decide) hzero
    refine ⟨h, ?_⟩
    by_contra hle
    have := hpos.2 (Int.not_lt.1 hle)
    omega
  · intro hlast
    have hyear : (Date.ofDayNumber (i.second / 86400)).year = 0 := by
      by_contra hne
      have := hpos.1 (by omega)
      exact absurd hlast.2 (Int.not_lt.2 this)
    rw [hyear]
    rfl

/-! ### The limit that is kept -/

/-- When the first moment of the year 1 is the limit for a text: unless the text denotes an instant of the
last second before. Earlier instants are refused as such, other texts as unreadable. -/
theorem year_one_is_limit_iff (input : String) :
    ((∀ i, parse input = .ok i ↔
        read? (trim input.toList) = some i ∧ yearOne * nanosPerSecond ≤ i.nanos) ↔
      ∀ i, read? (trim input.toList) = some i → ¬ i.InLastSecond) ∧
      (∀ i, read? (trim input.toList) = some i → parse input =
        if i.nanos ≤ (yearOne - 1) * nanosPerSecond then .error .beforeYearOne else .ok i) ∧
      (read? (trim input.toList) = none → parse input = .error .unreadable) ∧
      ∀ i, parse input = .ok i → (i.chars.take 4 = "0000".toList ↔ i.InLastSecond) := by
  refine ⟨⟨fun hlimit i hread hlast => ?_, fun hnever i => ?_⟩, fun i => parse_of_read?, ?_, ?_⟩
  · have hok : parse input = .ok i := by
      rw [parse_of_read? hread, if_neg (Int.not_le.2 hlast.1)]
    exact absurd hlast.2 (Int.not_lt.2 ((hlimit i).1 hok).2)
  · rw [parse_eq_ok_iff, yearOne_le_wholeSeconds_iff]
    refine and_congr_right fun hread => ?_
    have hlast := hnever i hread
    unfold InLastSecond at hlast
    unfold nanosPerSecond at *
    omega
  · intro hnone
    rw [parse, hnone]
  · intro i hok
    exact written_in_year_zero_iff (yearOne_le_wholeSeconds_iff.1 (parse_eq_ok_iff.1 hok).2)

/-- A nanosecond after the last second before the year 1 has begun. -/
theorem taken_before_year_one :
    ∃ i, parse "0000-12-31T23:59:59.000000001Z" = .ok i ∧
      i.nanos < Date.dayNumber ⟨1, 1, 1⟩ * 86400 * nanosPerSecond ∧
      i.text = "0000-12-31T23:59:59.000000001Z" := by
  refine ⟨⟨-62135596800999999999, by decide, by decide⟩, ?_, by decide, by decide +kernel⟩
  exact parse_eq_ok_iff.2 ⟨by decide +kernel, by decide⟩

end WallClock.Instant

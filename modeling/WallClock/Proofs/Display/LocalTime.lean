import WallClock.Display
import WallClock.Proofs.Civil.Minute
import WallClock.Proofs.Instant.Parse

/-!
What is shown of an instant is the civil minute in which it lies by the clock of the zone. The main
statements say so for the whole time line, where years may be negative, and say for instants that
are taken from texts that the year has four digits and no sign.
-/

namespace WallClock

open Civil Text

theorem Zone.offsetAt_bounds (zone : Zone) (i : Instant) :
    -93599 ≤ zone.offsetAt i ∧ zone.offsetAt i ≤ 93599 := by
  have h := zone.rules.isOffset_offsetAt i.second
  rwa [Zone.isOffset, Bool.and_eq_true, decide_eq_true_eq, decide_eq_true_eq] at h

/-- Nanoseconds from 1970-01-01 00:00 to the instant on a clock of the zone. -/
def Zone.localNanos (zone : Zone) (i : Instant) : Int :=
  i.nanos + zone.offsetAt i * nanosPerSecond

theorem Zone.localMinute_eq (zone : Zone) (i : Instant) :
    zone.localMinute i = zone.localNanos i / (60 * nanosPerSecond) :=
  rfl

/-- Nothing of a minute is lost or gained: it is rounded down. -/
theorem Zone.localMinute_bounds (zone : Zone) (i : Instant) :
    zone.localMinute i * (60 * nanosPerSecond) ≤ zone.localNanos i ∧
      zone.localNanos i < (zone.localMinute i + 1) * (60 * nanosPerSecond) := by
  rw [localMinute_eq]
  unfold nanosPerSecond
  omega

theorem Zone.le_localYear {zone : Zone} {i : Instant} {year : Int}
    (h : Date.yearStart year * 86400 * nanosPerSecond ≤ zone.localNanos i) :
    year ≤ (Minute.date (zone.localMinute i)).year := by
  rw [Minute.date, Date.le_year_ofDayNumber, localMinute_eq]
  unfold nanosPerSecond at *
  unfold Minute.perDay
  omega

/-- Local time goes less than two days beyond the time line, so its years can be written. -/
theorem Zone.fourDigits_localYear (zone : Zone) (i : Instant) :
    FourDigits (Minute.date (zone.localMinute i)).year := by
  obtain ⟨hwest, heast⟩ := zone.offsetAt_bounds i
  have hfirst := i.notBefore
  have hlast := i.notAfter
  apply fourDigits_ofDayNumber
  rw [localMinute_eq]
  unfold localNanos nanosPerSecond Minute.perDay
  omega

namespace Display

theorem toList_text (i : Instant) (zone : Zone) :
    (text i zone).toList = Minute.text (zone.localMinute i) :=
  String.toList_ofList

/-- What is shown of any instant in any zone: the date, by counting days from 1970-01-01, and the
time of day of the minute that has begun last. -/
theorem text_eq_civil_minute (i : Instant) (zone : Zone) :
    ∃ (count : Int) (date : Date) (hour minute : Nat),
      (count * (60 * nanosPerSecond) ≤ i.nanos + zone.offsetAt i * nanosPerSecond ∧
        i.nanos + zone.offsetAt i * nanosPerSecond < (count + 1) * (60 * nanosPerSecond)) ∧
      Minute.IsAt count date hour minute ∧
      date.Valid ∧ (-9999 ≤ date.year ∧ date.year ≤ 9999) ∧
      (∀ n ∈ [date.month, date.day, hour, minute], (zeroPadded 2 n).length = 2) ∧
      (text i zone).toList =
        zeroPadded 4 date.year ++ '-' :: (zeroPadded 2 date.month ++ '-' :: (zeroPadded 2 date.day ++
          ' ' :: (zeroPadded 2 hour ++ ':' :: zeroPadded 2 minute))) ∧
      Minute.read? (text i zone).toList = some count := by
  have hvalid : (Minute.date (zone.localMinute i)).Valid := Date.valid_ofDayNumber _
  have hyear := zone.fourDigits_localYear i
  have hmonth : (Minute.date (zone.localMinute i)).month < tenTo 2 :=
    Nat.lt_of_le_of_lt hvalid.2.1 (by decide)
  have hday : (Minute.date (zone.localMinute i)).day < tenTo 2 := Minute.day_lt hvalid
  have hhour : Minute.hour (zone.localMinute i) < tenTo 2 :=
    Nat.lt_trans (Minute.hour_lt _) (by decide)
  have hminute : Minute.minute (zone.localMinute i) < tenTo 2 :=
    Nat.lt_trans (Minute.minute_lt _) (by decide)
  refine ⟨zone.localMinute i, Minute.date (zone.localMinute i), Minute.hour (zone.localMinute i),
    Minute.minute (zone.localMinute i), zone.localMinute_bounds i, Minute.isAt_date _, hvalid, hyear,
    ?_, ?_, ?_⟩
  · intro n hn
    simp only [List.mem_cons, List.not_mem_nil, or_false] at hn
    rcases hn with rfl | rfl | rfl | rfl
    · exact length_zeroPadded hmonth
    · exact length_zeroPadded hday
    · exact length_zeroPadded hhour
    · exact length_zeroPadded hminute
  · rw [toList_text, Minute.text_eq, yearText_eq_zeroPadded hyear, padded_eq_zeroPadded hmonth,
      padded_eq_zeroPadded hday, padded_eq_zeroPadded hhour, padded_eq_zeroPadded hminute,
      List.append_nil]
  · rw [toList_text]
    exact Minute.read?_text hyear

/-! ### Instants that are taken from texts -/

/-- An accepted instant lies in the year 0 at the earliest, in any zone. -/
theorem localYear_nonneg_of_parse {input : String} {i : Instant} (h : Instant.parse input = .ok i)
    (zone : Zone) : 0 ≤ (Minute.date (zone.localMinute i)).year := by
  have hfirst := Instant.yearOne_le_wholeSeconds_iff.1 (Instant.parse_eq_ok_iff.1 h).2
  obtain ⟨hwest, -⟩ := zone.offsetAt_bounds i
  apply Zone.le_localYear
  rw [show Date.yearStart 0 = -719528 by decide]
  unfold Instant.yearOne nanosPerSecond at hfirst
  unfold Zone.localNanos nanosPerSecond
  omega

/-- An instant that is taken from a text is shown in one shape in every zone, even where it lies less
than a second before the year 1. -/
theorem hasShape_text_of_parse {input : String} {i : Instant} (h : Instant.parse input = .ok i)
    (zone : Zone) :
    hasShape "dddd-dd-dd dd:dd".toList (text i zone).toList = true ∧
      (text i zone).utf8ByteSize = 16 ∧ (∀ c ∈ (text i zone).toList, c.toNat < 128) ∧
      (∃ year : Nat, year ≤ 9999 ∧ (Minute.date (zone.localMinute i)).year = year ∧
        (text i zone).toList.take 4 = zeroPadded 4 year) ∧
      Minute.read? (text i zone).toList = some (zone.localMinute i) := by
  have hyear := zone.fourDigits_localYear i
  have hnonneg := localYear_nonneg_of_parse h zone
  have hshape := Minute.hasShape_text hnonneg
  have hascii := isAscii_of_hasShape (by decide) hshape
  rw [toList_text]
  refine ⟨hshape, ?_, hascii, ?_, Minute.read?_text hyear⟩
  · rw [text, utf8ByteSize_of_ascii hascii, length_of_hasShape hshape]
    decide
  · obtain ⟨year, hyear_eq⟩ := Int.eq_ofNat_of_zero_le hnonneg
    refine ⟨year, by rw [← Int.ofNat_le, ← hyear_eq]; exact hyear.2, hyear_eq, ?_⟩
    have hlt := natAbs_lt_of_fourDigits hyear
    rw [hyear_eq] at hyear hlt
    rw [Minute.text_eq, hyear_eq, yearText_eq_zeroPadded hyear]
    exact List.take_left' (length_zeroPadded hlt)

/-- The first moment that is taken, shown in the zone furthest west, and the last one, furthest
east. -/
theorem hasShape_text_at_ends :
    (Instant.parse "0000-12-31T23:59:59.000000001Z" =
        .ok ⟨-62135596800999999999, by decide, by decide⟩ ∧
      hasShape "dddd-dd-dd dd:dd".toList (text ⟨-62135596800999999999, by decide, by decide⟩
        ⟨"West", .fixed (-93599)⟩).toList = true) ∧
    (Instant.parse "9999-12-30T22:00:00.999999999Z" =
        .ok ⟨253402207200999999999, by decide, by decide⟩ ∧
      hasShape "dddd-dd-dd dd:dd".toList (text ⟨253402207200999999999, by decide, by decide⟩
        ⟨"East", .fixed 93599⟩).toList = true) := by
  have hfirst : Instant.parse "0000-12-31T23:59:59.000000001Z" =
      .ok ⟨-62135596800999999999, by decide, by decide⟩ :=
    Instant.parse_eq_ok_iff.2 ⟨by decide +kernel, by decide⟩
  have hlast : Instant.parse "9999-12-30T22:00:00.999999999Z" =
      .ok ⟨253402207200999999999, by decide, by decide⟩ :=
    Instant.parse_eq_ok_iff.2 ⟨by decide +kernel, by decide⟩
  exact ⟨⟨hfirst, (hasShape_text_of_parse hfirst _).1⟩, hlast, (hasShape_text_of_parse hlast _).1⟩

end Display

end WallClock

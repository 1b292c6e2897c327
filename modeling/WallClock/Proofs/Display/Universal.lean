import WallClock.Proofs.Display.LocalTime
import WallClock.Proofs.Instant.RoundTrip

/-!
Universal time, which is written in two ways: as what a clock of the zone UTC shows, and as the timestamp
of the instant. Of every instant that is taken from a text the two agree on date, hour and minute.
-/

namespace WallClock

open Civil Text

theorem Zone.offsetAt_utc (i : Instant) : Zone.utc.offsetAt i = 0 :=
  rfl

/-- Where the offset is zero, the local minute is what is left of the second of the instant. -/
theorem Zone.localMinute_of_offset_zero {zone : Zone} {i : Instant} (h : zone.offsetAt i = 0) :
    zone.localMinute i = i.second / 60 := by
  rw [localMinute, h]
  unfold Instant.second nanosPerSecond
  omega

namespace Instant

/-! ### The parts of a timestamp -/

def datePart (i : Instant) : List Char :=
  dateText (.ofDayNumber (i.second / 86400))

def clockPart (i : Instant) : List Char :=
  padded 2 ((i.second % 86400).toNat / 3600) ++ ':' :: padded 2 ((i.second % 86400).toNat / 60 % 60)

theorem length_clockPart (i : Instant) : i.clockPart.length = 5 := by
  simp [clockPart]

/-- A date of a year that has no sign takes ten characters. -/
theorem length_datePart {i : Instant} (h : 0 ≤ (Date.ofDayNumber (i.second / 86400)).year) :
    i.datePart.length = 10 := by
  simp [datePart, dateText, signedYear, h]

theorem chars_eq_parts (i : Instant) :
    ∃ rest, i.chars = i.datePart ++ 'T' :: (i.clockPart ++ rest) := by
  refine ⟨':' :: (padded 2 ((i.second % 86400).toNat % 60) ++ (fractionText i.fraction ++ ['Z'])), ?_⟩
  simp only [chars_eq, datePart, clockPart, timeText, List.append_assoc, List.cons_append]

theorem day_of_minute (second : Int) : second / 60 / Minute.perDay = second / 86400 := by
  unfold Minute.perDay
  omega

/-- The civil time of the minute of an instant has the parts of its timestamp. -/
theorem text_minute_eq_parts {i : Instant} (h : 0 ≤ (Date.ofDayNumber (i.second / 86400)).year) :
    Minute.text (i.second / 60) = i.datePart ++ ' ' :: i.clockPart := by
  have hhour : (i.second / 60 % Minute.perDay).toNat / 60 = (i.second % 86400).toNat / 3600 := by
    unfold Minute.perDay
    omega
  have hminute : (i.second / 60 % Minute.perDay).toNat % 60 =
      (i.second % 86400).toNat / 60 % 60 := by
    unfold Minute.perDay
    omega
  simp only [Minute.text, day_of_minute, hhour, hminute, datePart, clockPart, dateText, yearText, signedYear,
    if_pos h, List.append_assoc, List.cons_append]

end Instant

namespace Display

/-- Of an instant that is taken from a text a clock of the zone UTC shows the first ten characters of its
timestamp and, after a blank in place of the `T`, the next five. So does any other clock that goes by
universal time at the instant. -/
theorem text_in_universal_time {input : String} {i : Instant} (h : Instant.parse input = .ok i) :
    (text i Zone.utc).toList = i.text.toList.take 10 ++ ' ' :: (i.text.toList.drop 11).take 5 ∧
      i.text.toList[10]? = some 'T' ∧
      ∀ zone : Zone, zone.offsetAt i = 0 → text i zone = text i Zone.utc := by
  have hutc := Zone.localMinute_of_offset_zero (Zone.offsetAt_utc i)
  have hyear : 0 ≤ (Date.ofDayNumber (i.second / 86400)).year := by
    have hlocal := localYear_nonneg_of_parse h Zone.utc
    rwa [hutc, Minute.date, Instant.day_of_minute] at hlocal
  obtain ⟨rest, hchars⟩ := i.chars_eq_parts
  have hdate := Instant.length_datePart hyear
  refine ⟨?_, ?_, fun zone hzone => ?_⟩
  · rw [toList_text, hutc, Instant.text_minute_eq_parts hyear, Instant.text, String.toList_ofList, hchars,
      List.take_left' hdate]
    congr 2
    rw [List.append_cons, List.drop_left' (by simp [hdate]), List.take_left' i.length_clockPart]
  · rw [Instant.text, String.toList_ofList, hchars, List.getElem?_append_right (Nat.le_of_eq hdate),
      hdate]
    rfl
  · rw [text, text, hutc, Zone.localMinute_of_offset_zero hzone]

/-- Less than a second before the year 1, where the time of day is not that of the whole second nearest
to 1970. -/
theorem text_in_universal_time_at_start :
    Instant.parse "0000-12-31T23:59:59.000000001Z" =
        .ok ⟨-62135596800999999999, by decide, by decide⟩ ∧
      text ⟨-62135596800999999999, by decide, by decide⟩ Zone.utc = "0000-12-31 23:59" := by
  have hparse : Instant.parse "0000-12-31T23:59:59.000000001Z" =
      .ok ⟨-62135596800999999999, by decide, by decide⟩ :=
    Instant.parse_eq_ok_iff.2 ⟨by decide +kernel, by decide⟩
  refine ⟨hparse, String.toList_inj.1 ?_⟩
  rw [(text_in_universal_time hparse).1]
  decide +kernel

end Display

end WallClock

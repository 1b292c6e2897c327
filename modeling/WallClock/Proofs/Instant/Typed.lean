import WallClock.Proofs.Instant.Parse
import WallClock.Proofs.Instant.RoundTrip
import WallClock.Proofs.Text.Trim

/-!
Timestamps as people type them: a date and a time of day between the years 1 and 9999, a fraction of up
to nine digits, and `Z` or an offset of hours and minutes, blanks around all of it allowed. Such a text
names one moment; it is taken as exactly that moment if it is not too early and not too late, and
never without a designator.
-/

namespace WallClock

open Text Civil

/-- A date and a time of day as they are written, with the digits of the fraction. -/
structure Civil.Stamp where
  date : Date
  hour : Fin 24
  minute : Fin 60
  second : Fin 60
  fraction : List Char
  valid : date.Valid
  year_pos : 1 ≤ date.year
  year_le : date.year ≤ 9999
  isDigit : ∀ c ∈ fraction, c.isDigit = true
  length_le : fraction.length ≤ 9

namespace Civil.Stamp

/-- A point stands before the digits of the fraction, if there are any. -/
def fractionChars (t : Stamp) : List Char :=
  if t.fraction = [] then [] else '.' :: t.fraction

def chars (t : Stamp) : List Char :=
  zeroPadded 4 t.date.year ++ '-' :: zeroPadded 2 t.date.month ++ '-' :: zeroPadded 2 t.date.day ++
    'T' :: zeroPadded 2 t.hour ++ ':' :: zeroPadded 2 t.minute ++ ':' :: zeroPadded 2 t.second ++
    t.fractionChars

def subsecond (t : Stamp) : Nat :=
  digitsValue t.fraction * 10 ^ (9 - t.fraction.length)

/-- Nanoseconds from 1970-01-01T00:00:00 to the stamp on the same clock. -/
def nanos (t : Stamp) : Int :=
  (((t.date.dayNumber * 24 + t.hour) * 60 + t.minute) * 60 + t.second) * nanosPerSecond + t.subsecond

end Civil.Stamp

namespace Instant

/-- What says on which clock a stamp was read: `Z`, or hours and minutes east or west. -/
inductive Designator where
  | universal
  | east (hour : Fin 24) (minute : Fin 60)
  | west (hour : Fin 24) (minute : Fin 60)

namespace Designator

def chars : Designator → List Char
  | universal => ['Z']
  | east hour minute => '+' :: (zeroPadded 2 hour ++ ':' :: zeroPadded 2 minute)
  | west hour minute => '-' :: (zeroPadded 2 hour ++ ':' :: zeroPadded 2 minute)

/-- The offset in seconds east of Greenwich. -/
def seconds : Designator → Int
  | universal => 0
  | east hour minute => hour * 3600 + minute * 60
  | west hour minute => -(hour * 3600 + minute * 60)

end Designator

/-- A stamp and its designator with blanks around. -/
structure Typed where
  before : List Char
  stamp : Stamp
  designator : Designator
  after : List Char
  blank_before : ∀ c ∈ before, isBlank c = true
  blank_after : ∀ c ∈ after, isBlank c = true

namespace Typed

def text (x : Typed) : String :=
  String.ofList (x.before ++ (x.stamp.chars ++ x.designator.chars ++ x.after))

/-- The same text, but for the designator. -/
def undesignated (x : Typed) : String :=
  String.ofList (x.before ++ (x.stamp.chars ++ x.after))

/-- The moment that the text names, in nanoseconds since 1970-01-01T00:00:00Z. -/
def moment (x : Typed) : Int :=
  x.stamp.nanos - x.designator.seconds * nanosPerSecond

end Typed

/-! ### Reading the parts -/

theorem zeroPadded_eq_padded {n : Nat} (h : n < 100) : zeroPadded 2 n = padded 2 n :=
  (padded_eq_zeroPadded h).symm

/-- A stamp ends, fraction and all, before a text of this kind. -/
def EndsStamp (s : List Char) : Prop :=
  EndsDigits s ∧ ∀ c ∈ s.head?, c ≠ '.' ∧ c ≠ ','

theorem endsStamp_nil : EndsStamp [] := by
  simp [EndsStamp, EndsDigits]

theorem readFraction_of_endsStamp {s : List Char} (h : EndsStamp s) :
    readFraction s = some (0, s) := by
  cases s with
  | nil => rfl
  | cons c s =>
    obtain ⟨hpoint, hcomma⟩ := h.2 c rfl
    simp [readFraction, hpoint, hcomma]

/-- Up to nine digits are read as nanoseconds, and none as zero. -/
theorem readFraction_fractionChars (t : Stamp) {rest : List Char} (h : EndsStamp rest) :
    readFraction (t.fractionChars ++ rest) = some (t.subsecond, rest) := by
  unfold Stamp.fractionChars Stamp.subsecond
  by_cases hnone : t.fraction = []
  · simp [hnone, readFraction_of_endsStamp h, digitsValue]
  · rw [if_neg hnone]
    exact readFraction_point hnone t.isDigit t.length_le h.1

theorem stamp_chars_eq (t : Stamp) :
    t.chars = dateText t.date ++ 'T' :: (padded 2 t.hour ++ ':' :: (padded 2 t.minute ++
      ':' :: (padded 2 t.second ++ t.fractionChars))) := by
  have hyear : zeroPadded 4 t.date.year = signedYear t.date.year := by
    have hpos : 0 ≤ t.date.year := Int.le_trans Int.one_nonneg t.year_pos
    have hlt : t.date.year.natAbs < tenTo 4 := by
      have := t.year_le
      change t.date.year.natAbs < 10000
      omega
    rw [signedYear, if_pos hpos, padded_eq_zeroPadded hlt, Int.natAbs_of_nonneg hpos]
  have hhour : t.hour.val < 100 := Nat.lt_trans t.hour.isLt (by decide)
  have hminute : t.minute.val < 100 := Nat.lt_trans t.minute.isLt (by decide)
  have hsecond : t.second.val < 100 := Nat.lt_trans t.second.isLt (by decide)
  simp only [Stamp.chars, hyear, zeroPadded_eq_padded (Minute.month_lt t.valid),
    zeroPadded_eq_padded (Minute.day_lt t.valid), zeroPadded_eq_padded hhour,
    zeroPadded_eq_padded hminute, zeroPadded_eq_padded hsecond, dateText, List.append_assoc,
    List.cons_append]

theorem readOffsetSize_padded {hour minute : Nat} (hhour : hour < 24) (hminute : minute < 60) :
    readOffsetSize (padded 2 hour ++ ':' :: padded 2 minute) =
      some (hour * 3600 + minute * 60, []) := by
  have hreadHour : readAtMost 25 2 (padded 2 hour ++ ':' :: padded 2 minute) =
      some (hour, ':' :: padded 2 minute) :=
    readAtMost_padded (by omega) (Nat.lt_trans hhour (by decide)) _
  have hreadMinute : readAtMost 59 2 (padded 2 minute ++ []) = some (minute, []) :=
    readAtMost_padded (by omega) (Nat.lt_trans hminute (by decide)) []
  rw [List.append_nil] at hreadMinute
  have hfraction : readFractionAfter none [] = some (0, []) := rfl
  have hround : ¬ 500000000 ≤ 0 := by decide
  have hsize : hour * 3600 + minute * 60 + 0 + 0 ≤ largestOffset := by
    unfold largestOffset
    omega
  simp only [readOffsetSize, hreadHour, readMinutes, hreadMinute, Option.bind_eq_bind,
    Option.bind_some, hfraction, Option.getD_none]
  rw [if_neg hround, if_pos hsize, Nat.add_zero]

theorem hourMinute_eq (hour : Fin 24) (minute : Fin 60) :
    zeroPadded 2 hour ++ ':' :: zeroPadded 2 minute = padded 2 hour ++ ':' :: padded 2 minute := by
  rw [zeroPadded_eq_padded (Nat.lt_trans hour.isLt (by decide)),
    zeroPadded_eq_padded (Nat.lt_trans minute.isLt (by decide))]

/-- A designator is read to its end. -/
theorem readOffset_chars (d : Designator) : readOffset d.chars = some (d.seconds, []) := by
  cases d with
  | universal => rfl
  | east hour minute =>
    rw [Designator.chars, hourMinute_eq, readOffset, readOffsetSize_padded hour.isLt minute.isLt]
    simp [Designator.seconds]
  | west hour minute =>
    rw [Designator.chars, hourMinute_eq, readOffset, readOffsetSize_padded hour.isLt minute.isLt]
    simp [Designator.seconds]

/-! ### Reading the whole -/

theorem endsStamp_chars (d : Designator) : EndsStamp d.chars := by
  cases d <;> exact ⟨endsDigits_cons (by decide), by rintro c ⟨⟩; decide⟩

theorem read?_stamp (t : Stamp) {rest : List Char} (h : EndsStamp rest) :
    read? (t.chars ++ rest) = (readOffset rest).bind fun (offset, s) =>
      if onlyAnnotations s then ofNanos? (t.nanos - offset * nanosPerSecond) else none := by
  have hyear : FourDigits t.date.year := ⟨by have := t.year_pos; omega, t.year_le⟩
  rw [stamp_chars_eq]
  simp only [read?, List.append_assoc, List.cons_append, readDate_dateText hyear t.valid,
    Option.bind_eq_bind, Option.bind_some, skipSeparator_mark,
    readTime_padded t.hour.isLt t.minute.isLt t.second.isLt (readFraction_fractionChars t h)]
  congr 1
  funext p
  obtain ⟨offset, s⟩ := p
  have hnanos : (t.date.dayNumber * 86400 - offset) * nanosPerSecond +
      (((t.hour * 3600 + t.minute * 60 + t.second : Nat) : Int) * nanosPerSecond + t.subsecond) =
      t.nanos - offset * nanosPerSecond := by
    unfold Stamp.nanos nanosPerSecond
    omega
  simp only [hnanos]

/-- The instant is the civil time less the offset. -/
theorem read?_designated (t : Stamp) (d : Designator) :
    read? (t.chars ++ d.chars) = ofNanos? (t.nanos - d.seconds * nanosPerSecond) := by
  rw [read?_stamp t (endsStamp_chars d), readOffset_chars]
  rfl

/-- A civil time by itself is no moment. -/
theorem read?_undesignated (t : Stamp) : read? t.chars = none := by
  have h := read?_stamp t endsStamp_nil
  rwa [List.append_nil] at h

/-! ### Blanks -/

theorem isBlank_of_mem_padded {width n : Nat} : ∀ c ∈ padded width n, isBlank c = false :=
  fun _ hc => isBlank_of_isDigit (isDigit_of_mem_padded hc)

theorem isBlank_of_mem_stamp (t : Stamp) : ∀ c ∈ t.chars, isBlank c = false := by
  have hmarks : isBlank '-' = false ∧ isBlank 'T' = false ∧ isBlank ':' = false := by decide
  have hpos : 0 ≤ t.date.year := Int.le_trans Int.one_nonneg t.year_pos
  have hfraction : ∀ c ∈ t.fractionChars, isBlank c = false := by
    unfold Stamp.fractionChars
    split
    · simp
    · rw [List.forall_mem_cons]
      exact ⟨by decide, fun c hc => isBlank_of_isDigit (t.isDigit c hc)⟩
  rw [stamp_chars_eq, dateText, signedYear, if_pos hpos]
  simp only [List.forall_mem_append, List.forall_mem_cons, hmarks]
  exact ⟨⟨⟨isBlank_of_mem_padded, trivial, isBlank_of_mem_padded⟩, trivial, isBlank_of_mem_padded⟩,
    trivial, isBlank_of_mem_padded, trivial, isBlank_of_mem_padded, trivial, isBlank_of_mem_padded,
    hfraction⟩

theorem isBlank_of_mem_designator (d : Designator) : ∀ c ∈ d.chars, isBlank c = false := by
  have hclock : ∀ (hour : Fin 24) (minute : Fin 60),
      ∀ c ∈ zeroPadded 2 hour ++ ':' :: zeroPadded 2 minute, isBlank c = false := by
    intro hour minute
    rw [hourMinute_eq, List.forall_mem_append, List.forall_mem_cons]
    exact ⟨isBlank_of_mem_padded, by decide, isBlank_of_mem_padded⟩
  cases d with
  | universal => exact List.forall_mem_singleton.2 (by decide)
  | east hour minute => exact List.forall_mem_cons.2 ⟨by decide, hclock hour minute⟩
  | west hour minute => exact List.forall_mem_cons.2 ⟨by decide, hclock hour minute⟩

theorem stamp_chars_ne_nil (t : Stamp) : t.chars ≠ [] := by
  simp [Stamp.chars]

theorem trim_text_typed (x : Typed) :
    trim x.text.toList = x.stamp.chars ++ x.designator.chars := by
  have hchars : ∀ c ∈ x.stamp.chars ++ x.designator.chars, isBlank c = false :=
    List.forall_mem_append.2 ⟨isBlank_of_mem_stamp _, isBlank_of_mem_designator _⟩
  rw [Typed.text, String.toList_ofList]
  refine trim_between x.blank_before x.blank_after ?_ (fun c hc => hchars c ?_)
    (fun c hc => hchars c ?_)
  · simp [stamp_chars_ne_nil]
  · exact List.mem_of_mem_head? hc
  · exact List.mem_of_mem_getLast? hc

theorem trim_undesignated (x : Typed) : trim x.undesignated.toList = x.stamp.chars := by
  have hchars := isBlank_of_mem_stamp x.stamp
  rw [Typed.undesignated, String.toList_ofList]
  refine trim_between x.blank_before x.blank_after (stamp_chars_ne_nil _)
    (fun c hc => hchars c ?_) (fun c hc => hchars c ?_)
  · exact List.mem_of_mem_head? hc
  · exact List.mem_of_mem_getLast? hc

/-! ### Moments -/

theorem ofNanos?_eq_some_iff {n : Int} {i : Instant} : ofNanos? n = some i ↔ i.nanos = n := by
  constructor
  · intro h
    unfold ofNanos? at h
    split at h
    · cases h
      rfl
    · cases h
  · rintro rfl
    exact i.ofNanos?_nanos

/-- Nothing that can be typed lies before the time line. -/
theorem le_moment (x : Typed) : -377705023201000000000 ≤ x.moment := by
  have hfirst : Date.yearStart 1 ≤ x.stamp.date.dayNumber :=
    Int.le_trans (Date.yearStart_le x.stamp.year_pos) (Date.dayNumber_bounds x.stamp.valid).1
  rw [show Date.yearStart 1 = -719162 by decide] at hfirst
  have hoffset : x.designator.seconds ≤ 86400 := by
    cases x.designator <;> simp only [Designator.seconds] <;> omega
  unfold Typed.moment Stamp.nanos nanosPerSecond
  omega

theorem read?_text_typed (x : Typed) : read? (trim x.text.toList) = ofNanos? x.moment := by
  rw [trim_text_typed, read?_designated]
  rfl

/-- A typed text is taken for the instant at its moment, if there is one that is not too early. -/
theorem ofText_typed_eq_ok_iff {x : Typed} {i : Instant} :
    ofText x.text = .ok i ↔ i.nanos = x.moment ∧ yearOne ≤ i.wholeSeconds := by
  rw [← ofNanos?_eq_some_iff, ← read?_text_typed, ← parse_eq_ok_iff, ofText]
  cases parse x.text <;> simp

/-- The last nanosecond of 9999-12-30T22:00:00Z. -/
def latest : Int := 253402207200999999999

theorem ofNanos?_of_latest_lt {n : Int} (h : latest < n) : ofNanos? n = none := by
  unfold latest at h
  exact dif_neg (by omega)

theorem exists_of_le_latest {x : Typed} (h : x.moment ≤ latest) :
    ∃ i : Instant, i.nanos = x.moment := by
  unfold latest at h
  exact ⟨⟨x.moment, le_moment x, by omega⟩, rfl⟩

theorem le_latest_of_early {n : Int} (h : n.tdiv nanosPerSecond < yearOne) : n ≤ latest := by
  by_contra hlate
  unfold latest at hlate
  rw [Int.tdiv_eq_ediv_of_nonneg (by omega)] at h
  unfold yearOne nanosPerSecond at h
  omega

theorem ofText_of_early {x : Typed} (h : x.moment.tdiv nanosPerSecond < yearOne) :
    ofText x.text = .error (.invalidInstant x.text Refusal.beforeYearOne.reason) := by
  obtain ⟨i, hnanos⟩ := exists_of_le_latest (le_latest_of_early h)
  have hearly : i.wholeSeconds < yearOne := by
    rwa [wholeSeconds, hnanos]
  simp [ofText, parse, read?_text_typed, ofNanos?_eq_some_iff.2 hnanos, hearly]

/-- Beyond the end of the time line there is nothing to read. -/
theorem ofText_of_late {x : Typed} (h : latest < x.moment) :
    ofText x.text = .error (.invalidInstant x.text Refusal.unreadable.reason) := by
  simp [ofText, parse, read?_text_typed, ofNanos?_of_latest_lt h]

theorem exists_ofText_eq_ok {x : Typed} (hearly : yearOne ≤ x.moment.tdiv nanosPerSecond)
    (hlate : x.moment ≤ latest) : ∃ i, ofText x.text = .ok i ∧ i.nanos = x.moment := by
  obtain ⟨i, hnanos⟩ := exists_of_le_latest hlate
  refine ⟨i, ofText_typed_eq_ok_iff.2 ⟨hnanos, ?_⟩, hnanos⟩
  rwa [wholeSeconds, hnanos]

/-- A typed timestamp is taken as the moment it names, unless that lies before the year 1 or after the
latest moment; two of them are taken as one instant when they name one moment; and without its
designator none is taken. -/
theorem ofText_typed (x : Typed) :
    x.stamp.date.Numbered x.stamp.date.dayNumber ∧
      (ofText x.text).map (·.nanos) =
        (if x.moment.tdiv nanosPerSecond < yearOne then
          .error (.invalidInstant x.text Refusal.beforeYearOne.reason)
        else if x.moment ≤ latest then .ok x.moment
        else .error (.invalidInstant x.text Refusal.unreadable.reason)) ∧
      (∀ (y : Typed) (i : Instant), ofText x.text = .ok i →
        (ofText y.text = .ok i ↔ y.moment = x.moment)) ∧
      ofText x.undesignated =
        .error (.invalidInstant x.undesignated Refusal.unreadable.reason) := by
  refine ⟨?_, ?_, ?_, ?_⟩
  · rw [Date.numbered_iff, Date.ofDayNumber_dayNumber x.stamp.valid]
  · by_cases hearly : x.moment.tdiv nanosPerSecond < yearOne
    · rw [if_pos hearly, ofText_of_early hearly]
      rfl
    rw [if_neg hearly]
    by_cases hlate : x.moment ≤ latest
    · obtain ⟨i, hi, hnanos⟩ := exists_ofText_eq_ok (Int.not_lt.1 hearly) hlate
      rw [if_pos hlate, hi, ← hnanos]
      rfl
    · rw [if_neg hlate, ofText_of_late (Int.not_le.1 hlate)]
      rfl
  · intro y i hx
    obtain ⟨hnanos, hearly⟩ := ofText_typed_eq_ok_iff.1 hx
    rw [ofText_typed_eq_ok_iff, hnanos]
    constructor
    · intro hy
      exact hy.1.symm
    · intro heq
      exact ⟨heq.symm, hearly⟩
  · rw [ofText, parse, trim_undesignated, read?_undesignated]

example :
    (ofText " 9999-12-30T23:59:00.999999999+01:59\n").toOption.map (·.nanos) =
      some 253402207200999999999 := by
  decide +kernel

end Instant

end WallClock

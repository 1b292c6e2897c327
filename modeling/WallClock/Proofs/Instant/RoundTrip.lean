import WallClock.Proofs.Instant.Form

/-!
The timestamp of an instant is read back as that instant: date, time of day and fraction of the second
part by part, and then the whole.
-/

namespace WallClock.Instant

open Text Civil

/-! ### Dates -/

theorem readYear_of_isDigit {c : Char} (hc : c.isDigit = true) (s : List Char) :
    readYear (c :: s) = (readDigits 4 (c :: s)).map fun (year, rest) => ((year : Int), rest) := by
  unfold readYear
  split
  · rename_i heq
    rw [(List.cons.inj heq).1] at hc
    exact absurd hc (by decide)
  · rename_i heq
    rw [(List.cons.inj heq).1] at hc
    exact absurd hc (by decide)
  · rfl

/-- A year is read back whatever follows. -/
theorem readYear_signedYear {year : Int} (h : FourDigits year) (rest : List Char) :
    readYear (signedYear year ++ rest) = some (year, rest) := by
  have hle : year.natAbs ≤ 9999 := by
    unfold FourDigits at h
    omega
  have hlt : year.natAbs < tenTo 4 := Nat.lt_succ_of_le hle
  unfold signedYear
  split
  case isTrue hpos =>
    obtain ⟨c, s, hpadded, hc⟩ := exists_cons_padded 3 year.natAbs
    have hread := readDigits_padded hlt rest
    rw [hpadded, List.cons_append] at hread ⊢
    rw [readYear_of_isDigit hc, hread, Option.map_some]
    dsimp only
    rw [Int.natAbs_of_nonneg hpos]
  case isFalse hneg =>
    have hread : readAtMost 9999 6 (padded 6 year.natAbs ++ rest) = some (year.natAbs, rest) :=
      readAtMost_padded hle (Nat.lt_trans hlt (by decide)) rest
    have hne : year.natAbs ≠ 0 := by omega
    have hyear : -(year.natAbs : Int) = year := by omega
    rw [List.cons_append, readYear, hread]
    dsimp only
    rw [if_neg hne, hyear]

theorem readDatePart_padded {n : Nat} (h : n < tenTo 2) (rest : List Char) :
    readDatePart true ('-' :: (padded 2 n ++ rest)) = some (n, rest) := by
  rw [readDatePart, if_pos rfl, if_pos rfl, readDigits_padded h]

def dateText (date : Date) : List Char :=
  signedYear date.year ++ '-' :: padded 2 date.month ++ '-' :: padded 2 date.day

theorem readDate_dateText {date : Date} (hyear : FourDigits date.year) (h : date.Valid)
    (rest : List Char) : readDate (dateText date ++ rest) = some (date, rest) := by
  simp only [dateText, List.append_assoc, List.cons_append, readDate, readYear_signedYear hyear,
    Option.bind_eq_bind, Option.bind_some, List.head?_cons, beq_self_eq_true,
    readDatePart_padded (Minute.month_lt h), readDatePart_padded (Minute.day_lt h)]
  exact if_pos h

/-! ### Times of day -/

theorem readFraction_fractionText {nanos : Nat} (h : nanos < tenTo 9) (rest : List Char) :
    readFraction (fractionText nanos ++ 'Z' :: rest) = some (nanos, 'Z' :: rest) :=
  readFraction_of_form (fractionForm_fractionText h) rest

theorem readMinutes_padded {minute second : Nat} (hminute : minute < 60) (hsecond : second < 60)
    (rest : List Char) :
    readMinutes 60 (':' :: (padded 2 minute ++ ':' :: (padded 2 second ++ rest))) =
      some (⟨minute, some second⟩, rest) := by
  have hten : 60 < tenTo 2 := by decide
  have hreadMinute := readAtMost_padded (Nat.le_of_lt_succ hminute) (Nat.lt_trans hminute hten)
    (':' :: (padded 2 second ++ rest))
  have hreadSecond := readAtMost_padded (Nat.le_of_lt hsecond) (Nat.lt_trans hsecond hten) rest
  simp only [readMinutes, hreadMinute, hreadSecond, Option.map_some]

theorem readTime_padded {hour minute second nanos : Nat} (hhour : hour < 24) (hminute : minute < 60)
    (hsecond : second < 60) {s rest : List Char} (hfraction : readFraction s = some (nanos, rest)) :
    readTime (padded 2 hour ++ ':' :: (padded 2 minute ++ ':' :: (padded 2 second ++ s))) =
      some ((hour * 3600 + minute * 60 + second : Nat) * nanosPerSecond + nanos, rest) := by
  have hten : 24 < tenTo 2 := by decide
  have hmin : min 59 second = second := by omega
  simp only [readTime, readAtMost_padded (Nat.le_of_lt_succ hhour) (Nat.lt_trans hhour hten),
    readMinutes_padded hminute hsecond, Option.bind_eq_bind, Option.bind_some, readFractionAfter,
    Option.isSome_some, if_true, hfraction, Option.getD_some, hmin]

/-- The written form of a time of day, given by its second and the nanoseconds after it. -/
def timeText (secondOfDay nanos : Nat) : List Char :=
  padded 2 (secondOfDay / 3600) ++ ':' :: padded 2 (secondOfDay / 60 % 60) ++
    ':' :: padded 2 (secondOfDay % 60) ++ fractionText nanos

/-- A time of day is read back with its fraction, up to the designator. -/
theorem readTime_timeText {secondOfDay nanos : Nat} (hsecond : secondOfDay < 86400)
    (hnanos : nanos < tenTo 9) (rest : List Char) :
    readTime (timeText secondOfDay nanos ++ 'Z' :: rest) =
      some ((secondOfDay : Int) * nanosPerSecond + nanos, 'Z' :: rest) := by
  have hhour : secondOfDay / 3600 < 24 := by omega
  have hmod : ∀ n, n % 60 < 60 := fun n => Nat.mod_lt n (by decide)
  have htotal : secondOfDay / 3600 * 3600 + secondOfDay / 60 % 60 * 60 + secondOfDay % 60 =
      secondOfDay := by omega
  have hread := readTime_padded hhour (hmod (secondOfDay / 60)) (hmod secondOfDay)
    (readFraction_fractionText hnanos rest)
  rw [htotal] at hread
  simpa only [timeText, List.append_assoc, List.cons_append] using hread

/-! ### Instants -/

theorem chars_eq (i : Instant) :
    i.chars = dateText (.ofDayNumber (i.second / 86400)) ++
      'T' :: (timeText (i.second % 86400).toNat i.fraction ++ ['Z']) := by
  simp only [chars, dateText, timeText, List.append_assoc, List.cons_append]

theorem skipSeparator_mark (s : List Char) : skipSeparator ('T' :: s) = some s := by
  rw [skipSeparator, if_pos (Or.inl rfl)]

theorem readOffset_universal (s : List Char) : readOffset ('Z' :: s) = some (0, s) :=
  rfl

theorem read?_chars (i : Instant) : read? i.chars = some i := by
  have hdate : (Date.ofDayNumber (i.second / 86400)).Valid := Date.valid_ofDayNumber _
  have hday : (Date.ofDayNumber (i.second / 86400)).dayNumber = i.second / 86400 :=
    Date.dayNumber_ofDayNumber _
  have hsecond : (i.second % 86400).toNat < 86400 := by omega
  have hnanos : ((i.second / 86400) * 86400 - 0) * nanosPerSecond +
      (((i.second % 86400).toNat : Int) * nanosPerSecond + i.fraction) = i.nanos := by
    unfold fraction second nanosPerSecond
    omega
  rw [chars_eq]
  simp only [read?, readDate_dateText i.fourDigits_year hdate, Option.bind_eq_bind, Option.bind_some,
    skipSeparator_mark, readTime_timeText hsecond i.fraction_lt, readOffset_universal, hday, hnanos,
    ofNanos?_nanos]
  rfl

/-- Every instant is read back from its timestamp. -/
theorem read?_text (i : Instant) : read? i.text.toList = some i := by
  rw [text, String.toList_ofList, read?_chars]

end WallClock.Instant

import Mathlib.Data.Int.Init
import WallClock.Civil.Date

/-!
The calendar by counting. A date has the number `n` if one arrives at it after `n` days from
1970-01-01, or at 1970-01-01 after `-n` days from it, `next` giving the day after. The conversions
agree with this count: `dayNumber` gives the number of each date there is, and `ofDayNumber` the date
of each number.
-/

namespace WallClock.Civil

theorem marchStart_le {a b : Int} (h : a ≤ b) : marchStart a ≤ marchStart b := by
  rcases Int.lt_or_eq_of_le h with hlt | rfl
  · exact Int.le_of_lt (marchStart_lt hlt)
  · exact Int.le_refl _

/-- A year from March on has its leap day at the end, in the February of the next year. -/
theorem marchStart_succ (year : Int) :
    marchStart (year + 1) = marchStart year + if isLeap (year + 1) then 366 else 365 := by
  simp only [marchStart, isLeap, Bool.and_eq_true, Bool.or_eq_true, beq_iff_eq, bne_iff_ne]
  split <;> omega

/-- A day between the starts of two years that follow each other lies in the first of them. -/
theorem marchYear_eq {year day : Int} (lower : marchStart year ≤ day)
    (upper : day < marchStart (year + 1)) : marchYear day = year := by
  obtain ⟨lower', upper'⟩ := marchYear_spec day
  rcases Int.lt_trichotomy (marchYear day) year with hlt | heq | hgt
  · have := marchStart_le (show marchYear day + 1 ≤ year by omega)
    omega
  · exact heq
  · have := marchStart_le (show year + 1 ≤ marchYear day by omega)
    omega

theorem monthLength_pos (year : Int) (month : Nat) : 1 ≤ monthLength year month := by
  unfold monthLength
  split
  · split <;> omega
  · split <;> omega

theorem monthLength_ge (year : Int) (month : Nat) : 28 ≤ monthLength year month := by
  unfold monthLength
  split
  · split <;> omega
  · split <;> omega

theorem monthLength_le (year : Int) (month : Nat) : monthLength year month ≤ 31 := by
  unfold monthLength
  split
  · split <;> omega
  · split <;> omega

namespace Date

/-! ### Months counted from March -/

/-- The date in the month that is `month` months after the March of the year. -/
def ofMarch (year : Int) (month day : Nat) : Date :=
  if month < 10 then ⟨year, month + 3, day⟩ else ⟨year + 1, month - 9, day⟩

def marchLength (year : Int) (month : Nat) : Nat :=
  monthLength (ofMarch year month 1).year (ofMarch year month 1).month

theorem exists_ofMarch {d : Date} (hmonth : 1 ≤ d.month ∧ d.month ≤ 12) :
    ∃ year month, month ≤ 11 ∧ d = ofMarch year month d.day := by
  obtain ⟨year, month, day⟩ := d
  dsimp only at hmonth ⊢
  by_cases hearly : month ≤ 2
  · refine ⟨year - 1, month + 9, by omega, ?_⟩
    rw [ofMarch, if_neg (by omega), Int.sub_add_cancel, Nat.add_sub_cancel]
  · refine ⟨year, month - 3, by omega, ?_⟩
    rw [ofMarch, if_pos (by omega), Nat.sub_add_cancel (by omega)]

theorem valid_ofMarch {year : Int} {month day : Nat} (hmonth : month ≤ 11) :
    (ofMarch year month day).Valid ↔ 1 ≤ day ∧ day ≤ marchLength year month := by
  unfold Valid marchLength ofMarch
  split <;> dsimp only <;> omega

/-- Counted from March, a leap day is the last day of its year, so the number of a day is a sum. -/
theorem dayNumber_ofMarch {year : Int} {month : Nat} (day : Nat) (hmonth : month ≤ 11) :
    (ofMarch year month day).dayNumber = marchStart year + monthStart month + day - 719469 := by
  by_cases hlate : month < 10
  · rw [ofMarch, if_pos hlate, dayNumber, if_neg (by dsimp only; omega)]
    dsimp only
    rw [show ((month + 3 : Nat) : Int) - 3 = month by omega]
  · rw [ofMarch, if_neg hlate, dayNumber, if_pos (by dsimp only; omega)]
    dsimp only
    rw [show ((month - 9 : Nat) : Int) + 9 = month by omega, Int.add_sub_cancel]

/-- Each month ends where the next one begins, and February where the next year from March does. -/
theorem monthStart_add_marchLength {year : Int} {month : Nat} (hmonth : month ≤ 11) :
    marchStart year + monthStart month + marchLength year month =
      if month < 11 then marchStart year + monthStart (month + 1) else marchStart (year + 1) := by
  by_cases hfebruary : month = 11
  · subst hfebruary
    have hlength : marchLength year 11 = if isLeap (year + 1) then 29 else 28 := rfl
    rw [if_neg (by omega), marchStart_succ, hlength]
    simp only [monthStart]
    split <;> omega
  · have hcases : month = 0 ∨ month = 1 ∨ month = 2 ∨ month = 3 ∨ month = 4 ∨ month = 5 ∨ month = 6 ∨
      month = 7 ∨ month = 8 ∨ month = 9 ∨ month = 10 := by omega
    rw [if_pos (by omega)]
    rcases hcases with rfl | rfl | rfl | rfl | rfl | rfl | rfl | rfl | rfl | rfl | rfl <;>
      simp [marchLength, ofMarch, monthLength, monthStart] <;> omega

/-! ### The two conversions -/

theorem ofDayNumber_ofMarch {year : Int} {month day : Nat} (hmonth : month ≤ 11)
    (hday : 1 ≤ day ∧ day ≤ marchLength year month) :
    ofDayNumber (marchStart year + monthStart month + day - 719469) = ofMarch year month day := by
  have hend := @monthStart_add_marchLength year month hmonth
  have hyear : marchYear (marchStart year + monthStart month + day - 719469 + 719468) = year := by
    have hnonneg : 0 ≤ monthStart month := by
      unfold monthStart
      omega
    have hnext := marchStart_succ year
    have hlast : month < 11 → monthStart (month + 1) ≤ 337 := by
      unfold monthStart
      omega
    apply marchYear_eq
    · omega
    · split at hend <;> split at hnext <;> omega
  have hcount : (5 * (marchStart year + monthStart month + day - 719469 + 719468 -
      marchStart year) + 2) / 153 = (month : Int) := by
    have hnext := marchStart_succ year
    simp only [monthStart] at hend ⊢
    split at hend <;> split at hnext <;> omega
  simp only [ofDayNumber, hyear, hcount, ofMarch]
  have hrest : (marchStart year + monthStart month + day - 719469 + 719468 - marchStart year -
      monthStart month + 1).toNat = day := by omega
  rw [hrest]
  by_cases hlate : month < 10
  · rw [if_pos (by omega), if_pos hlate]
    rfl
  · rw [if_neg (by omega), if_neg hlate]
    rw [show ((month : Int) - 9).toNat = month - 9 by omega]

/-- A day that exists is found again by its number. -/
theorem ofDayNumber_dayNumber {d : Date} (h : d.Valid) : ofDayNumber d.dayNumber = d := by
  obtain ⟨year, month, hmonth, heq⟩ := exists_ofMarch ⟨h.1, h.2.1⟩
  rw [heq] at h ⊢
  rw [dayNumber_ofMarch _ hmonth, ofDayNumber_ofMarch hmonth ((valid_ofMarch hmonth).1 h)]

/-- Each day lies in a month of the year from March on. -/
theorem exists_day_ofMarch (n : Int) :
    ∃ (year : Int) (month day : Nat), month ≤ 11 ∧ (1 ≤ day ∧ day ≤ marchLength year month) ∧
      n = marchStart year + monthStart month + day - 719469 := by
  obtain ⟨lower, upper⟩ := marchYear_spec (n + 719468)
  generalize marchYear (n + 719468) = year at *
  have hnext := marchStart_succ year
  obtain ⟨month, hmonth⟩ := Int.eq_ofNat_of_zero_le
    (show 0 ≤ (5 * (n + 719468 - marchStart year) + 2) / 153 by omega)
  have hmonth_le : month ≤ 11 := by
    split at hnext <;> omega
  have hend := @monthStart_add_marchLength year month hmonth_le
  have hstart : monthStart month ≤ n + 719468 - marchStart year := by
    unfold monthStart
    omega
  refine ⟨year, month, (n + 719469 - marchStart year - monthStart month).toNat, hmonth_le,
    ⟨by omega, ?_⟩, by omega⟩
  split at hend
  · have hlast : n + 719468 - marchStart year < monthStart (month + 1) := by
      unfold monthStart
      omega
    omega
  · omega

theorem valid_ofDayNumber (n : Int) : (ofDayNumber n).Valid := by
  obtain ⟨year, month, day, hmonth, hday, rfl⟩ := exists_day_ofMarch n
  rw [ofDayNumber_ofMarch hmonth hday]
  exact (valid_ofMarch hmonth).2 hday

theorem dayNumber_injective {d e : Date} (hd : d.Valid) (he : e.Valid)
    (h : d.dayNumber = e.dayNumber) : d = e := by
  rw [← ofDayNumber_dayNumber hd, h, ofDayNumber_dayNumber he]

/-! ### Day by day -/

theorem valid_next {d : Date} (h : d.Valid) : d.next.Valid := by
  obtain ⟨hpos, hle, hday, hlength⟩ := h
  unfold next
  split
  · refine ⟨hpos, hle, ?_, ?_⟩ <;> dsimp only <;> omega
  · split
    · refine ⟨?_, ?_, Nat.le_refl 1, monthLength_pos _ _⟩ <;> dsimp only <;> omega
    · exact ⟨Nat.le_refl 1, Nat.le_add_left 1 11, Nat.le_refl 1, monthLength_pos _ _⟩

theorem next_ofMarch_of_lt {year : Int} {month day : Nat} (h : day < marchLength year month) :
    (ofMarch year month day).next = ofMarch year month (day + 1) := by
  unfold marchLength ofMarch at h
  unfold next ofMarch
  split at h <;> rename_i hlate
  · simp only [if_pos hlate, if_pos h]
  · simp only [if_neg hlate, if_pos h]

theorem next_ofMarch_last {year : Int} {month : Nat} (hmonth : month ≤ 11) :
    (ofMarch year month (marchLength year month)).next =
      if month < 11 then ofMarch year (month + 1) 1 else ofMarch (year + 1) 0 1 := by
  have hcases : month < 9 ∨ month = 9 ∨ month = 10 ∨ month = 11 := by omega
  rcases hcases with hlt | rfl | rfl | rfl
  · have hlate : month < 10 := by omega
    simp only [next, marchLength, ofMarch, if_pos hlate, Nat.lt_irrefl, if_false]
    rw [if_pos (by omega), if_pos (by omega), if_pos (by omega)]
  all_goals simp [next, marchLength, ofMarch]

/-- The day after has the next number, also over the ends of months and years. -/
theorem dayNumber_next {d : Date} (h : d.Valid) : d.next.dayNumber = d.dayNumber + 1 := by
  obtain ⟨year, month, hmonth, heq⟩ := exists_ofMarch ⟨h.1, h.2.1⟩
  generalize d.day = day at heq
  subst heq
  obtain ⟨-, hle⟩ := (valid_ofMarch hmonth).1 h
  rw [dayNumber_ofMarch day hmonth]
  rcases Nat.lt_or_eq_of_le hle with hlt | rfl
  · rw [next_ofMarch_of_lt hlt, dayNumber_ofMarch _ hmonth]
    omega
  · have hend := @monthStart_add_marchLength year month hmonth
    rw [next_ofMarch_last hmonth]
    split at hend <;> rename_i hlast
    · rw [if_pos hlast, dayNumber_ofMarch _ (by omega), Int.natCast_succ]
      omega
    · have hmarch : monthStart (0 : Nat) = 0 := rfl
      rw [if_neg hlast, dayNumber_ofMarch _ (by omega), hmarch]
      omega

/-- The date has the number `n` when days are counted one by one from 1970-01-01. -/
inductive Numbered : Date → Int → Prop
  | epoch : Numbered ⟨1970, 1, 1⟩ 0
  | later {d : Date} {n : Int} : Numbered d n → Numbered d.next (n + 1)
  | earlier {d : Date} {n : Int} : d.Valid → Numbered d.next (n + 1) → Numbered d n

theorem ofDayNumber_succ (n : Int) : ofDayNumber (n + 1) = (ofDayNumber n).next := by
  apply dayNumber_injective (valid_ofDayNumber _) (valid_next (valid_ofDayNumber n))
  rw [dayNumber_next (valid_ofDayNumber n), dayNumber_ofDayNumber, dayNumber_ofDayNumber]

/-- The date of every number is the one that is come by day by day from 1970-01-01. -/
theorem numbered_ofDayNumber (n : Int) : Numbered (ofDayNumber n) n := by
  induction n using Int.induction_on with
  | zero => exact .epoch
  | succ n ih =>
    rw [ofDayNumber_succ]
    exact .later ih
  | pred n ih =>
    apply Numbered.earlier (valid_ofDayNumber _)
    rw [← ofDayNumber_succ, Int.sub_add_cancel]
    exact ih

/-- Counting days leads to the date that the conversion gives, and to no other. -/
theorem numbered_iff {d : Date} {n : Int} : Numbered d n ↔ d = ofDayNumber n := by
  constructor
  · intro h
    induction h with
    | epoch => rfl
    | later _ ih => rw [ih, ofDayNumber_succ]
    | @earlier d n hvalid _ ih =>
      apply dayNumber_injective hvalid (valid_ofDayNumber n)
      have hnext := dayNumber_next hvalid
      rw [ih, dayNumber_ofDayNumber] at hnext
      rw [dayNumber_ofDayNumber]
      omega
  · rintro rfl
    exact numbered_ofDayNumber n

/-! ### Months and years -/

/-- The number of the first day of a month. -/
def monthFirst (year : Int) (month : Nat) : Int :=
  dayNumber ⟨year, month, 1⟩

/-- The number of the first day of a year. -/
def yearStart (year : Int) : Int :=
  monthFirst year 1

theorem dayNumber_eq_monthFirst (d : Date) : d.dayNumber = monthFirst d.year d.month + d.day - 1 := by
  unfold monthFirst dayNumber
  dsimp only
  split <;> omega

theorem monthFirst_succ {year : Int} {month : Nat} (h : 1 ≤ month ∧ month ≤ 11) :
    monthFirst year (month + 1) = monthFirst year month + monthLength year month := by
  have hvalid : Valid ⟨year, month, monthLength year month⟩ :=
    ⟨h.1, Nat.le_succ_of_le h.2, monthLength_pos year month, Nat.le_refl _⟩
  have hnext : next ⟨year, month, monthLength year month⟩ = ⟨year, month + 1, 1⟩ := by
    rw [next, if_neg (Nat.lt_irrefl _), if_pos (Nat.lt_succ_of_le h.2)]
  have hcount := dayNumber_next hvalid
  rw [hnext, dayNumber_eq_monthFirst, dayNumber_eq_monthFirst] at hcount
  dsimp only at hcount
  omega

/-- A year ends with its December. -/
theorem yearStart_succ (year : Int) : yearStart (year + 1) = monthFirst year 12 + 31 := by
  have hvalid : Valid ⟨year, 12, 31⟩ :=
    ⟨Nat.le_add_left 1 11, Nat.le_refl 12, Nat.le_add_left 1 30, Nat.le_refl 31⟩
  have hnext : next ⟨year, 12, 31⟩ = ⟨year + 1, 1, 1⟩ := rfl
  have hcount := dayNumber_next hvalid
  rw [hnext, dayNumber_eq_monthFirst, dayNumber_eq_monthFirst] at hcount
  dsimp only at hcount
  unfold yearStart
  omega

/-- No month is shorter than 28 days. -/
theorem monthFirst_le {year : Int} {month later : Nat} (hmonth : 1 ≤ month) (hle : month ≤ later)
    (hlater : later ≤ 12) :
    monthFirst year month + 28 * (later - month) ≤ monthFirst year later := by
  induction later with
  | zero => omega
  | succ later ih =>
    rcases Nat.lt_or_eq_of_le hle with hlt | rfl
    · have hfirst := ih (Nat.le_of_lt_succ hlt) (by omega)
      have hlength := monthLength_ge year later
      rw [monthFirst_succ ⟨by omega, by omega⟩]
      omega
    · omega

theorem yearStart_lt_succ (year : Int) : yearStart year < yearStart (year + 1) := by
  have := @monthFirst_le year 1 12 (by omega) (by omega) (by omega)
  rw [yearStart_succ, yearStart]
  omega

theorem yearStart_le {a b : Int} (h : a ≤ b) : yearStart a ≤ yearStart b := by
  obtain ⟨count, rfl⟩ := Int.le.dest h
  clear h
  induction count with
  | zero => exact Int.le_of_eq (congrArg yearStart (Int.add_zero a).symm)
  | succ count ih =>
    have := yearStart_lt_succ (a + count)
    rw [Int.natCast_succ, ← Int.add_assoc]
    omega

/-- The days of a year lie between its first day and that of the next. -/
theorem dayNumber_bounds {d : Date} (h : d.Valid) :
    yearStart d.year ≤ d.dayNumber ∧ d.dayNumber < yearStart (d.year + 1) := by
  obtain ⟨hmonth_pos, hmonth_le, hday_pos, hday_le⟩ := h
  have hfirst := @monthFirst_le d.year 1 d.month (by omega) hmonth_pos hmonth_le
  rw [dayNumber_eq_monthFirst, yearStart_succ]
  constructor
  · unfold yearStart
    omega
  · rcases Nat.lt_or_eq_of_le hmonth_le with hlt | heq
    · have hnext := @monthFirst_succ d.year d.month ⟨hmonth_pos, by omega⟩
      have hlast := @monthFirst_le d.year (d.month + 1) 12 (by omega) hlt (by omega)
      omega
    · have := monthLength_le d.year d.month
      rw [heq]
      omega

/-- The year of a day is the one between whose first day and the next one's it lies. -/
theorem year_ofDayNumber_iff {n year : Int} :
    (ofDayNumber n).year = year ↔ yearStart year ≤ n ∧ n < yearStart (year + 1) := by
  have hbounds := dayNumber_bounds (valid_ofDayNumber n)
  rw [dayNumber_ofDayNumber] at hbounds
  constructor
  · rintro rfl
    exact hbounds
  · rintro ⟨lower, upper⟩
    rcases Int.lt_trichotomy (ofDayNumber n).year year with hlt | heq | hgt
    · have := yearStart_le (show (ofDayNumber n).year + 1 ≤ year by omega)
      omega
    · exact heq
    · have := yearStart_le (show year + 1 ≤ (ofDayNumber n).year by omega)
      omega

theorem le_year_ofDayNumber {n year : Int} : year ≤ (ofDayNumber n).year ↔ yearStart year ≤ n := by
  obtain ⟨lower, upper⟩ := year_ofDayNumber_iff.1 (Eq.refl (ofDayNumber n).year)
  constructor
  · intro h
    exact Int.le_trans (yearStart_le h) lower
  · intro h
    apply Int.not_lt.1
    intro hlt
    have := yearStart_le (show (ofDayNumber n).year + 1 ≤ year by omega)
    omega

end Date

end WallClock.Civil

import WallClock.Zone.Rules
import WallClock.Proofs.Civil.Calendar

/-!
The turns that a recurring rule makes. A rule is regular if it makes both turns of a year within that
year of universal time and in the same order every year; then the offset changes at its turns and
nowhere else. Rules whose turns lie in months well inside the year and well apart are regular.
-/

namespace WallClock.Zone

open Civil

/-- The first second of a year of universal time. -/
def yearSecond (year : Int) : Int :=
  Date.yearStart year * 86400

theorem yearSecond_le {a b : Int} (h : a ≤ b) : yearSecond a ≤ yearSecond b := by
  have := Date.yearStart_le h
  unfold yearSecond
  omega

theorem year_of_second_iff {second year : Int} :
    (Date.ofDayNumber (second / 86400)).year = year ↔
      yearSecond year ≤ second ∧ second < yearSecond (year + 1) := by
  rw [Date.year_ofDayNumber_iff]
  unfold yearSecond
  omega

namespace Recurring

/-- The turns of a year: to the offset of summer time and back. -/
def turns (r : Recurring) (year : Int) : List Transition :=
  match r.daylight with
  | none => []
  | some d =>
      [⟨d.starts.second year r.standard, d.offset⟩, ⟨d.ends.second year d.offset, r.standard⟩]

/-- Both turns of a year lie in it, and they come in the same order every year. -/
structure Regular (r : Recurring) : Prop where
  within : ∀ year, ∀ t ∈ r.turns year, yearSecond year ≤ t.start ∧ t.start < yearSecond (year + 1)
  ordered : ∀ d, r.daylight = some d →
    (∀ year, d.starts.second year r.standard < d.ends.second year d.offset) ∨
      ∀ year, d.ends.second year d.offset < d.starts.second year r.standard

variable {r : Recurring}

/-- The turns of a year alone decide the offset in it. -/
theorem offsetAt_of_year {d : Daylight} {second year : Int} (hd : r.daylight = some d)
    (hyear : yearSecond year ≤ second ∧ second < yearSecond (year + 1)) :
    r.offsetAt second =
      if d.starts.second year r.standard ≤ d.ends.second year d.offset then
        if d.starts.second year r.standard ≤ second ∧ second < d.ends.second year d.offset then
          d.offset
        else r.standard
      else
        if d.ends.second year d.offset ≤ second ∧ second < d.starts.second year r.standard then
          r.standard
        else d.offset := by
  simp only [offsetAt, hd, year_of_second_iff.2 hyear]

/-- From a turn on its offset is in effect. -/
theorem offsetAt_turn (h : r.Regular) {year : Int} {t : Transition} (ht : t ∈ r.turns year) :
    r.offsetAt t.start = t.offset := by
  have hyear := h.within year t ht
  cases hd : r.daylight with
  | none =>
    rw [turns, hd] at ht
    exact absurd ht List.not_mem_nil
  | some d =>
    have hordered := h.ordered d hd
    rw [offsetAt_of_year hd hyear]
    simp only [turns, hd, List.mem_cons, List.not_mem_nil, or_false] at ht
    rcases ht with rfl | rfl
    · rcases hordered with hlt | hlt
      · have := hlt year
        rw [if_pos (by omega), if_pos (by dsimp only; omega)]
      · have := hlt year
        rw [if_neg (by omega), if_neg (by dsimp only; omega)]
    · rcases hordered with hlt | hlt
      · have := hlt year
        rw [if_pos (by omega), if_neg (by dsimp only; omega)]
      · have := hlt year
        rw [if_neg (by omega), if_pos (by dsimp only; omega)]

/-- A rule that turns at all has turned before any given second. -/
theorem exists_turn_before (h : r.Regular) {year : Int} {t : Transition} (ht : t ∈ r.turns year)
    (second : Int) : ∃ year', ∃ u ∈ r.turns year', u.start < second := by
  cases hd : r.daylight with
  | none =>
    rw [turns, hd] at ht
    exact absurd ht List.not_mem_nil
  | some d =>
    obtain ⟨lower, -⟩ := year_of_second_iff.1 (Eq.refl (Date.ofDayNumber (second / 86400)).year)
    generalize (Date.ofDayNumber (second / 86400)).year = current at lower
    have hmem : ⟨d.starts.second (current - 1) r.standard, d.offset⟩ ∈ r.turns (current - 1) := by
      simp [turns, hd]
    have hupper := (h.within _ _ hmem).2
    rw [Int.sub_add_cancel] at hupper
    exact ⟨current - 1, _, hmem, Int.lt_of_lt_of_le hupper lower⟩

/-- As long as there is no turn the offset stays. -/
theorem offsetAt_eq_of_no_turn (h : r.Regular) {first second : Int} (hle : first ≤ second)
    (hnone : ∀ year, ∀ t ∈ r.turns year, t.start ≤ first ∨ second < t.start) :
    r.offsetAt first = r.offsetAt second := by
  cases hd : r.daylight with
  | none => simp only [offsetAt, hd]
  | some d =>
    obtain ⟨lower, upper⟩ := year_of_second_iff.1 (Eq.refl (Date.ofDayNumber (first / 86400)).year)
    obtain ⟨lower', upper'⟩ :=
      year_of_second_iff.1 (Eq.refl (Date.ofDayNumber (second / 86400)).year)
    generalize (Date.ofDayNumber (first / 86400)).year = year at lower upper
    generalize (Date.ofDayNumber (second / 86400)).year = year' at lower' upper'
    have hmem : ∀ year, ⟨d.starts.second year r.standard, d.offset⟩ ∈ r.turns year ∧
        ⟨d.ends.second year d.offset, r.standard⟩ ∈ r.turns year := by
      intro year
      simp [turns, hd]
    have hstarts := hnone year _ (hmem year).1
    have hends := hnone year _ (hmem year).2
    have hstarts' := hnone year' _ (hmem year').1
    have hends' := hnone year' _ (hmem year').2
    have hstarts_within := h.within year _ (hmem year).1
    have hends_within := h.within year _ (hmem year).2
    have hstarts_within' := h.within year' _ (hmem year').1
    have hends_within' := h.within year' _ (hmem year').2
    have hyears : year = year' ∨ yearSecond (year + 1) ≤ yearSecond year' := by
      rcases Int.lt_trichotomy year year' with hlt | heq | hgt
      · exact Or.inr (yearSecond_le hlt)
      · exact Or.inl heq
      · have := yearSecond_le (show year' + 1 ≤ year from hgt)
        omega
    dsimp only at *
    rw [offsetAt_of_year hd ⟨lower, upper⟩, offsetAt_of_year hd ⟨lower', upper'⟩]
    -- within a year neither turn comes between; over the new year the turns of both years do not
    rcases h.ordered d hd with hlt | hlt
    · have hlt_year := hlt year
      have hlt_year' := hlt year'
      rw [if_pos (Int.le_of_lt hlt_year), if_pos (Int.le_of_lt hlt_year')]
      refine ite_congr (propext ?_) (fun _ => rfl) (fun _ => rfl)
      rcases hyears with rfl | hyears <;> omega
    · have hlt_year := hlt year
      have hlt_year' := hlt year'
      rw [if_neg (Int.not_le.2 hlt_year), if_neg (Int.not_le.2 hlt_year')]
      refine ite_congr (propext ?_) (fun _ => rfl) (fun _ => rfl)
      rcases hyears with rfl | hyears <;> omega

end Recurring

/-! ### Months of turns -/

/-- The month of a day that is counted by weeks, of which a month has five. -/
def YearDay.month? : YearDay → Option Nat
  | inWeek month week _ => if 1 ≤ week ∧ week ≤ 5 then some month else none
  | _ => none

theorem YearDay.dayNumber_bounds {day : YearDay} {month : Nat} (h : day.month? = some month)
    (year : Int) :
    Date.monthFirst year month ≤ day.dayNumber year ∧
      day.dayNumber year < Date.monthFirst year month + 31 := by
  cases day with
  | inWeek month' week weekday =>
    rw [month?] at h
    split at h
    case isFalse => cases h
    case isTrue hweek =>
      cases h
      have hshort := monthLength_ge year month
      have hlong := monthLength_le year month
      simp only [dayNumber]
      rw [← Date.monthFirst]
      split <;> omega
  | withoutLeapDay day => cases h
  | counted day => cases h

/-- A time of the year lies within nine days of its month if it is at most seven days off. -/
theorem YearTime.second_bounds {t : YearTime} {month : Nat} {offset : Int}
    (hmonth : t.day.month? = some month) (htime : -604800 ≤ t.time ∧ t.time ≤ 604800)
    (hoffset : isOffset offset = true) (year : Int) :
    (Date.monthFirst year month - 9) * 86400 ≤ t.second year offset ∧
      t.second year offset < (Date.monthFirst year month + 40) * 86400 := by
  obtain ⟨lower, upper⟩ := YearDay.dayNumber_bounds hmonth year
  simp only [isOffset, Bool.and_eq_true, decide_eq_true_eq] at hoffset
  unfold second
  omega

/-- A turn lies well inside its year, however the offset shifts it. -/
theorem YearTime.second_within {t : YearTime} {month : Nat} {offset : Int}
    (hmonth : t.day.month? = some month) (htime : -604800 ≤ t.time ∧ t.time ≤ 604800)
    (hoffset : isOffset offset = true) (hinside : 2 ≤ month ∧ month ≤ 11) (year : Int) :
    yearSecond year ≤ t.second year offset ∧ t.second year offset < yearSecond (year + 1) := by
  have hbounds := second_bounds hmonth htime hoffset year
  have hfirst := @Date.monthFirst_le year 1 month (by omega) (by omega) (by omega)
  have hlast := @Date.monthFirst_le year month 12 (by omega) (by omega) (by omega)
  have hnext := Date.yearStart_succ year
  unfold yearSecond
  rw [hnext, Date.yearStart]
  omega

/-- Whether the turns lie in months from February to November that do not follow on one another. -/
def Daylight.isSeasonal (d : Daylight) : Bool :=
  match d.starts.day.month?, d.ends.day.month? with
  | some month, some month' =>
      decide (2 ≤ month ∧ month ≤ 11) && decide (2 ≤ month' ∧ month' ≤ 11) &&
        decide (month + 2 ≤ month' ∨ month' + 2 ≤ month) &&
        decide (-604800 ≤ d.starts.time ∧ d.starts.time ≤ 604800) &&
        decide (-604800 ≤ d.ends.time ∧ d.ends.time ≤ 604800)
  | _, _ => false

namespace Recurring

theorem regular_of_none {r : Recurring} (hd : r.daylight = none) : r.Regular := by
  have hnone : ∀ year, r.turns year = [] := fun year => by rw [turns, hd]
  refine ⟨fun year t ht => ?_, fun d hd' => ?_⟩
  · rw [hnone] at ht
    exact absurd ht List.not_mem_nil
  · rw [hd] at hd'
    cases hd'

/-- Turns in months that are well apart keep their order in every year. -/
theorem regular_of_isSeasonal {r : Recurring} {d : Daylight} (hd : r.daylight = some d)
    (hoffsets : r.offsets.all isOffset = true) (h : d.isSeasonal = true) : r.Regular := by
  simp only [offsets, hd, Option.map_some, Option.toList_some, List.all_cons, List.all_nil,
    Bool.and_true, Bool.and_eq_true] at hoffsets
  obtain ⟨hstandard, hsummer⟩ := hoffsets
  unfold Daylight.isSeasonal at h
  split at h
  case h_2 => cases h
  case h_1 month month' hmonth hmonth' =>
    simp only [Bool.and_eq_true, decide_eq_true_eq] at h
    obtain ⟨⟨⟨⟨hinside, hinside'⟩, hapart⟩, htime⟩, htime'⟩ := h
    refine ⟨fun year t ht => ?_, fun d' hd' => ?_⟩
    · simp only [turns, hd, List.mem_cons, List.not_mem_nil, or_false] at ht
      rcases ht with rfl | rfl
      · exact YearTime.second_within hmonth htime hstandard hinside year
      · exact YearTime.second_within hmonth' htime' hsummer hinside' year
    · rw [hd] at hd'
      cases hd'
      have hstarts := YearTime.second_bounds hmonth htime hstandard
      have hends := YearTime.second_bounds hmonth' htime' hsummer
      -- the months are 56 days apart, and the turns at most 49 days after the one or before the other
      rcases hapart with hapart | hapart
      · refine Or.inl fun year => ?_
        have hfirst := @Date.monthFirst_le year month month' (by omega) (by omega) (by omega)
        have hstart := hstarts year
        have hend := hends year
        omega
      · refine Or.inr fun year => ?_
        have hfirst := @Date.monthFirst_le year month' month (by omega) (by omega) (by omega)
        have hstart := hstarts year
        have hend := hends year
        omega

end Recurring

end WallClock.Zone

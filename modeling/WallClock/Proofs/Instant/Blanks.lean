import WallClock.Proofs.Instant.Parse
import WallClock.Proofs.Instant.Timestamp
import WallClock.Proofs.Text.Solid

/-!
Blanks and timestamps. But for the mark between date and time, no part of a timestamp has a blank in it, so
that a text with blanks at its ends is none. A string of JSON and a text typed by people are therefore read
alike, except that people may put blanks around a timestamp and may not go back beyond the year 1.
-/

namespace WallClock.Instant

open Text Civil

/-! ### Digits -/

theorem leaves_readDigitsFrom {count acc n : Nat} {s rest : List Char}
    (h : readDigitsFrom count acc s = some (n, rest)) : Leaves s rest := by
  induction count generalizing acc s with
  | zero =>
    cases h
    exact .refl rest
  | succ count ih =>
    cases s with
    | nil => cases h
    | cons c s =>
      rw [readDigitsFrom] at h
      split at h
      · rename_i hdigit
        exact (ih h).cons (isBlank_of_isDigit hdigit)
      · cases h

theorem leaves_readDigits {count n : Nat} {s rest : List Char}
    (h : readDigits count s = some (n, rest)) : Leaves s rest :=
  leaves_readDigitsFrom h

theorem leaves_readAtMost {limit count n : Nat} {s rest : List Char}
    (h : readAtMost limit count s = some (n, rest)) : Leaves s rest := by
  rw [readAtMost] at h
  split at h
  · rename_i hdigits
    split at h
    · cases h
      exact leaves_readDigits hdigits
    · cases h
  · cases h

theorem leaves_spanDigits (limit : Nat) (s : List Char) : Leaves s (spanDigits limit s).2 := by
  induction limit generalizing s with
  | zero => exact .refl s
  | succ limit ih =>
    cases s with
    | nil => exact .refl []
    | cons c s =>
      rw [spanDigits]
      split
      · rename_i hdigit
        exact (ih s).cons (isBlank_of_isDigit hdigit)
      · exact .refl (c :: s)

/-! ### Dates -/

theorem leaves_readYear {s rest : List Char} {year : Int} (h : readYear s = some (year, rest)) :
    Leaves s rest := by
  unfold readYear at h
  split at h
  · obtain ⟨⟨n, t⟩, hread, heq⟩ := Option.map_eq_some_iff.1 h
    cases heq
    exact (leaves_readAtMost hread).cons rfl
  · split at h
    · rename_i hread
      split at h
      · cases h
      · cases h
        exact (leaves_readAtMost hread).cons rfl
    · cases h
  · obtain ⟨⟨n, t⟩, hread, heq⟩ := Option.map_eq_some_iff.1 h
    cases heq
    exact leaves_readDigits hread

theorem leaves_readDatePart {separated : Bool} {s rest : List Char} {n : Nat}
    (h : readDatePart separated s = some (n, rest)) : Leaves s rest := by
  cases s with
  | nil => cases h
  | cons c s =>
    rw [readDatePart] at h
    split at h
    · split at h
      · rename_i hmark
        rw [hmark]
        exact (leaves_readDigits h).cons rfl
      · cases h
    · exact leaves_readDigits h

theorem leaves_readDate {s rest : List Char} {date : Date} (h : readDate s = some (date, rest)) :
    Leaves s rest := by
  simp only [readDate, Option.bind_eq_bind, Option.bind_eq_some_iff, Prod.exists] at h
  obtain ⟨year, s₁, hyear, month, s₂, hmonth, day, s₃, hday, h⟩ := h
  split at h
  · cases h
    exact (leaves_readYear hyear).trans ((leaves_readDatePart hmonth).trans (leaves_readDatePart hday))
  · cases h

/-! ### Times of day and offsets -/

theorem leaves_readMinutes {lastSecond : Nat} {s rest : List Char} {m : Minutes}
    (h : readMinutes lastSecond s = some (m, rest)) : Leaves s rest := by
  unfold readMinutes at h
  split at h
  · split at h
    · rename_i hminute
      obtain ⟨⟨n, t⟩, hsecond, heq⟩ := Option.map_eq_some_iff.1 h
      cases heq
      exact ((leaves_readAtMost hminute).trans ((leaves_readAtMost hsecond).cons rfl)).cons rfl
    · rename_i hminute
      cases h
      exact (leaves_readAtMost hminute).cons rfl
    · cases h
  · split at h
    · cases h
      exact .refl _
    · rename_i hminute
      split at h
      · cases h
      · split at h
        · cases h
          exact leaves_readDigits hminute
        · rename_i hsecond
          split at h
          · cases h
          · cases h
            exact (leaves_readDigits hminute).trans (leaves_readDigits hsecond)

theorem leaves_readFraction {s rest : List Char} {nanos : Nat}
    (h : readFraction s = some (nanos, rest)) : Leaves s rest := by
  cases s with
  | nil =>
    cases h
    exact .refl []
  | cons c s =>
    rw [readFraction] at h
    split at h
    · rename_i hmark
      have hblank : isBlank c = false := by rcases hmark with rfl | rfl <;> rfl
      have hspan := leaves_spanDigits 9 s
      split at h
      · cases h
      · rename_i heq
        rw [heq] at hspan
        cases h
        exact hspan.cons hblank
    · cases h
      exact .refl _

theorem leaves_readFractionAfter {second : Option Nat} {s rest : List Char} {nanos : Nat}
    (h : readFractionAfter second s = some (nanos, rest)) : Leaves s rest := by
  rw [readFractionAfter] at h
  split at h
  · exact leaves_readFraction h
  · cases h
    exact .refl s

theorem leaves_readTime {s rest : List Char} {time : Int} (h : readTime s = some (time, rest)) :
    Leaves s rest := by
  simp only [readTime, Option.bind_eq_bind, Option.bind_eq_some_iff, Prod.exists] at h
  obtain ⟨hour, s₁, hhour, minutes, s₂, hminutes, nanos, s₃, hfraction, h⟩ := h
  cases h
  exact (leaves_readAtMost hhour).trans
    ((leaves_readMinutes hminutes).trans (leaves_readFractionAfter hfraction))

theorem leaves_readOffsetSize {s rest : List Char} {size : Nat}
    (h : readOffsetSize s = some (size, rest)) : Leaves s rest := by
  simp only [readOffsetSize, Option.bind_eq_bind, Option.bind_eq_some_iff, Prod.exists] at h
  obtain ⟨hour, s₁, hhour, minutes, s₂, hminutes, nanos, s₃, hfraction, h⟩ := h
  obtain ⟨-, heq⟩ := Option.ite_none_right_eq_some.1 h
  cases heq
  exact (leaves_readAtMost hhour).trans
    ((leaves_readMinutes hminutes).trans (leaves_readFractionAfter hfraction))

/-- A designator has no blank in it. -/
theorem leaves_readOffset {s rest : List Char} {offset : Int}
    (h : readOffset s = some (offset, rest)) : Leaves s rest := by
  unfold readOffset at h
  split at h
  · cases h
    exact (Leaves.refl rest).cons rfl
  · cases h
    exact (Leaves.refl rest).cons rfl
  · obtain ⟨⟨size, t⟩, hsize, heq⟩ := Option.map_eq_some_iff.1 h
    cases heq
    exact (leaves_readOffsetSize hsize).cons rfl
  · obtain ⟨⟨size, t⟩, hsize, heq⟩ := Option.map_eq_some_iff.1 h
    cases heq
    exact (leaves_readOffsetSize hsize).cons rfl
  · cases h

/-! ### Annotations -/

theorem isBlank_of_between {low high c : Char} (hlow : low ≤ c) (hhigh : c ≤ high)
    (h : 33 ≤ low.toNat ∧ high.toNat ≤ 126) : isBlank c = false := by
  have hlow : low.toNat ≤ c.toNat := hlow
  have hhigh : c.toNat ≤ high.toNat := hhigh
  simp [isBlank]
  omega

theorem isBlank_of_isNameStart {c : Char} (h : isNameStart c = true) : isBlank c = false := by
  simp only [isNameStart, isLowerLetter, isUpperLetter, Bool.or_eq_true, Bool.and_eq_true,
    decide_eq_true_eq, beq_iff_eq] at h
  rcases h with ((⟨hlow, hhigh⟩ | ⟨hlow, hhigh⟩) | rfl) | rfl
  · exact isBlank_of_between hlow hhigh (by decide)
  · exact isBlank_of_between hlow hhigh (by decide)
  · rfl
  · rfl

theorem isBlank_of_isNameChar {c : Char} (h : isNameChar c = true) : isBlank c = false := by
  simp only [isNameChar, Bool.or_eq_true, beq_iff_eq] at h
  rcases h with ((hstart | hdigit) | rfl) | rfl
  · exact isBlank_of_isNameStart hstart
  · exact isBlank_of_isDigit hdigit
  · rfl
  · rfl

-- Every class of characters that annotations are made of lies within that of the characters of names.
theorem isBlank_of_isKeyStart {c : Char} (h : isKeyStart c = true) : isBlank c = false := by
  apply isBlank_of_isNameStart
  simp only [isKeyStart, Bool.or_eq_true] at h
  simp only [isNameStart, Bool.or_eq_true]
  tauto

theorem isBlank_of_isKeyChar {c : Char} (h : isKeyChar c = true) : isBlank c = false := by
  apply isBlank_of_isNameChar
  simp only [isKeyChar, isKeyStart, Bool.or_eq_true] at h
  simp only [isNameChar, isNameStart, Bool.or_eq_true]
  tauto

theorem isBlank_of_isValueChar {c : Char} (h : isValueChar c = true) : isBlank c = false := by
  apply isBlank_of_isNameChar
  simp only [isValueChar, Bool.or_eq_true] at h
  simp only [isNameChar, isNameStart, Bool.or_eq_true]
  tauto

theorem leaves_skipNameToClose {inPart : Bool} {s rest : List Char}
    (h : skipNameToClose inPart s = some rest) : Leaves s rest := by
  fun_induction skipNameToClose inPart s with
  | case1 => cases h
  | case2 c s hstart ih => exact (ih h).cons (isBlank_of_isNameStart hstart)
  | case3 => cases h
  | case4 c s hchar ih => exact (ih h).cons (isBlank_of_isNameChar hchar)
  | case5 s _ ih => exact (ih h).cons rfl
  | case6 s =>
    cases h
    exact (Leaves.refl _).cons rfl
  | case7 => cases h

theorem leaves_skipOffsetToClose {s rest : List Char} (h : skipOffsetToClose s = some rest) :
    Leaves s rest := by
  unfold skipOffsetToClose at h
  split at h
  · rename_i hhour
    split at h
    · rename_i hminutes
      cases h
      exact (leaves_readAtMost hhour).trans
        ((leaves_readMinutes hminutes).trans ((Leaves.refl _).cons rfl))
    · cases h
  · cases h

theorem leaves_skipZone {s rest : List Char} (h : skipZone s = some rest) : Leaves s rest := by
  have hmark : Leaves s (if s.head? = some '!' then s.tail else s) := by
    split
    · rename_i hhead
      obtain ⟨t, rfl⟩ := List.head?_eq_some_iff.1 hhead
      exact (Leaves.refl t).cons rfl
    · exact .refl s
  refine hmark.trans ?_
  unfold skipZone at h
  split at h
  · rename_i hsign
    rw [hsign]
    exact (leaves_skipOffsetToClose h).cons rfl
  · rename_i hsign
    rw [hsign]
    exact (leaves_skipOffsetToClose h).cons rfl
  · exact leaves_skipNameToClose h

theorem solid_of_onlyKeyed {place : KeyedPlace} {s : List Char} (h : onlyKeyed place s = true) :
    Solid s := by
  fun_induction onlyKeyed place s with
  | case1 => exact solid_nil
  | case2 => cases h
  | case3 c s ih =>
    rw [Bool.and_eq_true, beq_iff_eq] at h
    exact solid_cons.2 ⟨by rw [h.1]; rfl, ih h.2⟩
  | case4 c s ih =>
    rw [Bool.and_eq_true] at h
    exact solid_cons.2 ⟨isBlank_of_isKeyStart h.1, ih h.2⟩
  | case5 c s hkey ih => exact solid_cons.2 ⟨isBlank_of_isKeyChar hkey, ih h⟩
  | case6 c s _ ih =>
    rw [Bool.and_eq_true, beq_iff_eq] at h
    exact solid_cons.2 ⟨by rw [h.1]; rfl, ih h.2⟩
  | case7 c s ih =>
    rw [Bool.and_eq_true] at h
    exact solid_cons.2 ⟨isBlank_of_isValueChar h.1, ih h.2⟩
  | case8 c s hvalue ih => exact solid_cons.2 ⟨isBlank_of_isValueChar hvalue, ih h⟩
  | case9 s _ ih => exact solid_cons.2 ⟨rfl, ih h⟩
  | case10 c s _ _ ih =>
    rw [Bool.and_eq_true, beq_iff_eq] at h
    exact solid_cons.2 ⟨by rw [h.1]; rfl, ih h.2⟩

/-- Annotations have no blanks in them. -/
theorem solid_of_onlyAnnotations {s : List Char} (h : onlyAnnotations s = true) : Solid s := by
  unfold onlyAnnotations at h
  split at h
  · split at h
    · rename_i hzone
      exact ((leaves_skipZone hzone).cons rfl).solid (solid_of_onlyKeyed h)
    · exact solid_of_onlyKeyed h
  · rw [List.isEmpty_iff.1 h]
    exact solid_nil

/-! ### The whole timestamp -/

theorem exists_of_skipSeparator {s rest : List Char} (h : skipSeparator s = some rest) :
    ∃ mark, s = mark :: rest ∧ (mark = 'T' ∨ mark = 't' ∨ mark = ' ') := by
  cases s with
  | nil => cases h
  | cons c s =>
    obtain ⟨hmark, heq⟩ := Option.ite_none_right_eq_some.1 h
    cases heq
    exact ⟨c, rfl, hmark⟩

/-- No date begins where one has ended. -/
theorem readDate_of_mark {mark : Char} (h : mark = 'T' ∨ mark = 't' ∨ mark = ' ') (s : List Char) :
    readDate (mark :: s) = none := by
  rcases h with rfl | rfl | rfl <;> rfl

/-- A timestamp is a date without blanks, a mark, and the time and what follows it, without blanks too. -/
theorem exists_of_read? {s : List Char} {i : Instant} (h : read? s = some i) :
    ∃ date mark rest, s = date ++ mark :: rest ∧ Solid date ∧ Solid rest ∧ date ≠ [] ∧ rest ≠ [] := by
  simp only [read?, Option.bind_eq_bind, Option.bind_eq_some_iff, Prod.exists] at h
  obtain ⟨d, s₁, hdate, rest, hskip, time, s₂, htime, offset, s₃, hoffset, h⟩ := h
  obtain ⟨hannotations, -⟩ := Option.ite_none_right_eq_some.1 h
  obtain ⟨mark, rfl, hmark⟩ := exists_of_skipSeparator hskip
  obtain ⟨date, hsolid, rfl⟩ := leaves_readDate hdate
  have hrest : Solid rest :=
    ((leaves_readTime htime).trans (leaves_readOffset hoffset)).solid
      (solid_of_onlyAnnotations hannotations)
  refine ⟨date, mark, rest, rfl, hsolid, hrest, ?_, ?_⟩
  · rintro rfl
    rw [List.nil_append, readDate_of_mark hmark] at hdate
    cases hdate
  · rintro rfl
    cases htime

/-- A text with blanks at its ends is no timestamp. -/
theorem trim_of_read? {s : List Char} {i : Instant} (h : read? s = some i) : trim s = s := by
  obtain ⟨date, mark, rest, rfl, hdate, hrest, hdate_ne, hrest_ne⟩ := exists_of_read? h
  apply trim_eq_self
  · intro c hc
    rw [List.head?_append_of_ne_nil _ hdate_ne] at hc
    exact hdate c (List.mem_of_mem_head? hc)
  · intro c hc
    rw [List.getLast?_append_of_ne_nil _ (List.cons_ne_nil mark rest),
      List.getLast?_cons_of_ne_nil hrest_ne] at hc
    exact hrest c (List.mem_of_mem_getLast? hc)

/-! ### Two ways in -/

/-- The instant that is read from the text as a string of JSON. -/
def fromJson? (s : String) : Option Instant :=
  ofJsonText? (Json.Value.ofString s).compact

theorem fromJson?_eq (s : String) : fromJson? s = read? s.toList := by
  rw [fromJson?, ofJsonText?, Json.Value.parse?_compact_ofString, Option.bind_some]
  rfl

/-- A text that is read is refused for its second alone. -/
theorem ofText_of_read? {s : String} {i : Instant} (h : read? (trim s.toList) = some i) :
    ofText s =
      if yearOne ≤ i.wholeSeconds then .ok i
      else .error (.invalidInstant s Refusal.beforeYearOne.reason) := by
  rw [ofText, parse, h]
  by_cases hearly : i.wholeSeconds < yearOne
  · simp only [if_pos hearly, if_neg (Int.not_le.2 hearly)]
  · simp only [if_neg hearly, if_pos (Int.not_lt.1 hearly)]

theorem ofText_of_unread {s : String} (h : read? (trim s.toList) = none) :
    ofText s = .error (.invalidInstant s Refusal.unreadable.reason) := by
  rw [ofText, parse, h]

theorem toList_trimmed (s : String) : (trimmed s).toList = trim s.toList :=
  String.toList_ofList

/-- Trimming twice is trimming once. -/
theorem parse_trimmed (s : String) : parse (trimmed s) = parse s := by
  rw [parse, toList_trimmed, trim_trim, parse]

/-- A text that has no blanks at its ends is taken as its string of JSON is read, but for the limit at the year
1; one that has any is not read from JSON at all, and typed it is taken as the text between them. -/
theorem typed_agrees_with_json (s : String) :
    (trimmed s = s →
      (∀ i, fromJson? s = some i → ofText s =
        if -62135596800 ≤ i.nanos.tdiv 1000000000 then .ok i
        else .error (.invalidInstant s "instants before year 0001 are not supported")) ∧
      (fromJson? s = none → ofText s = .error (.invalidInstant s Refusal.unreadable.reason))) ∧
    (trimmed s ≠ s →
      fromJson? s = none ∧ parse s = parse (trimmed s) ∧
      (∀ i, ofText s = .ok i ↔ ofText (trimmed s) = .ok i) ∧
      ∀ reason, ofText s = .error (.invalidInstant s reason) ↔
        ofText (trimmed s) = .error (.invalidInstant (trimmed s) reason)) := by
  rw [fromJson?_eq]
  refine ⟨fun htrim => ?_, fun hblanks => ?_⟩
  · have htrim : trim s.toList = s.toList := by rw [← toList_trimmed, htrim]
    rw [← htrim]
    exact ⟨fun i hi => ofText_of_read? hi, ofText_of_unread⟩
  · have hunread : read? s.toList = none := by
      rw [Option.eq_none_iff_forall_ne_some]
      intro i hi
      exact hblanks (String.toList_inj.1 ((toList_trimmed s).trans (trim_of_read? hi)))
    refine ⟨hunread, (parse_trimmed s).symm, fun i => ?_, fun reason => ?_⟩
    · rw [ofText, ofText, parse_trimmed]
      cases parse s <;> simp
    · rw [ofText, ofText, parse_trimmed]
      cases parse s <;> simp

end WallClock.Instant

import WallClock.Json.Quoted

/-!
Strings of JSON and what may be read of them. What stands between the quotes is a row of pieces:
characters, plain or escaped by a letter, and numbers in hexadecimal digits, of which two may be the
halves of one character. The reader takes every spelling of the pieces up to the closing quote and nothing
else, and what is written between quotes is one of these spellings.
-/

namespace WallClock.Json

open Text

/-! ### Pieces -/

/-- A piece of a string: a character, or the number of an escape. -/
inductive Piece where
  | char (c : Char)
  | unit (n : Nat)

/-- The characters that the pieces give. The first half of a surrogate pair gives one together with the
second half right after it; there are no characters if a half stands alone. -/
def contentOf : List Piece → Option (List Char)
  | [] => some []
  | .char c :: ps => (contentOf ps).map (c :: ·)
  | .unit n :: ps =>
      if isHighHalf n then
        match ps with
        | .unit m :: ps => if isLowHalf m then (contentOf ps).map (ofHalves n m :: ·) else none
        | _ => none
      else if isLowHalf n then none
      else (contentOf ps).map (Char.ofNat n :: ·)

/-- The text spells the pieces out. -/
inductive Piece.Spelt : List Piece → List Char → Prop
  | nil : Piece.Spelt [] []
  | plain {c : Char} {ps : List Piece} {s : List Char} :
      c ≠ '"' → c ≠ '\\' → 32 ≤ c.toNat → Piece.Spelt ps s → Piece.Spelt (.char c :: ps) (c :: s)
  | letter {c d : Char} {ps : List Piece} {s : List Char} :
      unescaped? c = some d → Piece.Spelt ps s → Piece.Spelt (.char d :: ps) ('\\' :: c :: s)
  | digits {a b c d : Char} {n : Nat} {ps : List Piece} {s : List Char} :
      hexUnit? a b c d = some n → Piece.Spelt ps s →
        Piece.Spelt (.unit n :: ps) ('\\' :: 'u' :: a :: b :: c :: d :: s)

theorem isLowHalf_of_isHighHalf {n : Nat} (h : isHighHalf n = true) : isLowHalf n = false := by
  rw [isHighHalf, Bool.and_eq_true, decide_eq_true_eq, decide_eq_true_eq] at h
  rw [isLowHalf, Bool.and_eq_false_iff, decide_eq_false_iff_not, decide_eq_false_iff_not]
  omega

theorem contentOf_unit {n : Nat} (hhigh : isHighHalf n = false) (hlow : isLowHalf n = false)
    (ps : List Piece) : contentOf (.unit n :: ps) = (contentOf ps).map (Char.ofNat n :: ·) := by
  rw [contentOf.eq_def]
  simp [hhigh, hlow]

/-- A second half that stands alone is no character. -/
theorem contentOf_low {n : Nat} (h : isLowHalf n = true) (ps : List Piece) :
    contentOf (.unit n :: ps) = none := by
  have hhigh : isHighHalf n = false := by
    cases hn : isHighHalf n with
    | false => rfl
    | true => rw [isLowHalf_of_isHighHalf hn] at h; cases h
  rw [contentOf.eq_def]
  simp [hhigh, h]

/-! ### Reading -/

/-- The first half of a surrogate pair that has just been read, as a piece. -/
def pending : Option Nat → List Piece
  | none => []
  | some high => [.unit high]

section
variable {high : Option Nat}

/-- Two halves are one character, if the first one is waiting. -/
theorem contentOf_pending_low (hhigh : ∀ h ∈ high, isHighHalf h = true) {n : Nat}
    (hlow : isLowHalf n = true) (ps : List Piece) :
    contentOf (pending high ++ .unit n :: ps) =
      high.bind fun h => (contentOf ps).map (ofHalves h n :: ·) := by
  cases high with
  | none => exact contentOf_low hlow ps
  | some h => simp [pending, contentOf, hhigh h rfl, hlow]

/-- A first half stands alone if no second one follows. -/
theorem contentOf_pending (hhigh : ∀ h ∈ high, isHighHalf h = true) {ps : List Piece}
    (hps : ∀ n qs, ps = .unit n :: qs → isLowHalf n = false) :
    contentOf (pending high ++ ps) = if high.isSome then none else contentOf ps := by
  cases high with
  | none => rfl
  | some h =>
    rcases ps with _ | ⟨_ | n, ps⟩
    · simp [pending, contentOf, hhigh h rfl]
    · simp [pending, contentOf, hhigh h rfl]
    · simp [pending, contentOf, hhigh h rfl, hps n ps rfl]

theorem contentOf_pending_nil (hhigh : ∀ h ∈ high, isHighHalf h = true) :
    contentOf (pending high ++ []) = if high.isSome then none else some [] :=
  contentOf_pending hhigh nofun

theorem contentOf_pending_char (hhigh : ∀ h ∈ high, isHighHalf h = true) (c : Char) (ps : List Piece) :
    contentOf (pending high ++ .char c :: ps) =
      if high.isSome then none else (contentOf ps).map (c :: ·) :=
  contentOf_pending hhigh nofun

theorem Unquoted.after_some (content : Option (List Char)) (rest : List Char) :
    after high (some (content, rest)) = some (if high.isSome then none else content, rest) := by
  cases high <;> rfl

theorem readQuotedFrom_plain {c : Char} (hquote : c ≠ '"') (hslash : c ≠ '\\') (hcontrol : 32 ≤ c.toNat)
    (s : List Char) :
    readQuotedFrom high (c :: s) = Unquoted.after high (Unquoted.push c (readQuotedFrom none s)) := by
  rw [readQuotedFrom.eq_def]
  split
  · contradiction
  · rename_i heq
    exact absurd (List.cons.inj heq).1 hquote
  · rename_i heq
    exact absurd (List.cons.inj heq).1 hslash
  · rename_i heq
    exact absurd (List.cons.inj heq).1 hslash
  · rename_i heq
    obtain ⟨rfl, rfl⟩ := List.cons.inj heq
    exact if_neg (by simp only [hslash, or_false]; omega)

theorem readQuotedFrom_letter {c d : Char} (h : unescaped? c = some d) (s : List Char) :
    readQuotedFrom high ('\\' :: c :: s) =
      Unquoted.after high (Unquoted.push d (readQuotedFrom none s)) := by
  have hu : c ≠ 'u' := by
    rintro rfl
    cases h
  rw [readQuotedFrom, h]
  intro _ _ _ _ _ heq
  exact absurd heq hu

/-- Whatever spells the pieces out is read as their content, up to the closing quote. -/
theorem readQuotedFrom_append {ps : List Piece} {body : List Char} (h : Piece.Spelt ps body)
    (hhigh : ∀ h ∈ high, isHighHalf h = true) (rest : List Char) :
    readQuotedFrom high (body ++ '"' :: rest) = some (contentOf (pending high ++ ps), rest) := by
  have hnone : ∀ h ∈ (none : Option Nat), isHighHalf h = true := nofun
  induction h generalizing high with
  | nil =>
    rw [contentOf_pending_nil hhigh, List.nil_append, readQuotedFrom, Unquoted.after_some]
  | plain hquote hslash hcontrol _ ih =>
    rw [contentOf_pending_char hhigh, List.cons_append,
      readQuotedFrom_plain hquote hslash hcontrol, ih hnone]
    exact Unquoted.after_some _ _
  | letter hletter _ ih =>
    rw [contentOf_pending_char hhigh, List.cons_append, List.cons_append,
      readQuotedFrom_letter hletter, ih hnone]
    exact Unquoted.after_some _ _
  | @digits _ _ _ _ n ps _ hdigits _ ih =>
    simp only [List.cons_append, readQuotedFrom, hdigits]
    split
    case isTrue hn =>
      have hlow : ∀ m qs, Piece.unit n :: ps = .unit m :: qs → isLowHalf m = false := by
        rintro m qs ⟨⟩
        exact isLowHalf_of_isHighHalf hn
      rw [contentOf_pending hhigh hlow, ih (by rintro h ⟨⟩; exact hn)]
      exact Unquoted.after_some _ _
    case isFalse hn =>
      split
      case isTrue hlow =>
        rw [contentOf_pending_low hhigh hlow, ih hnone]
        cases high <;> rfl
      case isFalse hlow =>
        rw [Bool.not_eq_true] at hn hlow
        have hhead : ∀ m qs, Piece.unit n :: ps = .unit m :: qs → isLowHalf m = false := by
          rintro m qs ⟨⟩
          exact hlow
        rw [contentOf_pending hhigh hhead, ih hnone, contentOf_unit hn hlow]
        exact Unquoted.after_some _ _

/-- What is read is a row of pieces up to a closing quote. -/
theorem exists_spelt_of_readQuotedFrom {s rest : List Char} {content : Option (List Char)}
    (h : readQuotedFrom high s = some (content, rest)) :
    ∃ ps body, Piece.Spelt ps body ∧ s = body ++ '"' :: rest := by
  fun_induction readQuotedFrom high s generalizing content rest with
  | case1 => cases h
  | case2 high s =>
    obtain ⟨_, hr, rfl⟩ := Unquoted.of_after h
    cases hr
    exact ⟨[], [], .nil, rfl⟩
  | case3 => cases h
  | case4 high a b c d s unit hunit hhigh ih =>
    obtain ⟨r, hr, rfl⟩ := Unquoted.of_after h
    obtain ⟨ps, body, hspelt, rfl⟩ := ih hr
    exact ⟨_, _, .digits hunit hspelt, rfl⟩
  | case5 a b c d s unit hunit _ _ _ ih =>
    obtain ⟨r, hr, rfl⟩ := Unquoted.of_push h
    obtain ⟨ps, body, hspelt, rfl⟩ := ih hr
    exact ⟨_, _, .digits hunit hspelt, rfl⟩
  | case6 a b c d s unit hunit _ _ ih =>
    obtain ⟨r, hr, rfl⟩ := Unquoted.of_lose h
    obtain ⟨ps, body, hspelt, rfl⟩ := ih hr
    exact ⟨_, _, .digits hunit hspelt, rfl⟩
  | case7 high a b c d s unit hunit _ _ ih =>
    obtain ⟨r, hr, rfl⟩ := Unquoted.of_after_push h
    obtain ⟨ps, body, hspelt, rfl⟩ := ih hr
    exact ⟨_, _, .digits hunit hspelt, rfl⟩
  | case8 => cases h
  | case9 high c s _ d hletter ih =>
    obtain ⟨r, hr, rfl⟩ := Unquoted.of_after_push h
    obtain ⟨ps, body, hspelt, rfl⟩ := ih hr
    exact ⟨_, _, .letter hletter hspelt, rfl⟩
  | case10 => cases h
  | case11 high c s hquote _ _ hplain ih =>
    obtain ⟨r, hr, rfl⟩ := Unquoted.of_after_push h
    obtain ⟨ps, body, hspelt, rfl⟩ := ih hr
    rw [not_or] at hplain
    exact ⟨_, _, .plain hquote hplain.2 (Nat.not_lt.1 hplain.1) hspelt, rfl⟩

end

/-- A string is read just if it is spelt out up to the closing quote, and it gives what its pieces do. -/
theorem readQuoted_eq_some_iff {s rest : List Char} {content : Option (List Char)} :
    readQuoted s = some (content, rest) ↔
      ∃ ps body, Piece.Spelt ps body ∧ contentOf ps = content ∧ s = body ++ '"' :: rest := by
  have hnone : ∀ h ∈ (none : Option Nat), isHighHalf h = true := nofun
  constructor
  · intro h
    obtain ⟨ps, body, hspelt, rfl⟩ := exists_spelt_of_readQuotedFrom h
    rw [readQuoted, readQuotedFrom_append hspelt hnone] at h
    exact ⟨ps, body, hspelt, congrArg Prod.fst (Option.some.inj h), rfl⟩
  · rintro ⟨ps, body, hspelt, rfl, rfl⟩
    exact readQuotedFrom_append hspelt hnone rest

/-! ### What was written -/

theorem hexValue?_hexChar {d : Nat} (h : d < 16) : hexValue? (hexChar d) = some d := by
  have all : ∀ e ∈ List.range 16, hexValue? (hexChar e) = some e := by decide
  exact all d (List.mem_range.2 h)

/-- The escape of a control character gives its number. -/
theorem hexUnit?_control {n : Nat} (h : n < 32) :
    hexUnit? '0' '0' (hexChar (n / 16)) (hexChar (n % 16)) = some n := by
  have hzero : hexValue? '0' = some 0 := by decide
  rw [hexUnit?, hzero, hexValue?_hexChar (by omega), hexValue?_hexChar (by omega)]
  show some (((0 * 16 + 0) * 16 + n / 16) * 16 + n % 16) = some n
  congr 1
  omega

theorem isHighHalf_eq_false {n : Nat} (h : n < 32) : isHighHalf n = false := by
  simp [isHighHalf]
  omega

theorem isLowHalf_eq_false {n : Nat} (h : n < 32) : isLowHalf n = false := by
  simp [isLowHalf]
  omega

/-- The three ways to write a character. -/
theorem escaped_cases (c : Char) :
    (∃ d, escaped c = ['\\', d] ∧ unescaped? d = some c) ∨
      (c.toNat < 32 ∧
        escaped c = ['\\', 'u', '0', '0', hexChar (c.toNat / 16), hexChar (c.toNat % 16)]) ∨
      (c ≠ '"' ∧ c ≠ '\\' ∧ 32 ≤ c.toNat ∧ escaped c = [c]) := by
  by_cases hletter : c ∈ ['"', '\\', '\x08', '\t', '\n', '\x0c', '\r']
  · left
    simp only [List.mem_cons, List.not_mem_nil, or_false] at hletter
    rcases hletter with rfl | rfl | rfl | rfl | rfl | rfl | rfl <;> exact ⟨_, rfl, rfl⟩
  · right
    simp only [List.mem_cons, List.not_mem_nil, or_false, not_or] at hletter
    by_cases hcontrol : c.toNat < 32
    · exact .inl ⟨hcontrol, by simp [escaped, hletter, hcontrol]⟩
    · exact .inr ⟨hletter.1, hletter.2.1, Nat.not_lt.1 hcontrol, by simp [escaped, hletter, hcontrol]⟩

/-- A character is written as one piece, which gives it. -/
theorem exists_piece_escaped (c : Char) :
    ∃ p, (∀ ps, contentOf (p :: ps) = (contentOf ps).map (c :: ·)) ∧
      ∀ ps s, Piece.Spelt ps s → Piece.Spelt (p :: ps) (escaped c ++ s) := by
  rcases escaped_cases c with ⟨d, heq, hd⟩ | ⟨hcontrol, heq⟩ | ⟨hquote, hslash, hcontrol, heq⟩
  · refine ⟨.char c, fun _ => rfl, fun ps s h => ?_⟩
    rw [heq]
    exact .letter hd h
  · refine ⟨.unit c.toNat, fun ps => ?_, fun ps s h => ?_⟩
    · rw [contentOf_unit (isHighHalf_eq_false hcontrol) (isLowHalf_eq_false hcontrol), Char.ofNat_toNat]
    · rw [heq]
      exact .digits (hexUnit?_control hcontrol) h
  · refine ⟨.char c, fun _ => rfl, fun ps s h => ?_⟩
    rw [heq]
    exact .plain hquote hslash hcontrol h

/-- What is written between quotes is a spelling of the characters. -/
theorem exists_spelt_flatMap_escaped (content : List Char) :
    ∃ ps, contentOf ps = some content ∧ Piece.Spelt ps (content.flatMap escaped) := by
  induction content with
  | nil => exact ⟨[], rfl, .nil⟩
  | cons c content ih =>
    obtain ⟨ps, hcontent, hspelt⟩ := ih
    obtain ⟨p, hp, hcons⟩ := exists_piece_escaped c
    exact ⟨p :: ps, by rw [hp, hcontent]; rfl, hcons ps _ hspelt⟩

end WallClock.Json

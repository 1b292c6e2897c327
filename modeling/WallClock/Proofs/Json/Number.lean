import WallClock.Json.Number

/-!
The grammar of numbers of JSON, and what is read of a number. The reader knows how far a number has been
spelt; what may follow each of these places is written down here, part by part of the grammar, and the
reader takes exactly that.
-/

namespace WallClock.Json

/-! ### The grammar -/

def Digits (s : List Char) : Prop :=
  s ≠ [] ∧ ∀ c ∈ s, c.isDigit = true

/-- The digits before the point, which begin with a zero only if it stands alone. -/
def WholePart (s : List Char) : Prop :=
  s = ['0'] ∨ Digits s ∧ s.head? ≠ some '0'

/-- The point and the digits after it, if there are any. -/
def FractionPart (s : List Char) : Prop :=
  s = [] ∨ ∃ digits, Digits digits ∧ s = '.' :: digits

/-- Digits that may have a sign before them. -/
def SignedDigits (s : List Char) : Prop :=
  Digits s ∨ ∃ sign digits, (sign = '+' ∨ sign = '-') ∧ Digits digits ∧ s = sign :: digits

/-- The mark of the exponent and its digits, if there are any. -/
def ExponentPart (s : List Char) : Prop :=
  s = [] ∨ ∃ mark digits, (mark = 'e' ∨ mark = 'E') ∧ SignedDigits digits ∧ s = mark :: digits

def UnsignedNumeral (s : List Char) : Prop :=
  ∃ whole fraction exponent, WholePart whole ∧ FractionPart fraction ∧ ExponentPart exponent ∧
    s = whole ++ (fraction ++ exponent)

/-- A number as JSON spells it. -/
def Numeral (s : List Char) : Prop :=
  UnsignedNumeral s ∨ ∃ rest, UnsignedNumeral rest ∧ s = '-' :: rest

/-! ### Parts of a number -/

/-- A row of digits, which may be empty, and a rest of this form. -/
def DigitsThen (IsRest : List Char → Prop) (s : List Char) : Prop :=
  ∃ digits rest, (∀ c ∈ digits, c.isDigit = true) ∧ IsRest rest ∧ s = digits ++ rest

/-- A digit or more, and a rest of this form. -/
def SomeDigitsThen (IsRest : List Char → Prop) (s : List Char) : Prop :=
  ∃ digits rest, Digits digits ∧ IsRest rest ∧ s = digits ++ rest

section
variable {IsRest : List Char → Prop} {c : Char} {s : List Char}

theorem digitsThen_nil : DigitsThen IsRest [] ↔ IsRest [] := by
  constructor
  · rintro ⟨digits, rest, -, hrest, heq⟩
    rwa [(List.append_eq_nil_iff.1 heq.symm).2] at hrest
  · exact fun h => ⟨[], [], nofun, h, rfl⟩

theorem digitsThen_cons :
    DigitsThen IsRest (c :: s) ↔ c.isDigit = true ∧ DigitsThen IsRest s ∨ IsRest (c :: s) := by
  constructor
  · rintro ⟨_ | ⟨d, digits⟩, rest, hdigits, hrest, heq⟩
    · exact .inr (heq ▸ hrest)
    · obtain ⟨rfl, rfl⟩ := List.cons.inj heq
      rw [List.forall_mem_cons] at hdigits
      exact .inl ⟨hdigits.1, digits, rest, hdigits.2, hrest, rfl⟩
  · rintro (⟨hdigit, digits, rest, hdigits, hrest, rfl⟩ | hrest)
    · exact ⟨c :: digits, rest, List.forall_mem_cons.2 ⟨hdigit, hdigits⟩, hrest, rfl⟩
    · exact ⟨[], c :: s, nofun, hrest, rfl⟩

theorem digits_cons : Digits (c :: s) ↔ c.isDigit = true ∧ ∀ d ∈ s, d.isDigit = true := by
  rw [Digits, List.forall_mem_cons]
  exact and_iff_right (List.cons_ne_nil c s)

theorem someDigitsThen_cons : SomeDigitsThen IsRest (c :: s) ↔ c.isDigit = true ∧ DigitsThen IsRest s := by
  constructor
  · rintro ⟨digits, rest, hdigits, hrest, heq⟩
    obtain ⟨d, digits, rfl⟩ := List.exists_cons_of_ne_nil hdigits.1
    obtain ⟨rfl, rfl⟩ := List.cons.inj heq
    obtain ⟨hdigit, hdigits⟩ := digits_cons.1 hdigits
    exact ⟨hdigit, digits, rest, hdigits, hrest, rfl⟩
  · rintro ⟨hdigit, digits, rest, hdigits, hrest, rfl⟩
    exact ⟨c :: digits, rest, digits_cons.2 ⟨hdigit, hdigits⟩, hrest, rfl⟩

theorem fractionPart_cons : FractionPart (c :: s) ↔ c = '.' ∧ Digits s := by
  constructor
  · rintro (heq | ⟨digits, hdigits, heq⟩)
    · cases heq
    · obtain ⟨rfl, rfl⟩ := List.cons.inj heq
      exact ⟨rfl, hdigits⟩
  · rintro ⟨rfl, hdigits⟩
    exact .inr ⟨s, hdigits, rfl⟩

theorem exponentPart_cons : ExponentPart (c :: s) ↔ (c = 'e' ∨ c = 'E') ∧ SignedDigits s := by
  constructor
  · rintro (heq | ⟨mark, digits, hmark, hdigits, heq⟩)
    · cases heq
    · obtain ⟨rfl, rfl⟩ := List.cons.inj heq
      exact ⟨hmark, hdigits⟩
  · rintro ⟨hmark, hdigits⟩
    exact .inr ⟨c, s, hmark, hdigits, rfl⟩

theorem signedDigits_cons :
    SignedDigits (c :: s) ↔ (c = '+' ∨ c = '-') ∧ Digits s ∨ Digits (c :: s) := by
  constructor
  · rintro (hdigits | ⟨sign, digits, hsign, hdigits, heq⟩)
    · exact .inr hdigits
    · obtain ⟨rfl, rfl⟩ := List.cons.inj heq
      exact .inl ⟨hsign, hdigits⟩
  · rintro (⟨hsign, hdigits⟩ | hdigits)
    · exact .inr ⟨c, s, hsign, hdigits, rfl⟩
    · exact .inl hdigits

end

/-- What may follow the digits before the point. -/
def AfterWhole (s : List Char) : Prop :=
  ∃ fraction exponent, FractionPart fraction ∧ ExponentPart exponent ∧ s = fraction ++ exponent

section
variable {c : Char} {s : List Char}

theorem digitsThen_eq_nil : DigitsThen (· = []) s ↔ ∀ c ∈ s, c.isDigit = true := by
  constructor
  · rintro ⟨digits, rest, hdigits, rfl, rfl⟩
    rwa [List.append_nil]
  · exact fun h => ⟨s, [], h, rfl, (List.append_nil s).symm⟩

theorem afterWhole_nil : AfterWhole [] :=
  ⟨[], [], .inl rfl, .inl rfl, rfl⟩

theorem afterWhole_cons :
    AfterWhole (c :: s) ↔ c = '.' ∧ SomeDigitsThen ExponentPart s ∨ ExponentPart (c :: s) := by
  constructor
  · rintro ⟨_ | ⟨d, fraction⟩, exponent, hfraction, hexponent, heq⟩
    · exact .inr (heq ▸ hexponent)
    · obtain ⟨rfl, rfl⟩ := List.cons.inj heq
      obtain ⟨hpoint, hdigits⟩ := fractionPart_cons.1 hfraction
      exact .inl ⟨hpoint, fraction, exponent, hdigits, hexponent, rfl⟩
  · rintro (⟨rfl, digits, exponent, hdigits, hexponent, rfl⟩ | hexponent)
    · exact ⟨'.' :: digits, exponent, fractionPart_cons.2 ⟨rfl, hdigits⟩, hexponent, rfl⟩
    · exact ⟨[], c :: s, .inl rfl, hexponent, rfl⟩

theorem unsignedNumeral_cons :
    UnsignedNumeral (c :: s) ↔
      c = '0' ∧ AfterWhole s ∨ c ≠ '0' ∧ c.isDigit = true ∧ DigitsThen AfterWhole s := by
  constructor
  · rintro ⟨whole, fraction, exponent, rfl | ⟨hdigits, hzero⟩, hfraction, hexponent, heq⟩
    · obtain ⟨rfl, rfl⟩ := List.cons.inj heq
      exact .inl ⟨rfl, fraction, exponent, hfraction, hexponent, rfl⟩
    · obtain ⟨d, digits, rfl⟩ := List.exists_cons_of_ne_nil hdigits.1
      obtain ⟨rfl, rfl⟩ := List.cons.inj heq
      obtain ⟨hdigit, hrest⟩ := digits_cons.1 hdigits
      refine .inr ⟨fun heq => hzero (by rw [heq]; rfl), hdigit, digits, _, hrest, ?_, rfl⟩
      exact ⟨fraction, exponent, hfraction, hexponent, rfl⟩
  · rintro (⟨rfl, fraction, exponent, hfraction, hexponent, rfl⟩ |
      ⟨hzero, hdigit, digits, _, hdigits, ⟨fraction, exponent, hfraction, hexponent, rfl⟩, rfl⟩)
    · exact ⟨['0'], fraction, exponent, .inl rfl, hfraction, hexponent, rfl⟩
    · have hwhole : WholePart (c :: digits) :=
        .inr ⟨digits_cons.2 ⟨hdigit, hdigits⟩, fun heq => hzero (Option.some.inj heq)⟩
      exact ⟨c :: digits, fraction, exponent, hwhole, hfraction, hexponent, rfl⟩

theorem not_unsignedNumeral_nil : ¬ UnsignedNumeral [] := by
  rintro ⟨whole, fraction, exponent, hwhole, -, -, heq⟩
  rw [(List.append_eq_nil_iff.1 heq.symm).1] at hwhole
  rcases hwhole with heq | hwhole
  · cases heq
  · exact hwhole.1.1 rfl

theorem numeral_cons : Numeral (c :: s) ↔ c = '-' ∧ UnsignedNumeral s ∨ UnsignedNumeral (c :: s) := by
  constructor
  · rintro (hunsigned | ⟨rest, hunsigned, heq⟩)
    · exact .inr hunsigned
    · obtain ⟨rfl, rfl⟩ := List.cons.inj heq
      exact .inl ⟨rfl, hunsigned⟩
  · rintro (⟨rfl, hunsigned⟩ | hunsigned)
    · exact .inr ⟨s, hunsigned, rfl⟩
    · exact .inl hunsigned

end

/-! ### Reading -/

namespace NumberPlace

/-- What may follow each place of a number. -/
def Tail : NumberPlace → List Char → Prop
  | start => Numeral
  | sign => UnsignedNumeral
  | zero => AfterWhole
  | whole => DigitsThen AfterWhole
  | point => SomeDigitsThen ExponentPart
  | fraction => DigitsThen ExponentPart
  | mark => SignedDigits
  | markSign => Digits
  | exponent => DigitsThen (· = [])

theorem tail_nil (place : NumberPlace) : place.Tail [] ↔ place.complete = true := by
  have hdigits : ¬ Digits [] := fun h => h.1 rfl
  cases place with
  | start => simp [Tail, Numeral, not_unsignedNumeral_nil, complete]
  | sign => simp [Tail, not_unsignedNumeral_nil, complete]
  | zero => simp [Tail, afterWhole_nil, complete]
  | whole => simp [Tail, digitsThen_nil, afterWhole_nil, complete]
  | point => simp [Tail, SomeDigitsThen, hdigits, complete]
  | fraction => simp [Tail, digitsThen_nil, ExponentPart, complete]
  | mark => simp [Tail, SignedDigits, hdigits, complete]
  | markSign => simp [Tail, hdigits, complete]
  | exponent => simp [Tail, digitsThen_nil, complete]

/-- What may follow the place that is next, if there is one. -/
def FollowsNext (next : Option NumberPlace) (s : List Char) : Prop :=
  ∃ later, next = some later ∧ later.Tail s

theorem followsNext_some {place : NumberPlace} {s : List Char} :
    FollowsNext (some place) s ↔ place.Tail s := by
  simp [FollowsNext]

theorem followsNext_none {s : List Char} : ¬ FollowsNext none s := by
  simp [FollowsNext]

theorem followsNext_ite {p : Prop} [Decidable p] {next next' : Option NumberPlace} {s : List Char} :
    FollowsNext (if p then next else next') s ↔
      p ∧ FollowsNext next s ∨ ¬ p ∧ FollowsNext next' s := by
  by_cases h : p <;> simp [h]

theorem followsNext_afterWhole (c : Char) (s : List Char) :
    FollowsNext (afterWhole c) s ↔ AfterWhole (c :: s) := by
  have hpoint : c = '.' → ¬ (c = 'e' ∨ c = 'E') := by rintro rfl; decide
  rw [afterWhole, followsNext_ite, followsNext_ite, followsNext_some, followsNext_some,
    afterWhole_cons, exponentPart_cons]
  simp only [Tail, followsNext_none]
  grind

/-- A number begins with its first digit, if not with the sign. -/
theorem followsNext_firstDigit (c : Char) (s : List Char) :
    FollowsNext (firstDigit c) s ↔ UnsignedNumeral (c :: s) := by
  rw [firstDigit, followsNext_ite, followsNext_ite, followsNext_some, followsNext_some,
    unsignedNumeral_cons]
  simp only [Tail, followsNext_none]
  grind

/-- What may follow a place begins with a step to the next one. -/
theorem tail_cons (place : NumberPlace) (c : Char) (s : List Char) :
    place.Tail (c :: s) ↔ FollowsNext (place.next? c) s := by
  -- What is told apart by its first character is no digit.
  have hmark : c = 'e' ∨ c = 'E' → c.isDigit = false := by rintro (rfl | rfl) <;> rfl
  have hsign : c = '+' ∨ c = '-' → c.isDigit = false := by rintro (rfl | rfl) <;> rfl
  have hpoint : c = '.' → c.isDigit = false := by rintro rfl; rfl
  cases place with
  | start =>
    have hminus : c = '-' → ¬ UnsignedNumeral (c :: s) := by
      rw [unsignedNumeral_cons]
      rintro rfl (⟨heq, -⟩ | ⟨-, hdigit, -⟩)
      · cases heq
      · cases hdigit
    rw [next?, followsNext_ite, followsNext_some, followsNext_firstDigit, Tail, Tail, numeral_cons]
    grind
  | sign => exact (followsNext_firstDigit c s).symm
  | zero => exact (followsNext_afterWhole c s).symm
  | whole =>
    rw [next?, followsNext_ite, followsNext_some, followsNext_afterWhole, Tail, digitsThen_cons]
    have hafter : AfterWhole (c :: s) → c.isDigit = false := by
      rw [afterWhole_cons, exponentPart_cons]
      grind
    grind
  | point =>
    rw [next?, followsNext_ite, followsNext_some]
    simp only [Tail, followsNext_none, someDigitsThen_cons, and_false, or_false]
  | fraction =>
    rw [next?, followsNext_ite, followsNext_ite, followsNext_some, followsNext_some, Tail,
      digitsThen_cons, exponentPart_cons]
    simp only [Tail, followsNext_none]
    grind
  | mark =>
    rw [next?, followsNext_ite, followsNext_ite, followsNext_some, followsNext_some, Tail,
      signedDigits_cons, digits_cons]
    simp only [Tail, followsNext_none, digitsThen_eq_nil]
    grind
  | markSign =>
    rw [next?, followsNext_ite, followsNext_some, Tail, Tail, digits_cons, digitsThen_eq_nil]
    simp [followsNext_none]
  | exponent =>
    rw [next?, followsNext_ite, followsNext_some, Tail, digitsThen_cons]
    simp [followsNext_none]

end NumberPlace

/-- The reader takes exactly what may follow. -/
theorem readNumberFrom_eq_some_iff {place : NumberPlace} {s : List Char} :
    readNumberFrom place s = some (s, []) ↔ place.Tail s := by
  induction s generalizing place with
  | nil =>
    rw [place.tail_nil, readNumberFrom]
    by_cases h : place.complete <;> simp [h]
  | cons c s ih =>
    rw [place.tail_cons, readNumberFrom]
    cases hnext : place.next? c with
    | none =>
      simp only [NumberPlace.followsNext_none, iff_false]
      split <;> simp
    | some later =>
      rw [NumberPlace.followsNext_some, ← ih]
      simp

/-- A text is read as one number just if the grammar has it as one. -/
theorem readNumber_eq_some_iff {s : List Char} : readNumber s = some (s, []) ↔ Numeral s :=
  readNumberFrom_eq_some_iff

/-- What is taken off a text as a number is one. -/
theorem readNumberFrom_spelling {place : NumberPlace} {s spelling rest : List Char}
    (h : readNumberFrom place s = some (spelling, rest)) : place.Tail spelling := by
  induction s generalizing place spelling with
  | nil =>
    rw [readNumberFrom] at h
    split at h
    · cases h
      exact place.tail_nil.2 ‹_›
    · cases h
  | cons c s ih =>
    rw [readNumberFrom] at h
    split at h
    case h_1 later hnext =>
      obtain ⟨⟨tail, rest'⟩, htail, heq⟩ := Option.map_eq_some_iff.1 h
      cases heq
      rw [place.tail_cons, hnext, NumberPlace.followsNext_some]
      exact ih htail
    case h_2 =>
      split at h
      · cases h
        exact place.tail_nil.2 ‹_›
      · cases h

end WallClock.Json

import Mathlib.Data.List.Chain
import WallClock.Json.Layout
import WallClock.Proofs.Json.Number
import WallClock.Proofs.Json.Quoted

/-!
Layouts of JSON. A row of tokens may be laid out with any blanks before each token and at the end, and
each token in any of its spellings. Whatever the layout, a text is taken apart into the tokens it was
made of, if no number runs into what follows it; a text that is no layout is not taken apart at all. Both
printers make layouts.
-/

namespace WallClock.Json

/-! ### Numbers -/

/-- A number that breaks off before this text does so at its very beginning. -/
def EndsNumber (s : List Char) : Prop :=
  ∀ c ∈ s.head?, ∀ place : NumberPlace, place.next? c = none

theorem endsNumber_cons {c : Char} {s : List Char}
    (h : c ∈ [',', ']', '\x7d', ' ', '\t', '\n', '\r']) : EndsNumber (c :: s) := by
  intro d hd place
  rw [List.head?_cons, Option.mem_some_iff] at hd
  subst hd
  simp only [List.mem_cons, List.not_mem_nil, or_false] at h
  rcases h with rfl | rfl | rfl | rfl | rfl | rfl | rfl <;> cases place <;> decide

/-- A number is read to the same end whatever follows that cannot be part of it. -/
theorem readNumberFrom_append {place : NumberPlace} {spelling rest : List Char}
    (h : readNumberFrom place spelling = some (spelling, [])) (hrest : EndsNumber rest) :
    readNumberFrom place (spelling ++ rest) = some (spelling, rest) := by
  induction spelling generalizing place with
  | nil =>
    have hcomplete : place.complete = true := by
      by_contra hne
      simp [readNumberFrom, hne] at h
    cases rest with
    | nil => exact h
    | cons c rest => simp [readNumberFrom, hrest c rfl place, hcomplete]
  | cons c spelling ih =>
    rw [List.cons_append, readNumberFrom]
    rw [readNumberFrom] at h
    cases hnext : place.next? c with
    | none =>
      rw [hnext] at h
      dsimp only at h
      split at h <;> simp at h
    | some later =>
      rw [hnext] at h
      obtain ⟨⟨tail, rest'⟩, htail, heq⟩ := Option.map_eq_some_iff.1 h
      simp only [Prod.mk.injEq, List.cons.injEq, true_and] at heq
      obtain ⟨rfl, rfl⟩ := heq
      simp [ih htail]

def BeginsNumber (c : Char) : Prop :=
  c = '-' ∨ c.isDigit = true

theorem BeginsNumber.ne {c d : Char} (h : BeginsNumber c) (hminus : d ≠ '-')
    (hdigit : d.isDigit = false) : c ≠ d := by
  rintro rfl
  rcases h with heq | hdigit'
  · exact hminus heq
  · simp [hdigit] at hdigit'

/-- No number is empty. -/
theorem exists_cons_of_numeral {s : List Char} (h : Numeral s) :
    ∃ c tail, s = c :: tail ∧ BeginsNumber c := by
  cases s with
  | nil => simp [Numeral, not_unsignedNumeral_nil] at h
  | cons c tail =>
    refine ⟨c, tail, rfl, ?_⟩
    rw [numeral_cons, unsignedNumeral_cons] at h
    rcases h with ⟨hminus, -⟩ | ⟨hzero, -⟩ | ⟨-, hdigit, -⟩
    · exact .inl hminus
    · rw [hzero]
      exact .inr rfl
    · exact .inr hdigit

namespace Token

/-! ### Single tokens -/

/-- The text is a spelling of the token. -/
def Spelt : Token → List Char → Prop
  | number spelling, w => Numeral spelling ∧ w = spelling
  | string content, w => ∃ ps body, Piece.Spelt ps body ∧ contentOf ps = content ∧ w = '"' :: (body ++ ['"'])
  | t, w => w = t.spelling

/-- Whether a number of the token is spelt as one. -/
def WellSpelt : Token → Prop
  | number spelling => Numeral spelling
  | _ => True

/-- Whether the token is seen to end where `s` begins. -/
def Ends : Token → List Char → Prop
  | number _, s => EndsNumber s
  | _, _ => True

theorem spelt_spelling {t : Token} (ht : t.WellSpelt) : t.Spelt t.spelling := by
  cases t with
  | number spelling => exact ⟨ht, rfl⟩
  | string content =>
    cases content with
    | none => exact ⟨[.unit 0xD800], ['\\', 'u', 'd', '8', '0', '0'], .digits rfl .nil, rfl, rfl⟩
    | some content =>
      obtain ⟨ps, hcontent, hspelt⟩ := exists_spelt_flatMap_escaped content
      exact ⟨ps, _, hspelt, hcontent, rfl⟩
  | _ => rfl

theorem readLong?_of_number {c : Char} (h : BeginsNumber c) (s : List Char) :
    readLong? (c :: s) =
      (readNumber (c :: s)).map fun (spelling, rest) => (number spelling, rest) := by
  unfold readLong?
  split
  case h_1 heq => exact absurd (List.cons.inj heq).1 (h.ne (by decide) (by decide))
  case h_2 => rfl

theorem read?_of_number {c : Char} (h : BeginsNumber c) (s : List Char) :
    read? (c :: s) = (readNumber (c :: s)).map fun (spelling, rest) => (number spelling, rest) := by
  rw [← readLong?_of_number h]
  unfold read?
  split
  case h_10 => rfl
  -- No bracket, mark or word begins as a number does.
  all_goals
    rename_i heq
    exact absurd (List.cons.inj heq).1 (h.ne (by decide) (by decide))

theorem read?_quote (s : List Char) :
    read? ('"' :: s) = (readQuoted s).map fun (content, rest) => (string content, rest) :=
  rfl

/-- A token is read, however it is spelt, if it is seen to end. -/
theorem read?_append {t : Token} {w : List Char} (h : t.Spelt w) {s : List Char} (hs : t.Ends s) :
    read? (w ++ s) = some (t, s) := by
  cases t with
  | number spelling =>
    obtain ⟨hnumeral, rfl⟩ := h
    obtain ⟨c, tail, rfl, hc⟩ := exists_cons_of_numeral hnumeral
    have hread := readNumberFrom_append (readNumber_eq_some_iff.2 hnumeral) hs
    rw [List.cons_append] at hread ⊢
    rw [read?_of_number hc, readNumber, hread]
    rfl
  | string content =>
    obtain ⟨ps, body, hspelt, hcontent, rfl⟩ := h
    have hread : readQuoted (body ++ '"' :: s) = some (content, s) :=
      readQuoted_eq_some_iff.2 ⟨ps, body, hspelt, hcontent, rfl⟩
    rw [List.cons_append, List.append_assoc, List.singleton_append, read?_quote, hread]
    rfl
  | bool value => cases value <;> cases h <;> rfl
  | _ => cases h; rfl

theorem exists_cons_of_spelt {t : Token} {w : List Char} (h : t.Spelt w) :
    ∃ c s, w = c :: s ∧ isSpace c = false := by
  cases t with
  | number spelling =>
    obtain ⟨hnumeral, rfl⟩ := h
    obtain ⟨c, tail, rfl, hc⟩ := exists_cons_of_numeral hnumeral
    have hblank : c ≠ ' ' ∧ c ≠ '\t' ∧ c ≠ '\n' ∧ c ≠ '\r' := by
      refine ⟨?_, ?_, ?_, ?_⟩ <;> exact hc.ne (by decide) (by decide)
    exact ⟨c, tail, rfl, by simp [isSpace, hblank]⟩
  | string content =>
    obtain ⟨ps, body, -, -, rfl⟩ := h
    exact ⟨'"', _, rfl, rfl⟩
  | bool value => cases value <;> cases h <;> exact ⟨_, _, rfl, rfl⟩
  | _ => cases h; exact ⟨_, _, rfl, rfl⟩

theorem ofText?_of_read? {c : Char} {s rest : List Char} {t : Token}
    (hspace : isSpace c = false) (h : read? (c :: s) = some (t, rest)) :
    ofText? (c :: s) = (ofText? rest).map (t :: ·) := by
  rw [ofText?, if_neg (by rw [hspace]; exact Bool.false_ne_true)]
  split
  · rename_i heq
    rw [h] at heq
    cases heq
  · rename_i heq
    rw [h] at heq
    cases heq
    rfl

/-- One token is read off the front, the rest is read by itself. -/
theorem ofText?_append {t : Token} {w : List Char} (h : t.Spelt w) {s : List Char} (hs : t.Ends s) :
    ofText? (w ++ s) = (ofText? s).map (t :: ·) := by
  have hread := read?_append h hs
  obtain ⟨c, tail, rfl, hspace⟩ := exists_cons_of_spelt h
  rw [List.cons_append] at hread ⊢
  exact ofText?_of_read? hspace hread

/-- What is taken off a text as a token spells it. -/
theorem exists_spelt_of_read? {s rest : List Char} {t : Token} (h : read? s = some (t, rest)) :
    ∃ w, t.Spelt w ∧ s = w ++ rest := by
  unfold read? at h
  split at h
  case h_10 =>
    unfold readLong? at h
    split at h
    · obtain ⟨⟨content, rest'⟩, hread, heq⟩ := Option.map_eq_some_iff.1 h
      cases heq
      obtain ⟨ps, body, hspelt, hcontent, rfl⟩ := readQuoted_eq_some_iff.1 hread
      exact ⟨_, ⟨ps, body, hspelt, hcontent, rfl⟩, by simp⟩
    · obtain ⟨⟨spelling, rest'⟩, hread, heq⟩ := Option.map_eq_some_iff.1 h
      cases heq
      exact ⟨spelling, ⟨readNumberFrom_spelling hread, rfl⟩, (append_of_readNumberFrom hread).symm⟩
  all_goals
    cases h
    exact ⟨_, rfl, rfl⟩

/-! ### Rows of tokens -/

/-- A text of nothing but blanks. -/
def IsGap (s : List Char) : Prop :=
  ∀ c ∈ s, isSpace c = true

/-- Blanks before a token are passed over. -/
theorem ofText?_gap {gap : List Char} (h : IsGap gap) (s : List Char) :
    ofText? (gap ++ s) = ofText? s := by
  induction gap with
  | nil => rfl
  | cons c gap ih =>
    rw [List.cons_append, ofText?, if_pos (h c List.mem_cons_self)]
    exact ih fun d hd => h d (List.mem_cons_of_mem c hd)

/-- The text is a layout of the tokens. -/
inductive Laid : List Token → List Char → Prop
  | nil {gap : List Char} : IsGap gap → Laid [] gap
  | cons {t : Token} {ts : List Token} {gap w s : List Char} :
      IsGap gap → t.Spelt w → Laid ts s → Laid (t :: ts) (gap ++ (w ++ s))

theorem isGap_nil : IsGap [] :=
  fun _ hc => absurd hc List.not_mem_nil

theorem IsGap.append {gap gap' : List Char} (h : IsGap gap) (h' : IsGap gap') : IsGap (gap ++ gap') :=
  fun c hc => (List.mem_append.1 hc).elim (h c) (h' c)

theorem Laid.cons_tight {t : Token} {ts : List Token} {s : List Char} (ht : t.WellSpelt)
    (h : Laid ts s) : Laid (t :: ts) (t.spelling ++ s) :=
  .cons isGap_nil (spelt_spelling ht) h

theorem Laid.gap {ts : List Token} {gap s : List Char} (hgap : IsGap gap) (h : Laid ts s) :
    Laid ts (gap ++ s) := by
  cases h with
  | nil hgap' => exact .nil (hgap.append hgap')
  | cons hgap' ht h =>
    rw [← List.append_assoc]
    exact .cons (hgap.append hgap') ht h

theorem Laid.append_gap {ts : List Token} {s gap : List Char} (h : Laid ts s) (hgap : IsGap gap) :
    Laid ts (s ++ gap) := by
  induction h with
  | nil hgap' => exact .nil (hgap'.append hgap)
  | cons hgap' ht _ ih =>
    rw [List.append_assoc, List.append_assoc]
    exact .cons hgap' ht ih

/-- What is taken apart into tokens is a layout of them. -/
theorem laid_of_ofText? {ts : List Token} {s : List Char} (h : ofText? s = some ts) : Laid ts s := by
  fun_induction ofText? s generalizing ts with
  | case1 =>
    cases h
    exact .nil isGap_nil
  | case2 c rest hspace ih =>
    have hgap : IsGap [c] := by simpa [IsGap] using hspace
    exact .gap hgap (ih h)
  | case3 => cases h
  | case4 c rest _ t rest' hread _ ih =>
    obtain ⟨ts', hts', rfl⟩ := Option.map_eq_some_iff.1 h
    obtain ⟨w, hw, heq⟩ := exists_spelt_of_read? hread
    rw [heq]
    exact .cons isGap_nil hw (ih hts')

/-! ### Numbers in rows -/

/-- The tokens that may follow a number. -/
def IsEnd (t : Token) : Prop :=
  t = comma ∨ t = closeArray ∨ t = closeObject

/-- Whether `u` may follow `t` without a blank. -/
def Parted (t u : Token) : Prop :=
  (∃ spelling, t = number spelling) → u.IsEnd

theorem endsNumber_gap {gap s : List Char} (hgap : IsGap gap) (hs : EndsNumber s) :
    EndsNumber (gap ++ s) := by
  cases gap with
  | nil => exact hs
  | cons c gap =>
    have hc := hgap c List.mem_cons_self
    simp only [isSpace, Bool.or_eq_true, beq_iff_eq] at hc
    exact endsNumber_cons (by simp only [List.mem_cons]; tauto)

theorem Laid.endsNumber {ts : List Token} {s tail : List Char} (h : Laid ts s)
    (hend : ∀ u ∈ ts.head?, u.IsEnd) (htail : ts = [] → EndsNumber tail) : EndsNumber (s ++ tail) := by
  cases h with
  | nil hgap => exact endsNumber_gap hgap (htail rfl)
  | @cons u ts gap w s hgap hw _ =>
    rw [List.append_assoc]
    apply endsNumber_gap hgap
    rcases hend u rfl with rfl | rfl | rfl <;> cases hw <;> exact endsNumber_cons (by simp)

/-- Whether a number at the end of the row is seen to end where `s` begins. -/
def EndsAt (ts : List Token) (s : List Char) : Prop :=
  ∀ spelling, ts.getLast? = some (number spelling) → EndsNumber s

theorem EndsAt.tail {t : Token} {ts : List Token} {s : List Char} (h : EndsAt (t :: ts) s) :
    EndsAt ts s := by
  intro spelling hlast
  apply h spelling
  cases ts with
  | nil => cases hlast
  | cons u ts => rwa [List.getLast?_cons_cons]

/-- What a text is taken apart into does not depend on its layout. -/
theorem Laid.ofText?_append {ts : List Token} {s tail : List Char} (h : Laid ts s)
    (hchain : ts.IsChain Parted) (hends : EndsAt ts tail) :
    Token.ofText? (s ++ tail) = (Token.ofText? tail).map (ts ++ ·) := by
  induction h with
  | nil hgap =>
    rw [ofText?_gap hgap]
    exact Option.map_id'.symm
  | @cons t ts gap w s hgap hw hlaid ih =>
    have hafter : t.Ends (s ++ tail) := by
      cases t with
      | number spelling =>
        apply hlaid.endsNumber fun u hu => (List.isChain_cons.1 hchain).1 u hu ⟨spelling, rfl⟩
        rintro rfl
        exact hends spelling rfl
      | _ => trivial
    rw [List.append_assoc, List.append_assoc, ofText?_gap hgap, Token.ofText?_append hw hafter,
      ih (List.isChain_cons.1 hchain).2 hends.tail, Option.map_map]
    rfl

/-- The tokens of a layout are read back, whatever blanks stand between them. -/
theorem Laid.ofText? {ts : List Token} {s : List Char} (h : Laid ts s) (hchain : ts.IsChain Parted) :
    Token.ofText? s = some ts := by
  have hends : EndsAt ts [] := fun _ _ _ hc => by cases hc
  have happend := h.ofText?_append hchain hends
  rw [Token.ofText?, List.append_nil] at happend
  rw [happend, Option.map_some, List.append_nil]

/-! ### The printers -/

theorem laid_compact {ts : List Token} (h : ∀ t ∈ ts, t.WellSpelt) : Laid ts (compact ts) := by
  induction ts with
  | nil => exact .nil isGap_nil
  | cons t ts ih =>
    rw [List.forall_mem_cons] at h
    exact .cons_tight h.1 (ih h.2)

theorem isGap_lineBreak (depth : Nat) : IsGap (lineBreak depth) := by
  intro c hc
  rcases List.mem_cons.1 hc with rfl | hc
  · rfl
  · rw [(List.mem_replicate.1 hc).2]
    rfl

/-- Indented lines are a layout as well. -/
theorem laid_pretty {ts : List Token} (h : ∀ t ∈ ts, t.WellSpelt) (depth : Nat) :
    Laid ts (pretty depth ts) := by
  fun_induction pretty depth ts with
  | case1 => exact .nil isGap_nil
  | case2 depth ts ih | case3 depth ts ih =>
    simp only [List.forall_mem_cons] at h
    exact .cons_tight h.1 (.cons_tight h.2.1 (ih h.2.2))
  | case4 depth ts _ ih | case5 depth ts _ ih | case8 depth ts ih =>
    rw [List.forall_mem_cons] at h
    exact .cons_tight h.1 (.gap (isGap_lineBreak _) (ih h.2))
  | case6 depth ts ih | case7 depth ts ih =>
    rw [List.forall_mem_cons] at h
    exact .cons (isGap_lineBreak _) (spelt_spelling h.1) (ih h.2)
  | case9 depth ts ih =>
    have hblank : IsGap [' '] := by simp [IsGap, isSpace]
    rw [List.forall_mem_cons] at h
    exact .cons_tight h.1 (.gap hblank (ih h.2))
  | case10 depth t ts _ _ _ _ _ _ _ _ ih =>
    rw [List.forall_mem_cons] at h
    exact .cons_tight h.1 (ih h.2)

theorem getLast?_of_cons {t u : Token} {ts : List Token} (h : (t :: ts).getLast? = some u)
    (hne : t ≠ u) : ts.getLast? = some u := by
  cases ts with
  | nil => exact absurd (Option.some.inj h) hne
  | cons t' ts => rwa [List.getLast?_cons_cons] at h

/-- What ends with the end of an object has its bracket as the last character. -/
theorem bracket_suffix_pretty {depth : Nat} {ts : List Token}
    (h : ts.getLast? = some closeObject) : ['\x7d'] <:+ pretty depth ts := by
  fun_induction pretty depth ts with
  | case1 => cases h
  | case2 depth ts ih =>
    exact (ih (getLast?_of_cons (getLast?_of_cons h nofun) nofun)).trans ⟨['[', ']'], rfl⟩
  | case3 depth ts ih =>
    cases ts with
    | nil => exact ⟨['\x7b'], rfl⟩
    | cons t ts =>
      rw [List.getLast?_cons_cons, List.getLast?_cons_cons] at h
      exact (ih h).trans ⟨['\x7b', '\x7d'], rfl⟩
  | case4 depth ts _ ih =>
    exact (ih (getLast?_of_cons h nofun)).trans ⟨'[' :: lineBreak (depth + 1), rfl⟩
  | case5 depth ts _ ih =>
    exact (ih (getLast?_of_cons h nofun)).trans ⟨'\x7b' :: lineBreak (depth + 1), rfl⟩
  | case6 depth ts ih =>
    exact (ih (getLast?_of_cons h nofun)).trans ⟨lineBreak (depth - 1) ++ [']'], by simp⟩
  | case7 depth ts ih =>
    cases ts with
    | nil => exact ⟨lineBreak (depth - 1), rfl⟩
    | cons t ts =>
      rw [List.getLast?_cons_cons] at h
      exact (ih h).trans ⟨lineBreak (depth - 1) ++ ['\x7d'], by simp⟩
  | case8 depth ts ih =>
    exact (ih (getLast?_of_cons h nofun)).trans ⟨',' :: lineBreak depth, rfl⟩
  | case9 depth ts ih => exact (ih (getLast?_of_cons h nofun)).trans ⟨[':', ' '], rfl⟩
  | case10 depth t ts _ _ _ _ _ hne _ _ ih =>
    exact (ih (getLast?_of_cons h hne)).trans ⟨t.spelling, rfl⟩

end Token

end WallClock.Json

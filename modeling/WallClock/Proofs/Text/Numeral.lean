import WallClock.Text.Digits

/-!
Decimal numerals. A number is written in its decimal digits, the sign in front, and filled up with
zeros to a width in which the sign counts; what has fixed width is such a numeral. Digits are read
back from the front of a text up to the first character that is none.
-/

namespace WallClock.Text

theorem tenTo_eq_pow (n : Nat) : tenTo n = Nat.pow 10 n := by
  induction n with
  | zero => rfl
  | succ n ih =>
    rw [tenTo, ih, Nat.mul_comm]
    rfl

theorem digitChar_eq {d : Nat} (h : d < 10) : digitChar d = Nat.digitChar d := by
  have all : ∀ e ∈ List.range 10, digitChar e = Nat.digitChar e := by decide
  exact all d (List.mem_range.2 h)

theorem isDigit_of_mem_padded {width n : Nat} {c : Char} (h : c ∈ padded width n) :
    c.isDigit = true := by
  induction width generalizing n with
  | zero => exact absurd h List.not_mem_nil
  | succ width ih =>
    rw [padded, List.mem_append, List.mem_singleton] at h
    rcases h with h | rfl
    · exact ih h
    · exact digitChar_isDigit (Nat.mod_lt n (by omega))

theorem exists_cons_padded (width n : Nat) :
    ∃ c s, padded (width + 1) n = c :: s ∧ c.isDigit = true := by
  cases hpadded : padded (width + 1) n with
  | nil =>
    have hlength := length_padded (width + 1) n
    rw [hpadded] at hlength
    exact absurd hlength (Nat.succ_ne_zero width).symm
  | cons c s =>
    have hc : c ∈ padded (width + 1) n := by
      rw [hpadded]
      exact List.mem_cons_self
    exact ⟨c, s, rfl, isDigit_of_mem_padded hc⟩

theorem readAtMost_padded {limit width n : Nat} (hlimit : n ≤ limit) (h : n < tenTo width)
    (rest : List Char) : readAtMost limit width (padded width n ++ rest) = some (n, rest) := by
  rw [readAtMost, readDigits_padded h]
  exact if_pos hlimit

/-! ### Numerals filled up with zeros -/

/-- The decimal digits of a number, filled up with zeros to `width` characters; a minus sign is one
of them. -/
def zeroPadded (width : Nat) (n : Int) : List Char :=
  let sign := if n < 0 then ['-'] else []
  let digits := Nat.toDigits 10 n.natAbs
  sign ++ List.replicate (width - (sign.length + digits.length)) '0' ++ digits

theorem zeroPadded_natCast (width n : Nat) :
    zeroPadded width n =
      List.replicate (width - (Nat.toDigits 10 n).length) '0' ++ Nat.toDigits 10 n := by
  have hsign : ¬ (n : Int) < 0 := by omega
  simp [zeroPadded, hsign]

theorem zeroPadded_negative {width n : Nat} (h : 0 < n) :
    zeroPadded (width + 1) (-(n : Int)) = '-' :: zeroPadded width n := by
  have hwidth : width + 1 - (1 + (Nat.toDigits 10 n).length) =
      width - (Nat.toDigits 10 n).length := by omega
  rw [zeroPadded_natCast]
  simp [zeroPadded, h, hwidth]

example : zeroPadded 4 (-1) = "-001".toList := by decide

/-- A numeral of fixed width has leading zeros for the digits that the number does not have. -/
theorem padded_eq_zeroPadded {width n : Nat} (h : n < tenTo (width + 1)) :
    padded (width + 1) n = zeroPadded (width + 1) n := by
  induction width generalizing n with
  | zero =>
    have hlt : n < 10 := h
    rw [zeroPadded_natCast, Nat.toDigits_of_lt_base hlt, padded, padded, Nat.mod_eq_of_lt hlt,
      digitChar_eq hlt]
    rfl
  | succ width ih =>
    rw [zeroPadded_natCast, padded, digitChar_eq (Nat.mod_lt n (by omega))]
    by_cases hlt : n < 10
    · rw [Nat.toDigits_of_lt_base hlt, Nat.mod_eq_of_lt hlt, Nat.div_eq_of_lt hlt,
        ih (tenTo_pos (width + 1)), zeroPadded_natCast, Nat.toDigits_zero]
      simp [← List.replicate_succ']
    · rw [Nat.toDigits_of_base_le (by omega) (Nat.le_of_not_lt hlt),
        ih (by rw [tenTo] at h; omega), zeroPadded_natCast]
      simp

theorem length_zeroPadded {width n : Nat} (h : n < tenTo (width + 1)) :
    (zeroPadded (width + 1) n).length = width + 1 := by
  rw [← padded_eq_zeroPadded h, length_padded]

/-- A width that the digits fill is as good as a smaller one. -/
theorem zeroPadded_succ {width n : Nat} (hwidth : 0 < width) (h : tenTo width ≤ n) :
    zeroPadded (width + 1) n = zeroPadded width n := by
  have hlength : ¬ (Nat.toDigits 10 n).length ≤ width := by
    rw [Nat.length_toDigits_le_iff (by omega) hwidth]
    show ¬ n < Nat.pow 10 width
    rw [← tenTo_eq_pow]
    omega
  rw [zeroPadded_natCast, zeroPadded_natCast, Nat.sub_eq_zero_of_le (by omega),
    Nat.sub_eq_zero_of_le (by omega)]

/-! ### Digits at the front of a text -/

/-- The text does not go on with a digit. -/
def EndsDigits (s : List Char) : Prop :=
  ∀ c ∈ s.head?, c.isDigit = false

theorem endsDigits_cons {c : Char} {s : List Char} (h : c.isDigit = false) :
    EndsDigits (c :: s) := by
  intro d hd
  rw [List.head?_cons, Option.mem_some_iff] at hd
  rwa [← hd]

/-- Digits are read up to the first character that is none. -/
theorem spanDigits_append {limit : Nat} {digits rest : List Char}
    (hdigits : ∀ c ∈ digits, c.isDigit = true) (hlimit : digits.length ≤ limit)
    (hrest : EndsDigits rest) : spanDigits limit (digits ++ rest) = (digits, rest) := by
  induction digits generalizing limit with
  | nil =>
    cases limit with
    | zero => rfl
    | succ limit =>
      cases rest with
      | nil => rfl
      | cons c rest =>
        have hc : c.isDigit = false := hrest c rfl
        simp [spanDigits, hc]
  | cons c digits ih =>
    cases limit with
    | zero => exact absurd hlimit (Nat.not_succ_le_zero _)
    | succ limit =>
      have hc := hdigits c List.mem_cons_self
      have hrec := ih (fun d hd => hdigits d (List.mem_cons_of_mem c hd))
        (Nat.le_of_succ_le_succ hlimit)
      rw [List.cons_append, spanDigits, if_pos hc, hrec]

theorem digitsValue_concat (digits : List Char) (c : Char) :
    digitsValue (digits ++ [c]) = 10 * digitsValue digits + digitValue c := by
  simp [digitsValue]

/-- The digits of a number stand for it. -/
theorem digitsValue_padded {width n : Nat} (h : n < tenTo width) :
    digitsValue (padded width n) = n := by
  induction width generalizing n with
  | zero =>
    rw [tenTo] at h
    have : n = 0 := by omega
    subst this
    rfl
  | succ width ih =>
    rw [tenTo] at h
    rw [padded, digitsValue_concat, ih (by omega), digitValue_digitChar (Nat.mod_lt n (by omega))]
    omega

/-- Zeros at the end multiply by ten. -/
theorem digitsValue_append_zeros (digits : List Char) (count : Nat) :
    digitsValue (digits ++ List.replicate count '0') = digitsValue digits * tenTo count := by
  induction count with
  | zero => simp [tenTo]
  | succ count ih =>
    have hzero : digitValue '0' = 0 := by decide
    rw [List.replicate_succ', ← List.append_assoc, digitsValue_concat, ih, hzero, tenTo]
    rw [Nat.add_zero, Nat.mul_left_comm]

end WallClock.Text

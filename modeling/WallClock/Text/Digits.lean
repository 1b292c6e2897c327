/-!
Decimal digits of fixed width. `padded width n` writes the last `width` digits of `n`, and
`readDigits width` reads exactly that many digits back, whatever follows them.
-/

namespace WallClock.Text

/-- The digit of the number `d`, which is below ten. -/
def digitChar (d : Nat) : Char :=
  Char.ofNat (48 + d)

/-- The number that the digit `c` stands for. -/
def digitValue (c : Char) : Nat :=
  c.toNat - 48

/-- The last `width` decimal digits of `n`, with leading zeros. -/
def padded : (width : Nat) → (n : Nat) → List Char
  | 0, _ => []
  | width + 1, n => padded width (n / 10) ++ [digitChar (n % 10)]

/-- The power of ten with the exponent `n`. -/
def tenTo : (n : Nat) → Nat
  | 0 => 1
  | n + 1 => 10 * tenTo n

/-- Reads exactly `count` digits after those that make up `acc`. -/
def readDigitsFrom : (count : Nat) → (acc : Nat) → List Char → Option (Nat × List Char)
  | 0, acc, s => some (acc, s)
  | _ + 1, _, [] => none
  | count + 1, acc, c :: s =>
      if c.isDigit then readDigitsFrom count (10 * acc + digitValue c) s else none

/-- Reads exactly `count` digits and answers their number and the rest. -/
def readDigits (count : Nat) (s : List Char) : Option (Nat × List Char) :=
  readDigitsFrom count 0 s

/-- Reads exactly `count` digits whose number is at most `limit`. -/
def readAtMost (limit count : Nat) (s : List Char) : Option (Nat × List Char) :=
  match readDigits count s with
  | some (n, rest) => if n ≤ limit then some (n, rest) else none
  | none => none

/-- The first digits of a text, at most `limit` of them, and the rest. -/
def spanDigits : (limit : Nat) → List Char → List Char × List Char
  | 0, s => ([], s)
  | _ + 1, [] => ([], [])
  | limit + 1, c :: s =>
      if c.isDigit then
        let (digits, rest) := spanDigits limit s
        (c :: digits, rest)
      else ([], c :: s)

/-- The number that a row of digits stands for. -/
def digitsValue (digits : List Char) : Nat :=
  digits.foldl (fun acc c => 10 * acc + digitValue c) 0

theorem digitChar_isDigit {d : Nat} (h : d < 10) : (digitChar d).isDigit = true := by
  have all : ∀ e ∈ List.range 10, (digitChar e).isDigit = true := by decide
  exact all d (List.mem_range.2 h)

theorem digitValue_digitChar {d : Nat} (h : d < 10) : digitValue (digitChar d) = d := by
  have all : ∀ e ∈ List.range 10, digitValue (digitChar e) = e := by decide
  exact all d (List.mem_range.2 h)

@[simp] theorem length_padded (width n : Nat) : (padded width n).length = width := by
  induction width generalizing n with
  | zero => rfl
  | succ width ih => simp [padded, ih]

theorem tenTo_pos (n : Nat) : 0 < tenTo n := by
  induction n with
  | zero => decide
  | succ n ih => rw [tenTo]; omega

theorem readDigitsFrom_padded (width : Nat) : ∀ (n acc : Nat) (count : Nat) (rest : List Char),
    readDigitsFrom (width + count) acc (padded width n ++ rest) =
      readDigitsFrom count (tenTo width * acc + n % tenTo width) rest := by
  induction width with
  | zero => intro n acc count rest; simp [padded, tenTo, Nat.mod_one]
  | succ width ih =>
    intro n acc count rest
    rw [padded, List.append_assoc, show width + 1 + count = width + (count + 1) by omega, ih,
      List.singleton_append, readDigitsFrom, digitChar_isDigit (Nat.mod_lt _ (by omega)),
      digitValue_digitChar (Nat.mod_lt _ (by omega)), if_pos rfl]
    congr 1
    rw [tenTo, Nat.mod_mul, Nat.mul_add, Nat.mul_assoc]
    omega

/-- What was written with fixed width is read back, whatever follows. -/
theorem readDigits_padded {width n : Nat} (h : n < tenTo width) (rest : List Char) :
    readDigits width (padded width n ++ rest) = some (n, rest) := by
  have := readDigitsFrom_padded width n 0 0 rest
  simpa [readDigits, readDigitsFrom, Nat.mod_eq_of_lt h] using this

end WallClock.Text

/-!
Hexadecimal digits. They are written in lower case and read in either.
-/

namespace WallClock.Text

/-- The hexadecimal digit of the number `d`, which is below sixteen. -/
def hexChar (d : Nat) : Char :=
  Char.ofNat (if d < 10 then 48 + d else 87 + d)

/-- The number that a hexadecimal digit stands for. -/
def hexValue? (c : Char) : Option Nat :=
  if '0' ≤ c ∧ c ≤ '9' then some (c.toNat - 48)
  else if 'a' ≤ c ∧ c ≤ 'f' then some (c.toNat - 87)
  else if 'A' ≤ c ∧ c ≤ 'F' then some (c.toNat - 55)
  else none

end WallClock.Text

/-!
Blank characters and trimming. Names and timestamps are trimmed of every character with the
property White_Space, which is more than the blanks of ASCII.
-/

namespace WallClock.Text

/-- The twenty-five characters with the property White_Space. -/
def isBlank (c : Char) : Bool :=
  let n := c.toNat
  (9 ≤ n && n ≤ 13) || n == 0x20 || n == 0x85 || n == 0xA0 || n == 0x1680 ||
    (0x2000 ≤ n && n ≤ 0x200A) || n == 0x2028 || n == 0x2029 || n == 0x202F || n == 0x205F ||
    n == 0x3000

/-- A text without the blanks at its two ends. -/
def trim (s : List Char) : List Char :=
  ((s.dropWhile isBlank).reverse.dropWhile isBlank).reverse

/-- The string without the blanks at its two ends. -/
def trimmed (s : String) : String :=
  String.ofList (trim s.toList)

end WallClock.Text

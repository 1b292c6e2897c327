/-!
Comparison without regard to the case of ASCII letters. Zone names and search texts are folded to
lower case letter by letter; characters outside ASCII are left as they are.
-/

namespace WallClock.Text

/-- The text with the letters A to Z in lower case. -/
def fold (s : List Char) : List Char :=
  s.map Char.toLower

theorem toLower_eq_self {c : Char} (h : c.toNat < 65 ∨ 90 < c.toNat) : c.toLower = c := by
  delta Char.toLower
  rw [dif_neg]
  intro hupper
  have hlow : 65 ≤ c.toNat := hupper.1
  have hhigh : c.toNat ≤ 90 := hupper.2
  omega

/-- The string with the letters A to Z in lower case. -/
def folded (s : String) : String :=
  String.ofList (fold s.toList)

/-- Whether `needle` stands somewhere in the text, character for character. -/
def occursIn (needle : List Char) : List Char → Bool
  | [] => needle.isEmpty
  | c :: rest => needle.isPrefixOf (c :: rest) || occursIn needle rest

/-- Whether `needle` stands somewhere in `text`, the case of ASCII letters disregarded. -/
def containsFolded (text needle : String) : Bool :=
  occursIn (fold needle.toList) (fold text.toList)

theorem occursIn_iff {needle s : List Char} : occursIn needle s = true ↔ needle <:+: s := by
  induction s with
  | nil => simp [occursIn]
  | cons c rest ih => rw [occursIn, Bool.or_eq_true, ih, List.infix_cons_iff, List.isPrefixOf_iff_prefix]

end WallClock.Text

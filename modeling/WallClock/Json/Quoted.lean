import WallClock.Text.Hex

/-!
Strings of JSON: characters between quotes, of which the quote, the backslash and the control
characters are escaped. `quoted` writes a string and `readQuoted` reads one. An escape may give half
of a surrogate pair; a string in which such a half stands alone has no characters to answer, but it
is a string all the same.
-/

namespace WallClock.Json

/-! ### Writing -/

/-- A character inside quotes. -/
def escaped (c : Char) : List Char :=
  if c = '"' then ['\\', '"']
  else if c = '\\' then ['\\', '\\']
  else if c = '\x08' then ['\\', 'b']
  else if c = '\t' then ['\\', 't']
  else if c = '\n' then ['\\', 'n']
  else if c = '\x0c' then ['\\', 'f']
  else if c = '\r' then ['\\', 'r']
  else if c.toNat < 32 then
    ['\\', 'u', '0', '0', Text.hexChar (c.toNat / 16), Text.hexChar (c.toNat % 16)]
  else [c]

/-- The string of these characters, with its quotes. -/
def quoted (s : List Char) : List Char :=
  '"' :: (s.flatMap escaped ++ ['"'])

/-! ### Reading -/

/-- The number of four hexadecimal digits. -/
def hexUnit? (a b c d : Char) : Option Nat := do
  let a ← Text.hexValue? a
  let b ← Text.hexValue? b
  let c ← Text.hexValue? c
  let d ← Text.hexValue? d
  some (((a * 16 + b) * 16 + c) * 16 + d)

/-- The first half of a surrogate pair. -/
def isHighHalf (unit : Nat) : Bool := 0xD800 ≤ unit && unit < 0xDC00

/-- The second half of a surrogate pair. -/
def isLowHalf (unit : Nat) : Bool := 0xDC00 ≤ unit && unit < 0xE000

/-- The character of a surrogate pair. -/
def ofHalves (high low : Nat) : Char :=
  Char.ofNat (0x10000 + (high - 0xD800) * 0x400 + (low - 0xDC00))

/-- The character of a backslash and one letter. -/
def unescaped? (c : Char) : Option Char :=
  if c = '"' ∨ c = '\\' ∨ c = '/' then some c
  else if c = 'b' then some '\x08'
  else if c = 'f' then some '\x0c'
  else if c = 'n' then some '\n'
  else if c = 'r' then some '\r'
  else if c = 't' then some '\t'
  else none

/-- A string of JSON that has been read: its characters, which are missing if half of a surrogate
pair stands alone, and the text after the closing quote. -/
abbrev Unquoted := Option (List Char) × List Char

/-- A character before what has been read. -/
def Unquoted.push (c : Char) (read : Option Unquoted) : Option Unquoted :=
  read.map fun (content, rest) => (content.map (c :: ·), rest)

/-- Half of a surrogate pair, standing alone, before what has been read. -/
def Unquoted.lose (read : Option Unquoted) : Option Unquoted :=
  read.map fun (_, rest) => (none, rest)

/-- What follows a first half that turns out to stand alone. -/
def Unquoted.after (high : Option Nat) (read : Option Unquoted) : Option Unquoted :=
  if high.isSome then lose read else read

/-- Reads a string from after its opening quote. `high` is the first half of a surrogate pair if one
has just been read. -/
def readQuotedFrom (high : Option Nat) : List Char → Option Unquoted
  | [] => none
  | '"' :: s => Unquoted.after high (some (some [], s))
  | '\\' :: 'u' :: a :: b :: c :: d :: s =>
      match hexUnit? a b c d with
      | none => none
      | some unit =>
          if isHighHalf unit then Unquoted.after high (readQuotedFrom (some unit) s)
          else if isLowHalf unit then
            match high with
            | some high => Unquoted.push (ofHalves high unit) (readQuotedFrom none s)
            | none => Unquoted.lose (readQuotedFrom none s)
          else Unquoted.after high (Unquoted.push (Char.ofNat unit) (readQuotedFrom none s))
  | '\\' :: c :: s =>
      match unescaped? c with
      | none => none
      | some c => Unquoted.after high (Unquoted.push c (readQuotedFrom none s))
  | c :: s =>
      if c.toNat < 32 ∨ c = '\\' then none
      else Unquoted.after high (Unquoted.push c (readQuotedFrom none s))

/-- Reads a string from after its opening quote. -/
def readQuoted (s : List Char) : Option Unquoted :=
  readQuotedFrom none s

theorem Unquoted.of_push {c : Char} {read : Option Unquoted} {r : Unquoted}
    (h : push c read = some r) : ∃ r', read = some r' ∧ r'.2 = r.2 := by
  obtain ⟨r', hr', rfl⟩ := Option.map_eq_some_iff.1 h
  exact ⟨r', hr', rfl⟩

theorem Unquoted.of_lose {read : Option Unquoted} {r : Unquoted} (h : lose read = some r) :
    ∃ r', read = some r' ∧ r'.2 = r.2 := by
  obtain ⟨r', hr', rfl⟩ := Option.map_eq_some_iff.1 h
  exact ⟨r', hr', rfl⟩

theorem Unquoted.of_after {high : Option Nat} {read : Option Unquoted} {r : Unquoted}
    (h : after high read = some r) : ∃ r', read = some r' ∧ r'.2 = r.2 := by
  unfold after at h
  split at h
  · exact of_lose h
  · exact ⟨r, h, rfl⟩

theorem Unquoted.of_after_push {high : Option Nat} {c : Char} {read : Option Unquoted} {r : Unquoted}
    (h : after high (push c read) = some r) : ∃ r', read = some r' ∧ r'.2 = r.2 := by
  obtain ⟨r', hr', hrest⟩ := of_after h
  obtain ⟨r'', hr'', hrest'⟩ := of_push hr'
  exact ⟨r'', hr'', hrest'.trans hrest⟩

theorem length_of_readQuotedFrom {high : Option Nat} {s rest : List Char}
    {content : Option (List Char)} (h : readQuotedFrom high s = some (content, rest)) :
    rest.length < s.length := by
  fun_induction readQuotedFrom high s generalizing content rest with
  | case1 => simp at h
  | case2 =>
    obtain ⟨r, hr, hrest⟩ := Unquoted.of_after h
    cases hr
    simp_all
  | case3 => simp at h
  | case4 _ _ _ _ _ _ _ _ _ ih =>
    obtain ⟨⟨_, _⟩, hr, hrest⟩ := Unquoted.of_after h
    have := ih hr
    simp_all
    omega
  | case5 _ _ _ _ _ _ _ _ _ _ ih =>
    obtain ⟨⟨_, _⟩, hr, hrest⟩ := Unquoted.of_push h
    have := ih hr
    simp_all
    omega
  | case6 _ _ _ _ _ _ _ _ _ ih =>
    obtain ⟨⟨_, _⟩, hr, hrest⟩ := Unquoted.of_lose h
    have := ih hr
    simp_all
    omega
  | case7 _ _ _ _ _ _ _ _ _ _ ih =>
    obtain ⟨⟨_, _⟩, hr, hrest⟩ := Unquoted.of_after_push h
    have := ih hr
    simp_all
    omega
  | case8 => simp at h
  | case9 _ _ _ _ _ _ ih =>
    obtain ⟨⟨_, _⟩, hr, hrest⟩ := Unquoted.of_after_push h
    have := ih hr
    simp_all
    omega
  | case10 => simp at h
  | case11 _ _ _ _ _ _ _ ih =>
    obtain ⟨⟨_, _⟩, hr, hrest⟩ := Unquoted.of_after_push h
    have := ih hr
    simp_all
    omega

/-- A string takes at least its closing quote. -/
theorem length_of_readQuoted {s rest : List Char} {content : Option (List Char)}
    (h : readQuoted s = some (content, rest)) : rest.length < s.length :=
  length_of_readQuotedFrom h

end WallClock.Json

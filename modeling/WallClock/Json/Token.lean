import WallClock.Json.Number
import WallClock.Json.Quoted

/-!
Tokens of JSON: brackets, marks, words, numbers and strings. `spelling` writes a token and `ofText?`
takes a text apart into its tokens. Blanks between tokens are passed over, so that a text means what
its tokens mean, however it is laid out.
-/

namespace WallClock.Json

/-- The content of a string: its characters, or nothing if half of a surrogate pair stands alone in
it. -/
abbrev Content := Option (List Char)

inductive Token where
  | openArray
  | closeArray
  | openObject
  | closeObject
  | comma
  | colon
  | null
  | bool (value : Bool)
  | number (spelling : List Char)
  | string (content : Content)
deriving DecidableEq

namespace Token

/-- A token as it is written. A string without content is written as half of a surrogate pair. -/
def spelling : Token → List Char
  | openArray => ['[']
  | closeArray => [']']
  | openObject => ['\x7b']
  | closeObject => ['\x7d']
  | comma => [',']
  | colon => [':']
  | null => ['n', 'u', 'l', 'l']
  | bool true => ['t', 'r', 'u', 'e']
  | bool false => ['f', 'a', 'l', 's', 'e']
  | number spelling => spelling
  | string (some content) => quoted content
  | string none => ['"', '\\', 'u', 'd', '8', '0', '0', '"']

/-- The token at the front of a text that begins with none of the brackets, marks and words. -/
def readLong? : List Char → Option (Token × List Char)
  | '"' :: s => (readQuoted s).map fun (content, rest) => (string content, rest)
  | s => (readNumber s).map fun (spelling, rest) => (number spelling, rest)

/-- The token at the front of a text and what follows it. -/
def read? : List Char → Option (Token × List Char)
  | '[' :: s => some (openArray, s)
  | ']' :: s => some (closeArray, s)
  | '\x7b' :: s => some (openObject, s)
  | '\x7d' :: s => some (closeObject, s)
  | ',' :: s => some (comma, s)
  | ':' :: s => some (colon, s)
  | 'n' :: 'u' :: 'l' :: 'l' :: s => some (null, s)
  | 't' :: 'r' :: 'u' :: 'e' :: s => some (bool true, s)
  | 'f' :: 'a' :: 'l' :: 's' :: 'e' :: s => some (bool false, s)
  | s => readLong? s

end Token

namespace Token

/-- A token takes at least one character. -/
theorem length_of_read? {s rest : List Char} {t : Token} (h : read? s = some (t, rest)) :
    rest.length < s.length := by
  unfold read? at h
  split at h
  case h_10 s _ _ _ _ _ _ _ _ _ =>
    unfold readLong? at h
    split at h
    · obtain ⟨⟨content, rest'⟩, hread, heq⟩ := Option.map_eq_some_iff.1 h
      cases heq
      have := length_of_readQuoted hread
      simp
      omega
    · obtain ⟨⟨spelling, rest'⟩, hread, heq⟩ := Option.map_eq_some_iff.1 h
      cases heq
      exact length_of_readNumber hread
  all_goals
    cases h
    simp
    try omega

/-- The blanks that may stand between tokens. -/
def isSpace (c : Char) : Bool :=
  c == ' ' || c == '\t' || c == '\n' || c == '\r'

def ofText? (s : List Char) : Option (List Token) :=
  match s with
  | [] => some []
  | c :: rest =>
      if isSpace c then ofText? rest
      else
        match h : read? (c :: rest) with
        | none => none
        | some (t, rest') =>
            have := length_of_read? h
            (ofText? rest').map (t :: ·)
termination_by s.length
decreasing_by all_goals simp_all

end Token

end WallClock.Json

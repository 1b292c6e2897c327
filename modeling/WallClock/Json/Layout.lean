import WallClock.Json.Value

/-!
The two layouts of JSON. The compact one writes token after token. The pretty one gives each
element and each member a line of its own, indented by two blanks for each array or object that is
open; an empty array or object stays on its line.
-/

namespace WallClock.Json

namespace Token

/-- The end of a line and the indentation of the next. -/
def lineBreak (depth : Nat) : List Char :=
  '\n' :: List.replicate (2 * depth) ' '

/-- The tokens without any blanks. -/
def compact (ts : List Token) : List Char :=
  ts.flatMap spelling

/-- The tokens in lines, `depth` arrays and objects being open. -/
def pretty (depth : Nat) : List Token → List Char
  | [] => []
  | openArray :: closeArray :: ts => '[' :: ']' :: pretty depth ts
  | openObject :: closeObject :: ts => '\x7b' :: '\x7d' :: pretty depth ts
  | openArray :: ts => '[' :: (lineBreak (depth + 1) ++ pretty (depth + 1) ts)
  | openObject :: ts => '\x7b' :: (lineBreak (depth + 1) ++ pretty (depth + 1) ts)
  | closeArray :: ts => lineBreak (depth - 1) ++ ']' :: pretty (depth - 1) ts
  | closeObject :: ts => lineBreak (depth - 1) ++ '\x7d' :: pretty (depth - 1) ts
  | comma :: ts => ',' :: (lineBreak depth ++ pretty depth ts)
  | colon :: ts => ':' :: ' ' :: pretty depth ts
  | t :: ts => spelling t ++ pretty depth ts

end Token

namespace Value

/-- The value on one line, without blanks. -/
def compact (v : Value) : String :=
  String.ofList (Token.compact v.tokens)

/-- The value in indented lines. -/
def pretty (v : Value) : String :=
  String.ofList (Token.pretty 0 v.tokens)

end Value

end WallClock.Json

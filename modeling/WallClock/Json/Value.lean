import WallClock.Json.Token

/-!
Values of JSON and their tokens. `tokens` spells a value out, and `ofTokens?` reads one back. The
reader keeps the arrays and objects that are still open on a stack, so values may be nested to any
depth. Members of an object stay in order, and names may occur more than once.
-/

namespace WallClock.Json

inductive Value where
  | null
  | bool (value : Bool)
  | number (spelling : List Char)
  | string (content : Content)
  | array (elements : List Value)
  | object (members : List (Content × Value))

namespace Value

def ofString (s : String) : Value :=
  string (some s.toList)

def ofMembers (members : List (String × Value)) : Value :=
  object (members.map fun (name, value) => (some name.toList, value))

/-- The characters of a string that has content. -/
def string? : Value → Option String
  | string (some content) => some (String.ofList content)
  | _ => none

def bool? : Value → Option Bool
  | bool value => some value
  | _ => none

def array? : Value → Option (List Value)
  | array elements => some elements
  | _ => none

/-! ### Tokens -/

mutual

def tokens : Value → List Token
  | null => [.null]
  | bool value => [.bool value]
  | number spelling => [.number spelling]
  | string content => [.string content]
  | array [] => [.openArray, .closeArray]
  | array (first :: rest) => .openArray :: (tokens first ++ elementTokens rest)
  | object [] => [.openObject, .closeObject]
  | object (first :: rest) => .openObject :: (memberTokens first ++ memberListTokens rest)

/-- The tokens of further elements, each after a comma, and of the end of the array. -/
def elementTokens : List Value → List Token
  | [] => [.closeArray]
  | value :: rest => .comma :: (tokens value ++ elementTokens rest)

/-- The tokens of a name and its value. -/
def memberTokens : Content × Value → List Token
  | (name, value) => .string name :: .colon :: tokens value

/-- The tokens of further members, each after a comma, and of the end of the object. -/
def memberListTokens : List (Content × Value) → List Token
  | [] => [.closeObject]
  | member :: rest => .comma :: (memberTokens member ++ memberListTokens rest)

end

/-! ### Reading -/

/-- An array or object that is still open, with what it holds so far in reverse. An object is open
at a member whose name is known. -/
inductive Frame where
  | array (done : List Value)
  | object (done : List (Content × Value)) (name : Content)

/-- What is due next. -/
inductive Due where
  /-- A value. -/
  | value
  /-- A value or the end of an array that is still empty. -/
  | firstElement
  /-- A name or the end of an object that is still empty. -/
  | firstName
  /-- A name, after the members that are done. -/
  | name (done : List (Content × Value))
  /-- The colon after a name. -/
  | colon (done : List (Content × Value)) (name : Content)
  /-- What follows a value that is complete. -/
  | afterValue (value : Value)

/-- What a token stands for where a value is due: a value, or the beginning of one. -/
def begin? : Token → Option Due
  | .null => some (.afterValue null)
  | .bool value => some (.afterValue (bool value))
  | .number spelling => some (.afterValue (number spelling))
  | .string content => some (.afterValue (string content))
  | .openArray => some .firstElement
  | .openObject => some .firstName
  | _ => none

/-- One token further. -/
def step? : Due → List Frame → Token → Option (Due × List Frame)
  | .value, stack, t => (begin? t).map (·, stack)
  | .firstElement, stack, .closeArray => some (.afterValue (array []), stack)
  | .firstElement, stack, t => (begin? t).map (·, .array [] :: stack)
  | .firstName, stack, .closeObject => some (.afterValue (object []), stack)
  | .firstName, stack, .string name => some (.colon [] name, stack)
  | .name done, stack, .string name => some (.colon done name, stack)
  | .colon done name, stack, .colon => some (.value, .object done name :: stack)
  | .afterValue value, .array done :: stack, .comma =>
      some (.value, .array (value :: done) :: stack)
  | .afterValue value, .array done :: stack, .closeArray =>
      some (.afterValue (array (value :: done).reverse), stack)
  | .afterValue value, .object done name :: stack, .comma =>
      some (.name ((name, value) :: done), stack)
  | .afterValue value, .object done name :: stack, .closeObject =>
      some (.afterValue (object ((name, value) :: done).reverse), stack)
  | _, _, _ => none

/-- Reads on from what is due inside the open frames. -/
def readFrom : Due → List Frame → List Token → Option Value
  | .afterValue value, [], [] => some value
  | _, _, [] => none
  | due, stack, t :: ts =>
      match step? due stack t with
      | some (due, stack) => readFrom due stack ts
      | none => none

/-- The value that the tokens spell out. -/
def ofTokens? (ts : List Token) : Option Value :=
  readFrom .value [] ts

def ofText? (s : List Char) : Option Value :=
  (Token.ofText? s).bind ofTokens?

def parse? (s : String) : Option Value :=
  ofText? s.toList

end Value

end WallClock.Json

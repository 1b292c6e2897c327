import WallClock.Error

/-!
Failures of commands: what was being done, and the chain of causes, each the cause of the one before
it. Further lines of a cause are indented as far as its first.
-/

namespace WallClock.Command

/-- What was being done when a command failed, and why it failed. -/
structure Failure where
  context : String
  causes : List String := []
deriving DecidableEq, Repr

namespace Failure

/-- A failure by an error, which may have a cause of its own. -/
def ofError (context : String) (e : Error) : Failure where
  context := context
  causes := e.message :: e.source?.toList

/-- The text with each further line after the indentation. -/
def indented (indentation : List Char) : List Char → List Char
  | [] => []
  | c :: s => if c = '\n' then '\n' :: (indentation ++ indented indentation s)
      else c :: indented indentation s

def blanks (n : Nat) : List Char :=
  List.replicate n ' '

/-- A number at the end of a field of five characters. -/
def field (n : Nat) : List Char :=
  let digits := (toString n).toList
  blanks (5 - digits.length) ++ digits

/-- A cause that is the only one. -/
def onlyCause (cause : String) : List Char :=
  blanks 4 ++ indented (blanks 4) cause.toList

/-- Causes from number `n` on, each on a new line. -/
def numberedCauses (n : Nat) : List String → List Char
  | [] => []
  | cause :: rest =>
      '\n' :: (field n ++ ':' :: ' ' :: indented (blanks 7) cause.toList) ++
        numberedCauses (n + 1) rest

/-- The causes below what was being done. -/
def causesText : List String → List Char
  | [] => []
  | [cause] => "\n\nCaused by:\n".toList ++ onlyCause cause
  | causes => "\n\nCaused by:".toList ++ numberedCauses 0 causes

def text (f : Failure) : String :=
  "Error: " ++ f.context ++ String.ofList (causesText f.causes) ++ "\n"

end Failure

end WallClock.Command

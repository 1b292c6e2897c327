import WallClock.Command
import WallClock.Command.Arguments

/-!
What is told of the use of the program. The texts belong to whatever reads the arguments, and any may be
in use. Those at the end are short ones that stand in for them.
-/

namespace WallClock.Command

/-- The texts about the use of the program. They may depend on all of the arguments: a line on the usage
may repeat the switches that were given. -/
class Wording where
  /-- What is written when help is asked for. -/
  help : List String → String
  /-- What is told of arguments that are not understood. -/
  misuse : List String → Misuse → String

def Misuse.message : Misuse → String
  | unknownSwitch spelling => "unexpected argument '" ++ spelling ++ "' found"
  | unexpectedWord word => "unexpected argument '" ++ word ++ "' found"
  | unexpectedValue name => "unexpected value for '--" ++ name ++ "' found"
  | missingValue name => "a value is required for '--" ++ name ++ "' but none was supplied"
  | unusable value => "invalid value '" ++ value ++ "'"
  | repeated name => "the argument '--" ++ name ++ "' cannot be used multiple times"
  | missingWord what => "the following required argument was not provided: " ++ what
  | missingCommand => "a command is required but none was provided"

/-- Texts of one line. -/
instance Wording.short : Wording where
  help _ := "Usage: " ++ programName ++ " [OPTIONS] [COMMAND]\n"
  misuse _ m := "error: " ++ m.message ++ "\n"

end WallClock.Command

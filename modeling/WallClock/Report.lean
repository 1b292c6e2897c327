/-!
Reports: lines of text in which `**` and `*` mark words as bold and italic. `plain` gives a report
as it is; `Report.Style` paints it for a terminal.
-/

namespace WallClock

structure Report where
  lines : List String
deriving DecidableEq, Repr

namespace Report

/-- The report as text, each line with its end. -/
def plain (r : Report) : String :=
  String.join (r.lines.map (· ++ "\n"))

/-- A line that says whether something went well. -/
def status (success : Bool) (message : String) : Report where
  lines := [(if success then "Success:" else "Error:") ++ " " ++ message]

/-- A line that gives the value of something named. -/
def field (name value : String) : String :=
  "**" ++ name ++ "**: " ++ value

end Report

end WallClock

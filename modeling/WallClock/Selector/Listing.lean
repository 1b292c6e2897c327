import WallClock.Report
import WallClock.Selector

/-!
The selector as a report: how many names there are, whether some may be missing, and a line for each
name, of which the selected one is marked.
-/

namespace WallClock.Selector

def entry (s : Selector) (name : String) : String :=
  if s.isSelected name then "* **" ++ name ++ "** (selected)" else "* " ++ name

/-- The line that stands in a selector which does not offer all zones. -/
def incompleteNotice : String := "*Zone list unavailable, showing detected zone only*"

def listing (s : Selector) : Report where
  lines :=
    if s.isEmpty then ["No zones found."]
    else
      ("# Time zones (" ++ toString s.size ++ ")") ::
        ((if s.complete then [] else [incompleteNotice]) ++ "" :: s.zones.map s.entry)

end WallClock.Selector

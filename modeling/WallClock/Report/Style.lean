import WallClock.Report

/-!
Reports in colour. Headings keep their marks and are blue; `Success:` and `Error:` at the start of a
line are green and red; elsewhere the marks `**` and `*` turn bold and italic on and off and are
themselves not shown. A run of text in one style stands between the sequences that begin and end
the style.
-/

namespace WallClock.Report

/-- Bold and italic, each on or off. -/
structure Emphasis where
  bold : Bool := false
  italic : Bool := false
deriving DecidableEq, Repr

/-- The sequence that sends the terminal the given code. -/
def sequence (code : String) : List Char :=
  '\x1b' :: '[' :: (code.toList ++ ['m'])

def reset : List Char := sequence "0"

namespace Emphasis

/-- What begins text of this emphasis. The colour is that of bold text if it is bold. -/
def start (e : Emphasis) : List Char :=
  (if e.bold then sequence "38;5;11" ++ sequence "1"
    else if e.italic then sequence "38;5;13" else []) ++
  if e.italic then sequence "3" else []

end Emphasis

/-- Text of one emphasis. -/
structure Run where
  emphasis : Emphasis
  text : List Char
deriving DecidableEq, Repr

/-- A run as the terminal gets it. Nothing is sent for a run without text. -/
def Run.painted (r : Run) : List Char :=
  if r.text = [] ∨ r.emphasis = {} then r.text else r.emphasis.start ++ r.text ++ reset

/-- The runs of a line. `text` is what the current run has so far, in reverse. -/
def runsFrom (e : Emphasis) (text : List Char) : List Char → List Run
  | [] => [⟨e, text.reverse⟩]
  | '*' :: '*' :: s => ⟨e, text.reverse⟩ :: runsFrom { e with bold := !e.bold } [] s
  | '*' :: s => ⟨e, text.reverse⟩ :: runsFrom { e with italic := !e.italic } [] s
  | c :: s => runsFrom e (c :: text) s

def runs (s : List Char) : List Run :=
  runsFrom {} [] s

/-- The text with its marks turned into styles. -/
def paintedRuns (s : List Char) : List Char :=
  (runs s).flatMap Run.painted

/-- The text in one colour. -/
def coloured (code : String) (s : List Char) : List Char :=
  sequence code ++ s ++ reset

/-- The text that follows `start`, if the line begins with it. -/
def after? (start : String) (line : List Char) : Option (List Char) :=
  if start.toList.isPrefixOf line then some (line.drop start.toList.length) else none

/-- A line for the terminal. -/
def painted (line : List Char) : List Char :=
  if line.head? = some '#' then coloured "34" line
  else
    match after? "Success:" line with
    | some rest => coloured "32" "Success:".toList ++ paintedRuns rest
    | none =>
        match after? "Error:" line with
        | some rest => coloured "31" "Error:".toList ++ paintedRuns rest
        | none => paintedRuns line

/-- The report for a terminal, each line with its end. -/
def styled (r : Report) : String :=
  String.join (r.lines.map fun line => String.ofList (painted line.toList ++ ['\n']))

end WallClock.Report

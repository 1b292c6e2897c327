/-!
Rows taken apart at a mark: at every one of them by `parts`, and at the first one by `cut`.
-/

namespace WallClock.Text

variable {α : Type} [DecidableEq α]

/-- Takes a row apart. `part` is what the current part has so far, in reverse. -/
def partsFrom (mark : α) (part : List α) : List α → List (List α)
  | [] => [part.reverse]
  | a :: s =>
      if a = mark then part.reverse :: partsFrom mark [] s else partsFrom mark (a :: part) s

/-- The parts of a row between its marks. -/
def parts (mark : α) (s : List α) : List (List α) :=
  partsFrom mark [] s

/-- What stands before the first mark, and what stands after it if there is one. -/
def cut (mark : α) : List α → List α × Option (List α)
  | [] => ([], none)
  | a :: s =>
      if a = mark then ([], some s)
      else
        let (front, rest) := cut mark s
        (a :: front, rest)

end WallClock.Text

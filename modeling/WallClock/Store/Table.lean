import WallClock.Text.Case

/-!
The table in which a database keeps preferences, and the statements that work on it. A statement
finds the columns it names without regard to case and is refused when one is missing. Rows hold a
key, a value and the time of writing; a cell of a column that a table does not have is null.
-/

namespace WallClock.Store

inductive Cell where
  | null
  | text (content : String)
  /-- Bytes, which are not taken for text whatever they are. -/
  | bytes
deriving DecidableEq, Repr

/-- The text of a cell that holds text. -/
def Cell.text? : Cell → Option String
  | text content => some content
  | _ => none

structure Row where
  key : Cell
  value : Cell
  updatedAt : Cell
deriving DecidableEq, Repr

/-- A column. A computed column has its name in use but is not listed among the columns of its
table. -/
structure Column where
  name : String
  computed : Bool := false
deriving DecidableEq, Repr

structure Table where
  name : String
  columns : List Column
  /-- Whether no two rows have the same key. -/
  keyed : Bool
  rows : List Row
deriving DecidableEq, Repr

/-- Why a statement was refused. -/
inductive Refusal where
  | noColumn (name : String)
  | duplicateColumn (name : String)
  | noUniqueKey
  | noText (column : String)
  /-- The database is there to be read only. -/
  | readOnly
  /-- A file that the statement needs cannot be opened. -/
  | noFile
  /-- A file that the statement needs cannot be read or removed. -/
  | noAccess
  /-- Somebody else has the database. -/
  | locked
deriving DecidableEq, Repr

namespace Refusal

def message : Refusal → String
  | noColumn name => "no such column: " ++ name
  | duplicateColumn name => "duplicate column name: " ++ name
  | noUniqueKey => "no unique key to resolve conflicts on"
  | noText column => "no text in column: " ++ column
  | readOnly => "attempt to write a readonly database"
  | noFile => "unable to open database file"
  | noAccess => "disk I/O error"
  | locked => "database is locked"

end Refusal

namespace Table

/-- The name under which the table of preferences is made. -/
def preferences : String := "preferences"

def keyColumn : String := "key"

def valueColumn : String := "value"

def updatedAtColumn : String := "updated_at"

def empty : Table where
  name := preferences
  columns := [⟨keyColumn, false⟩, ⟨valueColumn, false⟩, ⟨updatedAtColumn, false⟩]
  keyed := true
  rows := []

/-- Whether a statement finds a column of this name. -/
def finds (t : Table) (column : String) : Bool :=
  t.columns.any fun c => Text.folded c.name == Text.folded column

/-- Whether the table lists a column of exactly this name. -/
def lists (t : Table) (column : String) : Bool :=
  t.columns.any fun c => !c.computed && c.name == column

/-- The first of the columns that a statement does not find. -/
def missing? (t : Table) (columns : List String) : Option String :=
  columns.find? fun column => !t.finds column

def row? (t : Table) (key : String) : Option Row :=
  t.rows.find? fun row => row.key == .text key

/-- The value and the time of writing of the first row with the key. -/
def select (t : Table) (key : String) : Except Refusal (Option (String × String)) :=
  match t.missing? [valueColumn, updatedAtColumn, keyColumn] with
  | some column => .error (.noColumn column)
  | none =>
      match t.row? key with
      | none => .ok none
      | some row =>
          match row.value.text?, row.updatedAt.text? with
          | none, _ => .error (.noText valueColumn)
          | _, none => .error (.noText updatedAtColumn)
          | some value, some updatedAt => .ok (some (value, updatedAt))

/-- The rows with a value and a time of writing under the key, in the place of the row that had it
or as a new row at the end. -/
def upserted (key value updatedAt : String) : List Row → List Row
  | [] => [⟨.text key, .text value, .text updatedAt⟩]
  | row :: rest =>
      if row.key = .text key then ⟨.text key, .text value, .text updatedAt⟩ :: rest
      else row :: upserted key value updatedAt rest

/-- Writes a value and a time of writing under the key. -/
def upsert (t : Table) (key value updatedAt : String) : Except Refusal Table :=
  match t.missing? [keyColumn, valueColumn, updatedAtColumn] with
  | some column => .error (.noColumn column)
  | none =>
      if t.keyed then .ok { t with rows := upserted key value updatedAt t.rows }
      else .error .noUniqueKey

/-- Removes the rows with the key and answers whether there were any. -/
def delete (t : Table) (key : String) : Except Refusal (Bool × Table) :=
  if t.finds keyColumn then
    .ok ((t.row? key).isSome, { t with rows := t.rows.filter fun row => row.key != .text key })
  else .error (.noColumn keyColumn)

/-- Adds the column of the time of writing, which is empty in the rows that are there. -/
def addUpdatedAt (t : Table) : Except Refusal Table :=
  if t.finds updatedAtColumn then .error (.duplicateColumn updatedAtColumn)
  else
    .ok { t with
      columns := t.columns ++ [⟨updatedAtColumn, false⟩]
      rows := t.rows.map fun row => { row with updatedAt := .text "" } }

end Table

end WallClock.Store

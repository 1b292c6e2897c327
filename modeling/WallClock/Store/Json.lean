import WallClock.Json.Layout
import WallClock.Store.Database

/-!
The file of a database: its table as JSON. Text that is not the JSON of a table is no database, if
there is more than one byte of it.
-/

namespace WallClock.Store

open Json

namespace Cell

/-- The JSON of a cell. Bytes become an empty array. -/
def toJson : Cell → Value
  | null => .null
  | text content => .ofString content
  | bytes => .array []

def ofJson? : Value → Option Cell
  | .null => some null
  | .string (some content) => some (text (String.ofList content))
  | .array [] => some bytes
  | _ => none

end Cell

namespace Row

def toJson (r : Row) : Value :=
  .array [r.key.toJson, r.value.toJson, r.updatedAt.toJson]

def ofJson? : Value → Option Row
  | .array [key, value, updatedAt] => do
      let key ← Cell.ofJson? key
      let value ← Cell.ofJson? value
      let updatedAt ← Cell.ofJson? updatedAt
      some ⟨key, value, updatedAt⟩
  | _ => none

end Row

namespace Column

def toJson (c : Column) : Value :=
  .array [.ofString c.name, .bool c.computed]

def ofJson? : Value → Option Column
  | .array [name, computed] => do
      let name ← name.string?
      let computed ← computed.bool?
      some ⟨name, computed⟩
  | _ => none

end Column

namespace Table

def toJson (t : Table) : Value :=
  .array [.ofString t.name, .array (t.columns.map Column.toJson), .bool t.keyed,
    .array (t.rows.map Row.toJson)]

def ofJson? : Value → Option Table
  | .array [name, columns, keyed, rows] => do
      let name ← name.string?
      let columns ← columns.array?
      let columns ← columns.mapM Column.ofJson?
      let keyed ← keyed.bool?
      let rows ← rows.array?
      let rows ← rows.mapM Row.ofJson?
      some ⟨name, columns, keyed, rows⟩
  | _ => none

end Table

namespace Storage

/-- The text of a file with this storage, if it has one that can be written. -/
def fileText? : Storage → Option String
  | empty => some ""
  | database (some t) => some (t.toJson.compact ++ "\n")
  | _ => none

/-- What a file of this text has. -/
def ofFileText (text : String) : Storage :=
  if text.utf8ByteSize = 0 then .empty
  else if text.utf8ByteSize = 1 then .singleByte
  else
    match (Value.parse? text).bind Table.ofJson? with
    | some t => .database (some t)
    | none => .foreign

end Storage

end WallClock.Store

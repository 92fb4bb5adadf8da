import Readership.Json.Reader
import Readership.Server.Column
import Readership.Server.Fault

/-!
# A server's answer

An answer is a table: columns, and rows of JSON cells in their order. It comes
as a document that lists the columns with their types under `meta` and the
rows under `data`; a row with another number of cells than there are columns
makes the whole answer useless.
-/

namespace Readership

/-- **A table of cells.** -/
structure Answer where
  columns : List Column
  rows : List (List Json)
  /-- The time it took, in milliseconds. -/
  elapsed : Nat

namespace Answer

/-- The answer without columns and rows. -/
def empty : Answer := ⟨[], [], 0⟩

/-- The position of the first column with a name. -/
def columnIndex? (a : Answer) (name : String) : Option Nat :=
  a.columns.findIdx? (·.name == name)

/-- The cell of a row under a name. -/
def cell? (a : Answer) (row : Nat) (name : String) : Option Json := do
  let i ← a.columnIndex? name
  let cells ← a.rows[row]?
  cells[i]?

/-- An answer as a record. -/
def toJson (a : Answer) : Json :=
  .object [("columns", .arr (a.columns.map Column.toJson)),
    ("rows", .arr (a.rows.map .arr)), ("elapsed_ms", .ofNat a.elapsed)]

/-- The value of a cell that stands `depth` arrays and objects deep. -/
def cellValue? (depth : Nat) (w : Json.Written) : Option Json :=
  w.value? (Json.maxDepth - depth)

/-- An answer from its record. -/
def ofWritten? (w : Json.Written) : Option Answer := do
  match ← w.record? ["columns", "rows", "elapsed_ms"] with
  | [some columns, some rows, some elapsed] =>
    pure ⟨← columns.list? Column.ofWritten?, ← rows.list? (·.list? (cellValue? 3)),
      ← elapsed.unsigned?⟩
  | _ => none

/-- The name and the type of a column. -/
def columnOfMeta? (w : Json.Written) : Option Column := do
  match ← w.record? ["name", "type"] with
  | [some name, some type] =>
    let name ← name.str?
    let type ← type.str?
    pure (Column.ofType name type)
  | _ => none

/-- The rows of a document; none if they are left out. -/
def rowsOfData? : Option Json.Written → Option (List (List Json))
  | none => some []
  | some w => w.list? (·.list? (cellValue? 3))

/-- The columns and the rows of a document. -/
def partsOfDocument? (w : Json.Written) : Option (List Column × List (List Json)) := do
  match ← w.record? ["meta", "data"] with
  | [some columns, data] => pure (← columns.list? columnOfMeta?, ← rowsOfData? data)
  | _ => none

/-- A row that does not have one cell a column. -/
def ragged? (columns : List Column) (rows : List (List Json)) : Option (List Json) :=
  rows.find? (·.length != columns.length)

/-- **The answer in a response body.** -/
def ofBody (body : String) : Except ServerFault Answer :=
  match (Json.written? body).bind partsOfDocument? with
  | none => .error (.answer "not a table of columns and rows")
  | some (columns, rows) =>
    match ragged? columns rows with
    | some row =>
      .error (.answer ("row has " ++ Numeral.ofNat row.length ++ " cells for "
        ++ Numeral.ofNat columns.length ++ " columns"))
    | none => .ok ⟨columns, rows, 0⟩

end Answer

end Readership

import Readership.Plan.Row
import Readership.Server.Answer
import Readership.Sql.Statement

/-!
# Rows of a plan in a server's answer

The statement of a plan gives each of its columns an alias, and by the aliases
the cells find their places in the rows, whatever the order of the columns.
Counts may come as numbers or as digits, since not every reader of JSON keeps
64-bit integers exact.
-/

namespace Readership.Answer

/-- The position of a column that must be there. -/
def requireColumn (a : Answer) (name : String) : Except Fault Nat :=
  match a.columnIndex? name with
  | some i => .ok i
  | none => .error (.result (.missingColumn name))

/-- The first day of a bucket, or null. -/
def bucketOfCell : Json → Except Fault (Option Date)
  | .null => .ok none
  | .str s =>
    match Calendar.exactDate? s with
    | some d => .ok (some d)
    | none => .error (.result (.bucketText s))
  | other => .error (.result (.bucketCell other))

/-- The natural number of 64 bits that a text spells. -/
def countOfText? (s : String) : Option Nat := do
  let n ← Numeral.signless? s.toList
  if Numeral.fitsUnsigned n then pure n else none

/-- The count in a cell, if it is one. -/
def count? : Json → Option Nat
  | .num n => n.unsigned?
  | .str s => countOfText? s
  | _ => none

/-- A count. -/
def countOfCell (cell : Json) : Except Fault Nat :=
  match count? cell with
  | some n => .ok n
  | none => .error (.result (.countCell cell))

/-- The cell at a place; null beyond the last. -/
def cellAt (cells : List Json) (i : Nat) : Json :=
  cells[i]?.getD .null

/-- **One row**, from the cells at the positions of its columns. -/
def rowOfCells (bucket : Option Nat) (keys : List (Field × Nat)) (values : List Nat)
    (cells : List Json) : Except Fault Row := do
  let bucket ←
    match bucket with
    | some i => bucketOfCell (cellAt cells i)
    | none => pure none
  let keys ← keys.mapM fun k => k.1.coerce (cellAt cells k.2)
  let values ← values.mapM fun i => countOfCell (cellAt cells i)
  pure ⟨bucket, keys, values⟩

/-- **The rows of a plan.** Missing columns are noticed before any cell is
read: the bucket, then the keys, then the counts. -/
def planRows (plan : Plan) (a : Answer) : Except Fault (List Row) := do
  let bucket ←
    match plan.bucket with
    | some _ => (a.requireColumn Sql.bucketAlias).map some
    | none => pure none
  let keys ← (List.range plan.groupBy.length).mapM fun i => a.requireColumn (Sql.keyAlias i)
  let values ← (List.range plan.aggregates.length).mapM fun i =>
    a.requireColumn (Sql.valueAlias i)
  a.rows.mapM (rowOfCells bucket (plan.groupBy.zip keys) values)

end Readership.Answer

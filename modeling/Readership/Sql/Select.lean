import Readership.Calendar.Bucket
import Readership.Sql.Spelling

/-!
# Select statements

A statement is kept as its clauses, in the order in which they were added, and
written out at the end. An empty clause is left out, an empty list of columns
means all of them.
-/

namespace Readership.Sql

/-- **A select statement**, clause by clause. -/
structure Select where
  table : String
  columns : List String
  filters : List String
  groupBy : List String
  orderBy : List String
  limit : Option Nat
deriving DecidableEq, Repr

namespace Select

/-- A statement about a table, without any clause. -/
def ofTable (table : String) : Select :=
  ⟨table, [], [], [], [], none⟩

/-- One more column. -/
def column (s : Select) (expression : String) : Select :=
  { s with columns := s.columns ++ [expression] }

/-- An expression under an alias. -/
def aliased (expression name : String) : String :=
  expression ++ " AS " ++ name

/-- One more column, under an alias. -/
def columnAs (s : Select) (expression name : String) : Select :=
  s.column (aliased expression name)

/-- One more condition. -/
def filter (s : Select) (condition : String) : Select :=
  { s with filters := s.filters ++ [condition] }

/-- One more expression to group by. -/
def group (s : Select) (expression : String) : Select :=
  { s with groupBy := s.groupBy ++ [expression] }

/-- One more expression to order by. -/
def order (s : Select) (expression : String) : Select :=
  { s with orderBy := s.orderBy ++ [expression] }

/-- An expression in descending order. -/
def descending (expression : String) : String :=
  expression ++ " DESC"

/-- At most `n` rows. -/
def limitTo (s : Select) (n : Nat) : Select :=
  { s with limit := some n }

/-- The function that finds the first day of a bucket. -/
def bucketFunction : Bucket → String
  | .day => "toDate"
  | .week => "toMonday"
  | .month => "toStartOfMonth"
  | .year => "toStartOfYear"

/-- The first day of a bucket, in UTC, as text. -/
def bucketExpression (b : Bucket) (column : String) : String :=
  "toString(" ++ bucketFunction b ++ "(" ++ column ++ ", 'UTC'))"

/-- **A bucket**, selected and grouped by before everything else. -/
def bucket (s : Select) (b : Bucket) (column name : String) : Select :=
  { s with
    columns := aliased (bucketExpression b column) name :: s.columns
    groupBy := name :: s.groupBy }

/-- A clause of several parts, left out if there are none. -/
def clause (keyword separator : String) (parts : List String) : String :=
  if parts.isEmpty then "" else keyword ++ Text.joinWith separator parts

/-- **The text of a statement.** -/
def text (s : Select) : String :=
  "SELECT " ++ (if s.columns.isEmpty then "*" else Text.joinWith ", " s.columns)
    ++ " FROM " ++ s.table
    ++ clause " WHERE " " AND " s.filters
    ++ clause " GROUP BY " ", " s.groupBy
    ++ clause " ORDER BY " ", " s.orderBy
    ++ (match s.limit with
      | some n => " LIMIT " ++ Numeral.ofNat n
      | none => "")

end Select

end Readership.Sql

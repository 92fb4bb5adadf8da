import Readership.Filter.Selection
import Readership.Sql.Select

/-!
# Selections in SQL

A selection is written as a boolean expression. A comparison with null is
neither true nor false in SQL, so every test of a column that may be null asks
first whether it is: each test then has one of two values, and the opposite of
a test is its complement, as it is for records in memory.
-/

namespace Readership.Sql

/-- A test that requires a value: it fails where a nullable column has none. -/
def requirePresent (f : Field) (clause : String) : String :=
  if f.nullable then "(" ++ f.column ++ " IS NOT NULL AND " ++ clause ++ ")" else clause

/-- A test that holds where a nullable column has no value. -/
def allowAbsent (f : Field) (clause : String) : String :=
  if f.nullable then "(" ++ f.column ++ " IS NULL OR " ++ clause ++ ")" else clause

/-- A column, an operator and a literal. -/
def comparison (f : Field) (operator : String) (v : FieldValue) : String :=
  f.column ++ " " ++ operator ++ " " ++ literal v

/-- **The test of a field** as an expression. -/
def criterion (c : Criterion) : String :=
  let f := c.field
  match c.test with
  | .eq .null => f.column ++ " IS NULL"
  | .ne .null => f.column ++ " IS NOT NULL"
  | .eq v => requirePresent f (comparison f "=" v)
  | .ne v => allowAbsent f (comparison f "!=" v)
  | .gt v => requirePresent f (comparison f ">" v)
  | .gte v => requirePresent f (comparison f ">=" v)
  | .lt v => requirePresent f (comparison f "<" v)
  | .lte v => requirePresent f (comparison f "<=" v)
  | .isIn vs =>
    match vs.filter (!·.isNull) with
    | [] => "0"
    | present =>
      requirePresent f
        (f.column ++ " IN (" ++ Text.joinWith ", " (present.map literal) ++ ")")
  | .contains needle =>
    requirePresent f
      ("positionCaseInsensitiveUTF8(toString(" ++ f.column ++ "), " ++ quoted needle ++ ") > 0")

mutual

/-- **A selection** as an expression. A conjunction of nothing is true, a
disjunction of nothing false. -/
def selection : Selection → String
  | .all => "1"
  | .criterion c => criterion c
  | .and [] => "1"
  | .or [] => "0"
  | .and (p :: rest) => "(" ++ Text.joinWith " AND " (selections (p :: rest)) ++ ")"
  | .or (p :: rest) => "(" ++ Text.joinWith " OR " (selections (p :: rest)) ++ ")"
  | .not part => "NOT (" ++ selection part ++ ")"

/-- Several selections as expressions. -/
def selections : List Selection → List String
  | [] => []
  | s :: rest => selection s :: selections rest

end

/-- A statement restricted to a selection; the selection of everything adds
nothing. -/
def Select.restrict (s : Select) : Selection → Select
  | .all => s
  | other => s.filter (selection other)

theorem selections_eq_map (parts : List Selection) :
    selections parts = parts.map selection := by
  induction parts with
  | nil => simp [selections]
  | cons p rest ih => simp [selections, ih]

end Readership.Sql

import Readership.Sql.Selection

/-!
# Reports on a filter

What a filter document comes to: the predicate in one line, the fields that it
names as they are written, and the predicate as SQL. The form is JSON if the
word for it is exactly that; any other word means plain lines.
-/

namespace Readership.Report

/-- **What a filter comes to.** -/
structure Inspection where
  predicate : String
  fields : List String
  sql : String
deriving DecidableEq, Repr

namespace Inspection

/-- The inspection of a predicate, unless it does not pass the check. -/
def ofPredicate (p : Predicate) : Except Fault Inspection :=
  p.check.map fun selected =>
    ⟨p.text, p.conditions.map (·.field), Sql.selection selected⟩

/-- An inspection as a JSON object. -/
def toJson (i : Inspection) : Json :=
  .object [("predicate", .str i.predicate), ("fields", .arr (i.fields.map .str)),
    ("sql", .str i.sql)]

/-- An inspection as three lines. -/
def lines (i : Inspection) : String :=
  "Predicate: " ++ i.predicate ++ "\nFields:    " ++ Text.joinWith ", " i.fields
    ++ "\nSQL:       " ++ i.sql ++ "\n"

/-- **The report on a filter.** -/
def text (format : String) (i : Inspection) : String :=
  if format = "json" then i.toJson.indented ++ "\n" else i.lines

end Inspection

end Readership.Report

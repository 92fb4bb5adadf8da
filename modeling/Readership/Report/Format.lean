import Readership.Text.Case

/-!
# Formats of a report

The rows of a metric are shown as a table, as JSON or as comma-separated
values. The word for a format may be in capital letters; unlike the parameters
of the selectors it must stand alone, without white space around it.
-/

namespace Readership

/-- **The form of a report.** -/
inductive ReportFormat where
  | table
  | json
  | csv
deriving DecidableEq, Repr

namespace ReportFormat

/-- Every form. -/
def all : List ReportFormat := [table, json, csv]

/-- The word for a form. -/
def name : ReportFormat → String
  | table => "table"
  | json => "json"
  | csv => "csv"

/-- The form that a word names. -/
def ofText? (s : String) : Option ReportFormat :=
  all.find? (·.name == Text.lowercase s)

/-- The message about a word that names no form. -/
def unknownMessage (s : String) : String :=
  "unknown format: " ++ s

end ReportFormat

end Readership

import Readership.Json.Printer
import Readership.Metric.Parameter
import Readership.Metric.Row
import Readership.Report.Columns
import Readership.Report.Format
import Readership.Report.Separated

/-!
# Reports of metrics

The rows of a metric under the titles of its three slots, in one of the forms
of a report. Titles depend on the metric and its parameter.
-/

namespace Readership.Report

/-- **The titles of the three slots.** -/
abbrev Titles : Type := Columns.Line

/-- The titles of grouped metrics. -/
def groupedTitles : ObjectType → Titles
  | .country => ⟨"Country", "Blogs", "Views"⟩
  | .user => ⟨"User", "Blogs", "Views"⟩

/-- The titles of a ranking. -/
def rankingTitles : TopType → Titles
  | .user => ⟨"Blogs", "Views", "Countries"⟩
  | .country => ⟨"Users", "Views", "Blogs"⟩
  | .blog => ⟨"Users", "Views", "Countries"⟩

/-- The titles of a time series. -/
def growthTitles : Titles := ⟨"Period", "Views", "Growth %"⟩

/-- A row as a line of text. -/
def lineOf (r : MetricRow) : Columns.Line :=
  ⟨r.x.display, Numeral.ofNat r.y, r.z.display⟩

/-- The fields of a line. -/
def fieldsOf (l : Columns.Line) : List (List Char) :=
  [l.label.toList, l.first.toList, l.second.toList]

/-- Rows as comma-separated values, the titles first. -/
def separatedText (titles : Titles) (rows : List MetricRow) : String :=
  String.ofList (Separated.records ((titles :: rows.map lineOf).map fieldsOf))

/-- Rows as a JSON array of objects. -/
def documentText (rows : List MetricRow) : String :=
  (Json.arr (rows.map MetricRow.toJson)).indented ++ "\n"

/-- **A report** of the rows of a metric. -/
def text (format : ReportFormat) (titles : Titles) (rows : List MetricRow) : String :=
  match format with
  | .table => Columns.text titles (rows.map lineOf)
  | .json => documentText rows
  | .csv => separatedText titles rows

end Readership.Report

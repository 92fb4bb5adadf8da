import Readership.Metric.Parameter
import Readership.Metric.Row
import Readership.Plan.Row

/-!
# Grouped metrics

Views per bucket and viewer dimension. A view whose viewer is not known in
that dimension is counted under a label of its own.
-/

namespace Readership.Grouped

/-- The label of views without the dimension. -/
def unknownLabel : String := "Unknown"

/-- The plan: blogs and views of every group. -/
def plan (object : ObjectType) (range : RangeType) (p : Predicate) : Plan :=
  { predicate := p
    bucket := some range.bucket
    groupBy := [object.dimension]
    aggregates := [.distinct .blogId, .count]
    order := .byGroup
    limit := none }

/-- **A group**: its label, its blogs, its views. -/
def shapeRow (r : Row) : MetricRow :=
  ⟨.label ((r.key 0).text?.getD unknownLabel), r.value 0, .count (r.value 1)⟩

/-- The groups in order. -/
def shape (rows : List Row) : List MetricRow :=
  rows.map shapeRow

end Readership.Grouped

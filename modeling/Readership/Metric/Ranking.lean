import Readership.Metric.Bounds
import Readership.Metric.Parameter
import Readership.Metric.Row
import Readership.Plan.Row

/-!
# Rankings

The ten users, countries or blogs with the most views, within date bounds.
Views that lack what is ranked are left out beforehand.
-/

namespace Readership.Ranking

/-- The number of places. -/
def places : Nat := 10

/-- The predicate of a ranking: what the filter says, the bounds, and that the
ranked field is there. -/
def restrict (top : TopType) (bounds : DateBounds) (p : Predicate) : Predicate :=
  (bounds.conditions.foldl Predicate.withCondition p).withCondition
    (.isPresent top.rankedField.path)

/-- The plan: the groups with the most views, with two more counts each. -/
def plan (top : TopType) (bounds : DateBounds) (p : Predicate) : Plan :=
  { predicate := restrict top bounds p
    bucket := none
    groupBy := top.groupBy
    aggregates := [.distinct top.distinctFields.1, .count, .distinct top.distinctFields.2]
    order := .byValue 1
    limit := some (Plan.cappedLimit places) }

/-- **One place**: the views between the two other counts. -/
def shapeRow (r : Row) : MetricRow :=
  ⟨.count (r.value 0), r.value 1, .count (r.value 2)⟩

/-- The places in order. -/
def shape (rows : List Row) : List MetricRow :=
  rows.map shapeRow

end Readership.Ranking

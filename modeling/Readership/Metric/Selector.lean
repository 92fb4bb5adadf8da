import Readership.Filter.Document
import Readership.Metric.Grouped
import Readership.Metric.Growth
import Readership.Metric.Ranking
import Readership.Plan.Store

/-!
# Selectors

A selector turns a filter document into rows of a metric: the document is
compiled, the predicate is checked, the plan of the metric is answered by a
store and its rows are shaped.
-/

namespace Readership

/-- **A metric**, with its parameters. -/
inductive Metric where
  | grouped (object : ObjectType) (range : RangeType)
  | ranking (top : TopType) (bounds : DateBounds)
  | growth (compare : CompareType) (owner : Option String)

namespace Metric

/-- The name of a metric. -/
def name : Metric → String
  | grouped _ _ => "grouped"
  | ranking _ _ => "top"
  | growth _ _ => "growth"

/-- The plan of a metric for the views of a predicate. -/
def plan (metric : Metric) (p : Predicate) : Plan :=
  match metric with
  | grouped object range => Grouped.plan object range p
  | ranking top bounds => Ranking.plan top bounds p
  | growth compare owner => Growth.plan compare owner p

/-- The rows of a metric from the rows of its plan. -/
def shape (metric : Metric) (rows : List Row) : List MetricRow :=
  match metric with
  | grouped _ _ => Grouped.shape rows
  | ranking _ _ => Ranking.shape rows
  | growth compare _ => Growth.shape compare rows

variable {m : Type → Type} [Monad m]

/-- **A metric of the views in a store** that a filter document selects. -/
def run (metric : Metric) (store : Store m) (document : Option Json) :
    m (Except Fault (List MetricRow)) :=
  match Filter.compile document with
  | .error fault => pure (.error fault)
  | .ok compiled =>
    match compiled.predicate.check with
    | .error fault => pure (.error fault)
    | .ok _ => do
      let rows ← store.aggregate (metric.plan compiled.predicate)
      pure (rows.map metric.shape)

end Metric

namespace Store

variable {m : Type → Type} [Monad m]

/-- **Views per bucket and viewer dimension.** -/
def groupedMetrics (store : Store m) (object : ObjectType) (range : RangeType)
    (document : Option Json) : m (Except Fault (List MetricRow)) :=
  (Metric.grouped object range).run store document

/-- **The first ten by views**, between two dates. The dates are read before
the filter. -/
def topRanked (store : Store m) (top : TopType) (start stop : Option String)
    (document : Option Json) : m (Except Fault (List MetricRow)) :=
  match DateBounds.parse start stop with
  | .error fault => pure (.error fault)
  | .ok bounds => (Metric.ranking top bounds).run store document

/-- **Views per bucket with their growth**, of one owner's blogs or of all. -/
def timeSeries (store : Store m) (compare : CompareType) (user : Option String)
    (document : Option Json) : m (Except Fault (List MetricRow)) :=
  (Metric.growth compare (Growth.ownerOf user)).run store document

end Store

end Readership

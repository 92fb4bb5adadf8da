import Readership.Metric.Parameter
import Readership.Metric.Row
import Readership.Plan.Row

/-!
# Growth

Views per bucket, each with the change against the bucket before it in the
answer, in percent. Rows without a bucket are left out and are nobody's
predecessor.
-/

namespace Readership

/-- A count as a double. -/
def floatOfCount (n : Nat) : Float :=
  n.toUInt64.toFloat

/-- A number rounded to two decimals, halves away from zero. -/
def roundToHundredths (x : Float) : Float :=
  (x * 100.0).round / 100.0

/-- **The change in percent.** Without a predecessor there is none; from
nothing to something it is one hundred. -/
def percentGrowth (previous : Option Nat) (current : Nat) : Float :=
  match previous with
  | none => 0.0
  | some 0 => if 0 < current then 100.0 else 0.0
  | some before =>
    roundToHundredths
      ((floatOfCount current - floatOfCount before) / floatOfCount before * 100.0)

namespace Growth

/-- The plan: blogs and views a bucket, of one owner's blogs or of all. -/
def plan (compare : CompareType) (owner : Option String) (p : Predicate) : Plan :=
  { predicate :=
      match owner with
      | some user => p.withCondition ⟨Field.blogOwner.path, .eq, .str user⟩
      | none => p
    bucket := some compare.bucket
    groupBy := []
    aggregates := [.distinct .blogId, .count]
    order := .byGroup
    limit := none }

/-- An owner's id without the white space around it; a blank id is none. -/
def ownerOf (user : Option String) : Option String :=
  (user.map Text.trimmed).filter (· != "")

/-- The label of a row: its bucket and the number of blogs. -/
def label (b : Bucket) (start : Date) (blogs : Nat) : String :=
  b.label start ++ " (" ++ Numeral.ofNat blogs ++ " blogs)"

/-- The rows after a bucket with `previous` views. -/
def shapeFrom (b : Bucket) (previous : Option Nat) : List Row → List MetricRow
  | [] => []
  | r :: rest =>
    match r.bucket with
    | none => shapeFrom b previous rest
    | some start =>
      ⟨.label (label b start (r.value 0)), r.value 1,
        .percent (percentGrowth previous (r.value 1))⟩
        :: shapeFrom b (some (r.value 1)) rest

/-- **The rows of a time series.** -/
def shape (compare : CompareType) (rows : List Row) : List MetricRow :=
  shapeFrom compare.bucket none rows

end Growth

end Readership

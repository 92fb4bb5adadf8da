import Readership.Calendar.Bucket
import Readership.Filter.Selection

/-!
# Plans

A plan is a question to a store of views: which views, grouped by which bucket
and fields, with which counts of each group, in which order, and how many
rows at most. Every store answers the same plans.
-/

namespace Readership

/-- The greatest limit of a plan. -/
def maxLimit : Nat := 10000

/-- **A count over the views of a group.** -/
inductive Aggregate where
  /-- The number of views. -/
  | count
  /-- The number of different values of a field, null apart. -/
  | distinct (f : Field)
deriving DecidableEq, Repr

/-- **The order of the rows.** -/
inductive RowOrder where
  /-- By bucket and keys. -/
  | byGroup
  /-- By the count at this place, the greatest first, then by bucket and keys. -/
  | byValue (index : Nat)
deriving DecidableEq, Repr

/-- **A plan.** -/
structure Plan where
  predicate : Predicate
  bucket : Option Bucket
  groupBy : List Field
  aggregates : List Aggregate
  order : RowOrder
  limit : Option Nat

namespace Plan

/-- The plan that asks for nothing yet about the views of a predicate. -/
def about (p : Predicate) : Plan :=
  ⟨p, none, [], [], .byGroup, none⟩

/-- The limit that a request for `n` rows gets. -/
def cappedLimit (n : Nat) : Nat :=
  min n maxLimit

/-- A plan with at most `n` rows. -/
def withLimit (plan : Plan) (n : Nat) : Plan :=
  { plan with limit := some (cappedLimit n) }

end Plan

end Readership

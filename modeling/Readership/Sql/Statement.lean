import Readership.Plan.Basic
import Readership.Sql.Selection

/-!
# The statement of a plan

A plan becomes one select statement. Its columns have aliases by position –
the bucket, `k0`, `k1`, … for the keys and `v0`, `v1`, … for the counts – and
grouping and ordering use the aliases.
-/

namespace Readership.Sql

/-- The alias of the bucket. -/
def bucketAlias : String := "bucket"

/-- The alias of the key at a place. -/
def keyAlias (i : Nat) : String :=
  "k" ++ Numeral.ofNat i

/-- The alias of the count at a place. -/
def valueAlias (i : Nat) : String :=
  "v" ++ Numeral.ofNat i

/-- A count as an expression. -/
def aggregate : Aggregate → String
  | .count => "COUNT(*)"
  | .distinct f => "COUNT(DISTINCT " ++ f.column ++ ")"

/-- The aliases of the groups of a plan: the bucket, then the keys. -/
def groupAliases (plan : Plan) : List String :=
  (plan.bucket.map fun _ => bucketAlias).toList
    ++ (List.range plan.groupBy.length).map keyAlias

/-- The columns of a plan with their aliases. -/
def planColumns (plan : Plan) : List (String × String) :=
  (plan.bucket.map fun b =>
      (Select.bucketExpression b Field.viewedAt.column, bucketAlias)).toList
    ++ plan.groupBy.mapIdx (fun i f => (f.column, keyAlias i))
    ++ plan.aggregates.mapIdx (fun i a => (aggregate a, valueAlias i))

/-- The expressions that a plan is ordered by. -/
def planOrder (plan : Plan) : List String :=
  match plan.order with
  | .byGroup => groupAliases plan
  | .byValue i => Select.descending (valueAlias i) :: groupAliases plan

/-- **The statement of a plan** whose predicate has been checked. -/
def planSelect (plan : Plan) (selected : Selection) (tableName : String) : Select :=
  Select.restrict
    { table := table tableName
      columns := (planColumns plan).map fun c => Select.aliased c.1 c.2
      filters := []
      groupBy := groupAliases plan
      orderBy := planOrder plan
      limit := plan.limit }
    selected

/-- **The text of the statement of a plan**, unless its predicate does not pass
the check. -/
def planText (plan : Plan) (tableName : String) : Except Fault String :=
  plan.predicate.check.map fun selected => (planSelect plan selected tableName).text

end Readership.Sql

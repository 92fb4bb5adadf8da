import Readership.Archive.Tables
import Readership.Plan.Row

/-!
# Answering plans from the tables

The views that a plan selects are gone through once. Each is added to the
counts of its group, and a group begins with its first view. A number of views
is a counter; a number of different values is the list of the values seen so
far, without null.

The buckets of views at the very beginning of the calendar may have no first day
in it. `Tables.aggregate` passes over that, `Tables.aggregate?` breaks off there.
-/

namespace Readership

/-- **A count in the making.** -/
inductive Tally where
  | count (n : Nat)
  | distinct (seen : List FieldValue)
deriving DecidableEq

namespace Tally

/-- The count of no views. -/
def start : Aggregate → Tally
  | .count => .count 0
  | .distinct _ => .distinct []

/-- **One more view.** -/
def add (r : ViewRecord) (a : Aggregate) (tally : Tally) : Tally :=
  match tally, a with
  | .count n, _ => .count (n + 1)
  | .distinct seen, .distinct f =>
    if (r f).isNull || seen.contains (r f) then .distinct seen else .distinct (r f :: seen)
  | .distinct seen, .count => .distinct seen

/-- The finished count. -/
def finish : Tally → Nat
  | .count n => n
  | .distinct seen => seen.length

end Tally

/-- What a group is known by: the first day of its bucket, and its keys. -/
structure GroupKey where
  bucket : Option Date
  keys : List FieldValue
deriving DecidableEq

/-- **A group in the making.** -/
structure Group where
  key : GroupKey
  tallies : List Tally

namespace Group

/-- The group that a view belongs to. -/
def keyOf (plan : Plan) (v : View × ViewRecord) : GroupKey :=
  ⟨plan.bucket.map (·.truncate v.1.time), plan.groupBy.map v.2⟩

/-- The group that a view belongs to, unless its bucket has no first day. -/
def keyOf? (plan : Plan) (v : View × ViewRecord) : Option GroupKey :=
  match plan.bucket with
  | some b => (b.truncate? v.1.time).map fun start => ⟨some start, plan.groupBy.map v.2⟩
  | none => some ⟨none, plan.groupBy.map v.2⟩

/-- The counts of a plan, each with one more view. -/
def addTo (plan : Plan) (r : ViewRecord) (tallies : List Tally) : List Tally :=
  List.zipWith (Tally.add r) plan.aggregates tallies

/-- **One more view** among the groups. -/
def insert (plan : Plan) (key : GroupKey) (r : ViewRecord) : List Group → List Group
  | [] => [⟨key, addTo plan r (plan.aggregates.map Tally.start)⟩]
  | g :: rest =>
    if g.key = key then ⟨g.key, addTo plan r g.tallies⟩ :: rest
    else g :: insert plan key r rest

/-- The row of a finished group. -/
def toRow (g : Group) : Row :=
  ⟨g.key.bucket, g.key.keys, g.tallies.map Tally.finish⟩

end Group

namespace Tables

/-- The groups of the views that a selection selects. -/
def groups (t : Tables) (plan : Plan) (s : Selection) : List Group :=
  (t.matching s).foldl (fun gs v => Group.insert plan (Group.keyOf plan v) v.2 gs) []

/-- **The answer to a plan.** -/
def aggregate (t : Tables) (plan : Plan) : Except Fault (List Row) :=
  plan.predicate.check.map fun s =>
    Row.sorted plan.order plan.limit ((t.groups plan s).map Group.toRow)

/-- One more view among the groups, unless its bucket has no first day. -/
def addView? (plan : Plan) (gs : List Group) (v : View × ViewRecord) : Option (List Group) :=
  (Group.keyOf? plan v).map fun key => Group.insert plan key v.2 gs

/-- The groups of the views that a selection selects. The first view whose bucket has no
first day breaks it off. -/
def groups? (t : Tables) (plan : Plan) (s : Selection) : Option (List Group) :=
  (t.matching s).foldlM (addView? plan) []

/-- **The answer to a plan, if there is one**: a refused predicate is answered before any
view is looked at, and a view without a bucket leaves the plan without an answer. -/
def aggregate? (t : Tables) (plan : Plan) : Option (Except Fault (List Row)) :=
  match plan.predicate.check with
  | .error fault => some (.error fault)
  | .ok s =>
    (t.groups? plan s).map fun gs =>
      .ok (Row.sorted plan.order plan.limit (gs.map Group.toRow))

end Tables

end Readership

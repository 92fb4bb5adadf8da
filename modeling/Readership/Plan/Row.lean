import Readership.Plan.Basic

/-!
# Rows

The answer to a plan is a list of rows, one a group: the first day of its
bucket, its keys and its counts. Rows are sorted by a total order on their
bucket and keys, so that the answer does not depend on the order in which the
groups were found.
-/

namespace Readership

/-- **One group of an answer.** -/
structure Row where
  bucket : Option Date
  keys : List FieldValue
  values : List Nat
deriving DecidableEq

namespace Row

/-- The key at a place; null beyond the last. -/
def key (r : Row) (i : Nat) : FieldValue :=
  r.keys[i]?.getD .null

/-- The count at a place; zero beyond the last. -/
def value (r : Row) (i : Nat) : Nat :=
  r.values[i]?.getD 0

/-- Buckets in order; rows without one come last. -/
def compareBuckets : Option Date → Option Date → Ordering
  | some a, some b => a.compare b
  | some _, none => .lt
  | none, some _ => .gt
  | none, none => .eq

/-- Keys in order, the first that differs deciding; a list comes after the
lists that it continues. -/
def compareKeys : List FieldValue → List FieldValue → Ordering
  | [], [] => .eq
  | [], _ :: _ => .lt
  | _ :: _, [] => .gt
  | a :: as, b :: bs => (a.compare b).then (compareKeys as bs)

/-- **The order of groups.** -/
def compareGroups (a b : Row) : Ordering :=
  (compareBuckets a.bucket b.bucket).then (compareKeys a.keys b.keys)

/-- The order of rows that a plan asks for. -/
def compareBy (order : RowOrder) (a b : Row) : Ordering :=
  match order with
  | .byGroup => compareGroups a b
  | .byValue i => (Ord.compare (b.value i) (a.value i)).then (compareGroups a b)

/-- The first rows, as many as a limit allows. -/
def limited (limit : Option Nat) (rows : List Row) : List Row :=
  match limit with
  | some n => rows.take n
  | none => rows

/-- **Rows in order**, cut to the limit. Rows of equal rank keep their places. -/
def sorted (order : RowOrder) (limit : Option Nat) (rows : List Row) : List Row :=
  limited limit (rows.mergeSort fun a b => compareBy order a b != .gt)

@[simp] theorem limited_none (rows : List Row) : limited none rows = rows := rfl

@[simp] theorem limited_some (n : Nat) (rows : List Row) :
    limited (some n) rows = rows.take n := rfl

end Row

end Readership

import Readership.Proofs.Archive.Answer
import Readership.Proofs.Calendar.Nesting

/-!
# Longer buckets from shorter ones

A plan may be asked by a shorter bucket or by a longer one. Where the sizes nest, the
longer answer is in the shorter one: the groups of the longer bucket are those of the
shorter with their buckets truncated once more (`Plan.groupOf_coarsen`), and the views of a
group are shared out among the shorter groups in it, so that numbers of views add up
(`IsGrouping.sum_coarsen`).

Rows that count views can therefore be added up without going back to the views
(`Row.addedUp`). What comes out is a grouping by the longer bucket
(`IsGrouping.addedUp`), and in order it is the longer answer (`Tables.rows_by`). Numbers of
different values do not add up, as one value may occur in several buckets.
-/

namespace Readership

/-- The plan by a bucket. -/
def Plan.by (plan : Plan) (bucket : Bucket) : Plan :=
  { plan with bucket := some bucket }

/-- The group of a longer bucket that a group lies in. -/
def GroupKey.coarsen (coarse : Bucket) (key : GroupKey) : GroupKey :=
  ⟨key.bucket.map coarse.start, key.keys⟩

/-- **Rows added up**: one row for each group of the longer bucket that one of the rows lies
in, with the sum of the first counts of all that do. -/
def Row.addedUp (coarse : Bucket) (rows : List Row) : List Row :=
  (rows.map fun row => row.groupKey.coarsen coarse).dedup.map fun key =>
    ⟨key.bucket, key.keys,
      [((rows.filter fun row => row.groupKey.coarsen coarse = key).map (·.value 0)).sum]⟩

variable {plan : Plan} {fine coarse : Bucket} {vs : List (View × ViewRecord)}
  {rows : List Row} {i : Nat}

/-- **The group of a view by the longer bucket** is that of its group by the shorter. -/
theorem Plan.groupOf_coarsen (h : fine.Nests coarse) (v : View × ViewRecord) :
    ((plan.by fine).groupOf v).coarsen coarse = (plan.by coarse).groupOf v :=
  congrArg (fun start => (⟨some start, plan.groupBy.map v.2⟩ : GroupKey))
    (Bucket.start_start h v.1.time.date)

namespace IsGrouping

/-- The views of a group by the longer bucket are those of the groups that lie in it. -/
theorem sum_coarsen (h : IsGrouping (plan.by fine) vs rows) (hnests : fine.Nests coarse)
    (hi : plan.aggregates[i]? = some .count) (key : GroupKey) :
    ((rows.filter fun row => row.groupKey.coarsen coarse = key).map (·.value i)).sum
      = ((plan.by coarse).viewsOf vs key).length := by
  rw [h.sum_filter_value hi fun fineKey => fineKey.coarsen coarse = key, Plan.viewsOf]
  exact congrArg List.length (List.filter_congr fun v _ => by rw [Plan.groupOf_coarsen hnests])

/-- **Rows added up are the groups by the longer bucket.** -/
theorem addedUp (h : IsGrouping (plan.by fine) vs rows) (hnests : fine.Nests coarse)
    (hcount : plan.aggregates = [.count]) :
    IsGrouping (plan.by coarse) vs (Row.addedUp coarse rows) := by
  have hkeys : (Row.addedUp coarse rows).map Row.groupKey
      = ((rows.map Row.groupKey).map (GroupKey.coarsen coarse)).dedup := by
    rw [Row.addedUp, List.map_map, List.map_map]
    exact List.map_id _
  refine ⟨hkeys ▸ List.nodup_dedup _, fun key => ?_, fun row hrow => ?_⟩
  · rw [hkeys, List.mem_dedup, List.mem_map]
    constructor
    · rintro ⟨fineKey, hmem, rfl⟩
      obtain ⟨v, hv, rfl⟩ := (h.mem_iff fineKey).mp hmem
      exact ⟨v, hv, (Plan.groupOf_coarsen hnests v).symm⟩
    · rintro ⟨v, hv, rfl⟩
      exact ⟨_, (h.mem_iff _).mpr ⟨v, hv, rfl⟩, Plan.groupOf_coarsen hnests v⟩
  · obtain ⟨key, -, rfl⟩ := List.mem_map.mp hrow
    have hi : plan.aggregates[0]? = some .count := by rw [hcount]; rfl
    show [_] = plan.aggregates.map _
    rw [hcount, h.sum_coarsen hnests hi]
    rfl

end IsGrouping

/-- **The rows by the longer bucket** are those by the shorter, added up and put in order. -/
theorem Tables.rows_by (t : Tables) (plan : Plan) (s : Selection) (hnests : fine.Nests coarse)
    (hcount : plan.aggregates = [.count]) :
    t.rows (plan.by coarse) s
      = Row.sorted plan.order none (Row.addedUp coarse (t.rows (plan.by fine) s)) := by
  have hadded : IsGrouping (plan.by coarse) (t.matching s)
      (Row.addedUp coarse (t.rows (plan.by fine) s)) :=
    (t.isGrouping_rows (plan.by fine) s).addedUp hnests hcount
  have hperm : (t.rows (plan.by coarse) s).Perm
      (Row.sorted plan.order none (Row.addedUp coarse (t.rows (plan.by fine) s))) :=
    ((t.isGrouping_rows _ s).perm hadded).trans (Row.sorted_perm _ _).symm
  exact Row.eq_of_perm_of_pairwise hperm (t.pairwise_rows (plan.by coarse) s)
    (Row.pairwise_sorted _ hadded.pairwise_ne)

end Readership

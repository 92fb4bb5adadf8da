import Readership.Metric.Selector
import Readership.Proofs.Archive.Grouping
import Readership.Proofs.Filter.Meaning
import Readership.Proofs.Plan.Order

/-!
# Answers from the tables

What the tables answer is determined by the views that a plan selects: for each bucket
and keys that occur among them there is one row with the counts over the views that have
them (`Tables.isGrouping_rows`), and the rows are in the strict order of the plan
(`Tables.pairwise_rows`), so that nothing about the way in which the groups were found
is left in the answer. A limit takes from the front, after all rows are in order.

A metric is asked for with a filter document. Where it is answered, the document selects
something, and the rows of the metric are made from those of its plan
(`Metric.exists_of_run_ofTables`).
-/

namespace Readership

open Outcome

/-- **No more different values than views.** -/
theorem Aggregate.value_distinct_le (vs : List (View × ViewRecord)) (f : Field) :
    (Aggregate.distinct f).value vs ≤ vs.length :=
  calc ((vs.map fun v => v.2 f).toFinset.erase .null).card
      ≤ (vs.map fun v => v.2 f).toFinset.card := Finset.card_erase_le
    _ ≤ (vs.map fun v => v.2 f).length := List.toFinset_card_le _
    _ = vs.length := List.length_map _

/-- **The rows of a grouping are of different groups.** -/
theorem IsGrouping.pairwise_ne {plan : Plan} {vs : List (View × ViewRecord)} {rows : List Row}
    (h : IsGrouping plan vs rows) : rows.Pairwise fun a b => a.compareGroups b ≠ .eq := by
  refine (List.pairwise_map.mp h.nodup).imp fun {a b} hne heq => hne ?_
  obtain ⟨hbucket, hkeys⟩ := Row.compareGroups_eq_iff.mp heq
  rw [Row.groupKey, Row.groupKey, hbucket, hkeys]

namespace Tables

variable {t : Tables}

/-- **The rows of an answer**, before a limit. -/
def rows (t : Tables) (plan : Plan) (s : Selection) : List Row :=
  Row.sorted plan.order none ((t.groups plan s).map Group.toRow)

theorem isGrouping_rows (t : Tables) (plan : Plan) (s : Selection) :
    IsGrouping plan (t.matching s) (t.rows plan s) :=
  t.isGrouping_sorted s

/-- **A plan is answered** where its predicate passes the check, by as many of the rows
as its limit allows. -/
theorem aggregate_eq_ok_iff {plan : Plan} {rows : List Row} :
    t.aggregate plan = .ok rows
      ↔ ∃ s, plan.predicate.check = .ok s ∧ rows = Row.limited plan.limit (t.rows plan s) := by
  rw [aggregate, map_eq_ok]
  exact exists_congr fun s => and_congr_right fun _ => eq_comm

/-- **Rows strictly precede one another** in the order of the plan. -/
theorem pairwise_rows (t : Tables) (plan : Plan) (s : Selection) :
    (t.rows plan s).Pairwise fun a b => Row.compareBy plan.order a b = .lt := by
  have hgrouping : IsGrouping plan (t.matching s) ((t.groups plan s).map Group.toRow) :=
    (accumulated_foldl (t.matching s)).isGrouping (.refl _)
  exact Row.pairwise_sorted plan.order hgrouping.pairwise_ne

/-- **An order by a count that the plan does not ask for** is that of the groups. -/
theorem aggregate_byValue_of_length_le (t : Tables) {plan : Plan} {i : Nat}
    (horder : plan.order = .byValue i) (hi : plan.aggregates.length ≤ i) :
    t.aggregate { plan with order := .byGroup } = t.aggregate plan := by
  have hsorted (s : Selection) (limit : Option Nat) :
      Row.sorted .byGroup limit ((t.groups plan s).map Group.toRow)
        = Row.sorted (.byValue i) limit ((t.groups plan s).map Group.toRow) := by
    have hgrouping : IsGrouping plan (t.matching s) ((t.groups plan s).map Group.toRow) :=
      (accumulated_foldl (t.matching s)).isGrouping (.refl _)
    refine (Row.sorted_byValue_of_length_le (fun row hrow => ?_) hgrouping.pairwise_ne limit).symm
    rwa [hgrouping.values row hrow, List.length_map]
  have hgroups (s : Selection) :
      t.groups { plan with order := .byGroup } s = t.groups plan s :=
    t.groups_withOrder .byGroup plan.limit s
  rw [aggregate, aggregate, horder]
  simp only [hgroups, hsorted]

/-- **A record is that of its view** and some blog. -/
theorem exists_of_mem_records {v : View × ViewRecord} (h : v ∈ t.records) :
    ∃ b, v.2 = t.recordOf v.1 b := by
  obtain ⟨w, -, hw⟩ := List.mem_filterMap.mp h
  obtain ⟨b, -, rfl⟩ := Option.map_eq_some_iff.mp hw
  exact ⟨b, rfl⟩

end Tables

/-- **What an answered metric is made from**: the document selects something, the plan of
the metric passes the check as well, and its rows are shaped. -/
theorem Metric.exists_of_run_ofTables {metric : Metric} {t : Tables} {document : Option Json}
    {out : List MetricRow}
    (h : metric.run (Store.ofTables t : Store Id) document = .ok out) :
    ∃ c s chosen, Filter.compile document = .ok c ∧ c.predicate.check = .ok s ∧
      (metric.plan c.predicate).predicate.check = .ok chosen ∧
      out = metric.shape (Row.limited (metric.plan c.predicate).limit
        (t.rows (metric.plan c.predicate) chosen)) := by
  unfold Metric.run at h
  split at h
  next => cases h
  next compiled hcompiled =>
    split at h
    next => cases h
    next s hs =>
      obtain ⟨rows, hrows, rfl⟩ := map_eq_ok.mp
        (show (t.aggregate (metric.plan compiled.predicate)).map metric.shape = .ok out from h)
      obtain ⟨chosen, hchosen, rfl⟩ := Tables.aggregate_eq_ok_iff.mp hrows
      exact ⟨compiled, s, chosen, hcompiled, hs, hchosen, rfl⟩

/-- **A metric is answered** where the document selects something and the plan of the metric
passes the check as well. -/
theorem Metric.exists_run_ofTables {metric : Metric} {t : Tables} {document : Option Json}
    {c : Compiled} {s chosen : Selection} (hc : Filter.compile document = .ok c)
    (hs : c.predicate.check = .ok s)
    (hchosen : (metric.plan c.predicate).predicate.check = .ok chosen) :
    ∃ out, metric.run (Store.ofTables t : Store Id) document = .ok out := by
  obtain ⟨rows, hrows⟩ : ∃ rows, t.aggregate (metric.plan c.predicate) = .ok rows :=
    ⟨_, Tables.aggregate_eq_ok_iff.mpr ⟨chosen, hchosen, rfl⟩⟩
  refine ⟨metric.shape rows, ?_⟩
  rw [Metric.run, hc]
  simp only [hs]
  show (t.aggregate (metric.plan c.predicate)).map metric.shape = _
  rw [hrows]
  rfl

end Readership

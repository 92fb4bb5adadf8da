import Readership.Proofs.Archive.Coarsening
import Readership.Proofs.Metric.Growth

/-!
# Totals of longer buckets

Asking by month and adding up by year gives what asking by year gives, and so it is for all
sizes that nest (`Store.totals_addUp`): for the rows of any plan that counts views, and for
the time series, whose rows have no keys. There a longer bucket has the total of the shorter
ones in it (`Growth.totalIn`). The number of blogs in a label has no such law.
-/

namespace Readership

open Outcome

namespace Growth

variable {t : Tables} {short long : CompareType} {owner user : Option String} {p : Predicate}
  {vs : List (View × ViewRecord)} {rows : List Row} {starts : List Date}

/-- **The total of a longer bucket**: the counts of the shorter ones that begin in it. -/
def totalIn (coarse : Bucket) (starts : List Date) (counts : List Nat) (start : Date) : Nat :=
  (((starts.zip counts).filter fun m => coarse.start m.1 = start).map (·.2)).sum

/-- The total of counts that are given bucket by bucket. -/
theorem totalIn_map (coarse : Bucket) (starts : List Date) (count : Date → Nat) (start : Date) :
    totalIn coarse starts (starts.map count) start
      = ((starts.filter fun d => coarse.start d = start).map count).sum := by
  have hzip : starts.zip (starts.map count) = starts.map fun d => (d, count d) := by
    rw [List.zip, List.zipWith_map_right, List.zipWith_self]
  rw [totalIn, hzip, List.filter_map, List.map_map]
  rfl

/-- **The views of a longer bucket** are as many as the shorter ones in it have in total. -/
theorem totalIn_viewsIn (h : IsGrouping (plan short owner p) vs rows)
    (hrows : rows = starts.map (rowAt short.bucket vs))
    (hnests : short.bucket.Nests long.bucket) (d : Date) :
    totalIn long.bucket starts (starts.map fun e => (viewsIn short.bucket vs e).length) d
      = (viewsIn long.bucket vs d).length := by
  have hby : IsGrouping ((plan long owner p).by short.bucket) vs rows := h
  have hin (e : Date) : (rowAt short.bucket vs e).groupKey.coarsen long.bucket = ⟨some d, []⟩
      ↔ long.bucket.start e = d := by
    simp [Row.groupKey, GroupKey.coarsen, rowAt]
  calc totalIn long.bucket starts (starts.map fun e => (viewsIn short.bucket vs e).length) d
      = ((rows.filter fun row => row.groupKey.coarsen long.bucket = ⟨some d, []⟩).map
          (·.value 1)).sum := by
        rw [totalIn_map, hrows, List.filter_map, List.map_map]
        simp only [Function.comp_def, hin]
        rfl
    _ = (((plan long owner p).by long.bucket).viewsOf vs ⟨some d, []⟩).length :=
        hby.sum_coarsen hnests rfl _
    _ = (viewsIn long.bucket vs d).length := congrArg List.length (viewsOf_plan vs d)

/-- **A series by the longer bucket** stands beside one by the shorter, and has the totals of
the shorter buckets. -/
theorem exists_longer_timeSeries (h : short.bucket.Nests long.bucket) {document : Option Json}
    {out : List MetricRow}
    (hout : (Store.ofTables t : Store Id).timeSeries short user document = .ok out) :
    ∃ out' s vs starts starts',
      (Store.ofTables t : Store Id).timeSeries long user document = .ok out' ∧
      Filter.select document = .ok s ∧ vs = counted (ownerOf user) s t ∧
      IsSeries short.bucket vs starts ∧
      out.map (·.y) = starts.map (fun d => (viewsIn short.bucket vs d).length) ∧
      IsSeries long.bucket vs starts' ∧
      out'.map (·.y) = starts'.map (totalIn long.bucket starts (out.map (·.y))) := by
  obtain ⟨s, p, vs, starts, hs, hvs, hgrouping, hseries, hys⟩ := exists_starts_of_timeSeries hout
  obtain ⟨out', hout'⟩ := (exists_timeSeries_iff long).mpr ⟨s, hs⟩
  obtain ⟨s', -, vs', starts', hs', hvs', -, hseries', hys'⟩ := exists_starts_of_timeSeries hout'
  obtain rfl : s = s' := Except.ok.inj (hs.symm.trans hs')
  obtain rfl : vs = vs' := hvs.trans hvs'.symm
  refine ⟨out', s, vs, starts, starts', hout', hs, hvs, hseries, hys, hseries', ?_⟩
  rw [hys', hys]
  exact List.map_congr_left fun d _ => (totalIn_viewsIn hgrouping rfl h d).symm

end Growth

/-- **Shorter buckets add up to longer ones.** Rows that count views by the shorter bucket,
truncated to the longer one and added up where they then agree, are the rows by the longer
bucket, in the order of the plan. A series by the shorter bucket has one by the longer
beside it, and there each bucket has the total of the shorter ones in it. -/
theorem Store.totals_addUp (t : Tables) {fine coarse : Bucket} (h : fine.Nests coarse) :
    (∀ (p : Predicate) (fields : List Field) (order : RowOrder) (s : Selection),
      p.check = .ok s → ∃ rows,
        t.aggregate ⟨p, some fine, fields, [.count], order, none⟩ = .ok rows ∧
        t.aggregate ⟨p, some coarse, fields, [.count], order, none⟩
          = .ok (Row.sorted order none (Row.addedUp coarse rows))) ∧
    ∀ (short long : CompareType) (user : Option String) (document : Option Json)
      (out : List MetricRow), short.bucket = fine → long.bucket = coarse →
      (ofTables t : Store Id).timeSeries short user document = .ok out →
      ∃ out' s vs starts starts',
        (ofTables t : Store Id).timeSeries long user document = .ok out' ∧
        Filter.select document = .ok s ∧ vs = Growth.counted (Growth.ownerOf user) s t ∧
        Growth.IsSeries fine vs starts ∧
        out.map (·.y) = starts.map (fun d => (Growth.viewsIn fine vs d).length) ∧
        Growth.IsSeries coarse vs starts' ∧
        out'.map (·.y) = starts'.map (Growth.totalIn coarse starts (out.map (·.y))) := by
  refine ⟨fun p fields order s hs => ?_, ?_⟩
  · refine ⟨_, Tables.aggregate_eq_ok_iff.mpr ⟨s, hs, rfl⟩, Tables.aggregate_eq_ok_iff.mpr
      ⟨s, hs, ?_⟩⟩
    exact (t.rows_by ⟨p, some fine, fields, [.count], order, none⟩ s h rfl).symm
  · rintro short long user document out rfl rfl hout
    exact Growth.exists_longer_timeSeries h hout

/-- The views of `viewedTwice` by owner: in two months of one year, and in that year. -/
theorem Store.totals_addUp_viewedTwice :
    (∃ rows, (viewedTwice ⟨2024, 2, 29, by decide, by decide, by decide, by decide⟩).aggregate
        ⟨.all, some .month, [.blogOwner], [.count], .byGroup, none⟩ = .ok rows ∧
      rows.map (·.values) = [[1], [2], [1]] ∧
      (viewedTwice ⟨2024, 2, 29, by decide, by decide, by decide, by decide⟩).aggregate
        ⟨.all, some .year, [.blogOwner], [.count], .byGroup, none⟩
        = .ok (Row.sorted .byGroup none (Row.addedUp .year rows)) ∧
      (Row.sorted .byGroup none (Row.addedUp .year rows)).map (·.values) = [[3], [1]]) ∧
    ∃ out, (ofTables (viewedTwice ⟨2024, 2, 29, by decide, by decide, by decide, by decide⟩)
      : Store Id).timeSeries .year (some "ada") none = .ok out := by
  obtain ⟨hrows, hseries⟩ :=
    totals_addUp (viewedTwice ⟨2024, 2, 29, by decide, by decide, by decide, by decide⟩)
      .monthInYear
  obtain ⟨rows, hfine, hcoarse⟩ := hrows .all [.blogOwner] .byGroup .all rfl
  have hknown : rows
      = [⟨some ⟨2024, 1, 1, by decide, by decide, by decide, by decide⟩, [.text "ada"], [1]⟩,
        ⟨some ⟨2024, 2, 1, by decide, by decide, by decide, by decide⟩, [.text "ada"], [2]⟩,
        ⟨some ⟨2024, 2, 1, by decide, by decide, by decide, by decide⟩, [.text "bob"], [1]⟩] :=
    Except.ok.inj (hfine.symm.trans (by cbv))
  obtain ⟨out, -, -, -, -, hout, -⟩ := hseries .month .year (some "ada") none _ rfl rfl rfl
  exact ⟨⟨rows, hfine, by rw [hknown]; rfl, hcoarse, by rw [hknown]; cbv⟩, out, hout⟩

end Readership

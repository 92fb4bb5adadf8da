import Readership.Proofs.Archive.EarlyWeeks
import Readership.Proofs.Metric.Dimension
import Readership.Proofs.Metric.Totals

/-!
# Answers within the calendar

What metrics report was said of tables for which every week has a beginning. The program
asks tables that look each bucket up in the calendar, and break off where it has none. As
long as the views are within the calendar, that is all there is between the two: a metric
breaks off exactly if its plan does (`Metric.run_ofTables?_eq_none_iff`), and is answered by
the same rows otherwise (`Metric.run_ofTables?_of_ne_none`).

So everything carries over, and it can be said of each metric when it breaks off. A ranking
has no buckets and never does (`Store.topRanked?_eq`). A time series does if it is by weeks
and reports a view before the first Monday (`Store.timeSeries?_eq_none_iff`), and so do
grouped metrics (`Store.groupedMetrics?_eq_none_iff`).
-/

namespace Readership

open Outcome

variable {t : Tables} (ht : ∀ v ∈ t.views, v.time.date.InRange)

/-- The views at which a plan by some bucket breaks off. -/
theorem Plan.breaksOff_iff {plan : Plan} {bucket : Bucket} (h : plan.bucket = some bucket)
    {v : View × ViewRecord} :
    plan.BreaksOff v ↔ bucket = .week ∧ v.1.time.date.BeforeFirstMonday := by
  rw [BreaksOff, h]
  constructor
  · rintro ⟨b, hb, hlacks⟩
    obtain rfl := Option.some.inj hb
    exact ⟨hlacks.bucket_eq, hlacks.before⟩
  · rintro ⟨rfl, hbefore⟩
    exact ⟨_, rfl, rfl, hbefore⟩

section Plans

variable {plan : Plan} {s : Selection}

include ht in
/-- **A plan is answered** if it breaks off at none of the views that it selects. -/
theorem Tables.aggregate?_eq_aggregate (hcheck : plan.predicate.check = .ok s)
    (h : ∀ v ∈ t.matching s, ¬ plan.BreaksOff v) :
    t.aggregate? plan = some (t.aggregate plan) := by
  refine (aggregate?_eq_some_iff ht).mpr ⟨fun hnone => ?_, rfl⟩
  obtain ⟨s', hs', v, hv, hbreaks⟩ := (aggregate?_eq_none_iff ht).mp hnone
  obtain rfl : s = s' := Except.ok.inj (hcheck.symm.trans hs')
  exact h v hv hbreaks

include ht in
/-- **What is answered then is the grouping of the selected views**, in the order of the
plan. -/
theorem Tables.aggregate?_isGrouping (hcheck : plan.predicate.check = .ok s)
    (hlimit : plan.limit = none) (h : ∀ v ∈ t.matching s, ¬ plan.BreaksOff v) :
    ∃ rows, t.aggregate? plan = some (.ok rows) ∧ IsGrouping plan (t.matching s) rows ∧
      rows.Pairwise fun a b => Row.compareBy plan.order a b = .lt := by
  have hrows : t.aggregate plan = .ok (t.rows plan s) :=
    aggregate_eq_ok_iff.mpr ⟨s, hcheck, by rw [hlimit]; rfl⟩
  exact ⟨t.rows plan s, by rw [aggregate?_eq_aggregate ht hcheck h, hrows],
    t.isGrouping_rows plan s, t.pairwise_rows plan s⟩

include ht in
/-- **Shorter buckets add up to longer ones** in what is answered. Only a plan by weeks could
break off. -/
theorem Tables.aggregate?_addUp {fine coarse : Bucket} (h : fine.Nests coarse) {p : Predicate}
    (hs : p.check = .ok s) (fields : List Field) (order : RowOrder)
    (hweek : coarse = .week → ∀ v ∈ t.matching s, ¬ v.1.time.date.BeforeFirstMonday) :
    ∃ rows, t.aggregate? ⟨p, some fine, fields, [.count], order, none⟩ = some (.ok rows) ∧
      t.aggregate? ⟨p, some coarse, fields, [.count], order, none⟩
        = some (.ok (Row.sorted order none (Row.addedUp coarse rows))) := by
  have hfine : fine ≠ .week := by cases h <;> simp
  refine ⟨t.rows ⟨p, some fine, fields, [.count], order, none⟩ s, ?_, ?_⟩
  · rw [aggregate?_eq_aggregate ht hs fun v _ hbreaks =>
      hfine ((Plan.breaksOff_iff rfl).mp hbreaks).1]
    exact congrArg some (aggregate_eq_ok_iff.mpr ⟨s, hs, rfl⟩)
  · rw [aggregate?_eq_aggregate ht hs fun v hv hbreaks =>
      hweek ((Plan.breaksOff_iff rfl).mp hbreaks).1 v hv ((Plan.breaksOff_iff rfl).mp hbreaks).2]
    refine congrArg some (aggregate_eq_ok_iff.mpr ⟨s, hs, ?_⟩)
    exact (t.rows_by ⟨p, some fine, fields, [.count], order, none⟩ s h rfl).symm

end Plans

section Metrics

variable {metric : Metric} {document : Option Json}

include ht in
/-- **A metric breaks off exactly if its plan does**, at a view that it selects. -/
theorem Metric.run_ofTables?_eq_none_iff :
    (metric.run (.ofTables? t : Store (OptionT Id)) document).run = none ↔
      ∃ c s chosen, Filter.compile document = .ok c ∧ c.predicate.check = .ok s ∧
        (metric.plan c.predicate).predicate.check = .ok chosen ∧
        ∃ v ∈ t.matching chosen, (metric.plan c.predicate).BreaksOff v := by
  constructor
  · intro hnone
    by_contra hnot
    have hanswered : (metric.run (.ofTables? t : Store (OptionT Id)) document).run
        = some (metric.run (.ofTables t : Store Id) document) := by
      refine (run_ofTables? ht).mpr ⟨fun c hc s hs hbreaks => ?_, rfl⟩
      obtain ⟨chosen, hchosen, hview⟩ := (Tables.aggregate?_eq_none_iff ht).mp hbreaks
      exact hnot ⟨c, s, chosen, hc, hs, hchosen, hview⟩
    rw [hnone] at hanswered
    cases hanswered
  · rintro ⟨c, s, chosen, hc, hs, hchosen, hview⟩
    refine Option.eq_none_iff_forall_ne_some.mpr fun answer hanswer => ?_
    exact ((run_ofTables? ht).mp hanswer).1 c hc s hs
      ((Tables.aggregate?_eq_none_iff ht).mpr ⟨chosen, hchosen, hview⟩)

include ht in
/-- **A metric that does not break off** is answered as if every week had a beginning. -/
theorem Metric.run_ofTables?_of_ne_none
    (h : (metric.run (.ofTables? t : Store (OptionT Id)) document).run ≠ none) :
    (metric.run (.ofTables? t : Store (OptionT Id)) document).run
      = some (metric.run (.ofTables t : Store Id) document) := by
  obtain ⟨answer, hanswer⟩ := Option.ne_none_iff_exists'.mp h
  rw [hanswer, ((run_ofTables? ht).mp hanswer).2]

end Metrics

/-! ## Rankings -/

namespace Store

include ht in
/-- **A ranking never breaks off**, as it has no buckets. -/
theorem topRanked?_eq (top : TopType) (start stop : Option String) (document : Option Json) :
    ((ofTables? t : Store (OptionT Id)).topRanked top start stop document).run
      = some ((ofTables t : Store Id).topRanked top start stop document) := by
  unfold topRanked
  cases DateBounds.parse start stop with
  | error fault => rfl
  | ok bounds =>
    refine Metric.run_ofTables?_of_ne_none ht fun hnone => ?_
    obtain ⟨c, -, -, -, -, -, v, -, bucket, hbucket, -⟩ :=
      (Metric.run_ofTables?_eq_none_iff ht).mp hnone
    cases hbucket

/-! ## Time series -/

section Series

variable {compare : CompareType} {user : Option String} {document : Option Json}

include ht in
/-- **A time series breaks off** exactly if it is by weeks and reports a view before the first
Monday. -/
theorem timeSeries?_eq_none_iff :
    ((ofTables? t : Store (OptionT Id)).timeSeries compare user document).run = none ↔
      compare = .week ∧ ∃ s, Filter.select document = .ok s ∧
        ∃ v ∈ t.selectedFor s (Growth.ownerOf user), v.time.date.BeforeFirstMonday := by
  have hweek : compare.bucket = .week ↔ compare = .week := by
    cases compare <;> simp [CompareType.bucket]
  have hviews (s : Selection) :
      (∃ v ∈ Growth.counted (Growth.ownerOf user) s t, v.1.time.date.BeforeFirstMonday)
        ↔ ∃ v ∈ t.selectedFor s (Growth.ownerOf user), v.time.date.BeforeFirstMonday := by
    rw [← t.map_fst_counted s]
    simp
  rw [timeSeries, Metric.run_ofTables?_eq_none_iff ht]
  constructor
  · rintro ⟨c, s, chosen, hc, hs, hchosen, v, hv, hbreaks⟩
    obtain ⟨hbucket, hbefore⟩ := (Plan.breaksOff_iff rfl).mp hbreaks
    rw [Growth.matching_of_check_plan hs hchosen] at hv
    exact ⟨hweek.mp hbucket, s, bind_eq_ok.mpr ⟨c, hc, hs⟩, (hviews s).mp ⟨v, hv, hbefore⟩⟩
  · rintro ⟨hcompare, s, hselect, hview⟩
    obtain ⟨c, hc, hs⟩ := bind_eq_ok.mp hselect
    obtain ⟨chosen, hchosen⟩ := Growth.exists_check_plan compare (Growth.ownerOf user) hs
    obtain ⟨v, hv, hbefore⟩ := (hviews s).mpr hview
    rw [← Growth.matching_of_check_plan hs hchosen] at hv
    exact ⟨c, s, chosen, hc, hs, hchosen, v, hv,
      (Plan.breaksOff_iff rfl).mpr ⟨hweek.mpr hcompare, hbefore⟩⟩

include ht in
/-- **A time series that is answered is the chart of the views that are counted.** -/
theorem timeSeries?_isChart {out : List MetricRow}
    (h : ((ofTables? t : Store (OptionT Id)).timeSeries compare user document).run
      = some (.ok out)) :
    ∃ c s vs starts, Filter.compile document = .ok c ∧ c.predicate.check = .ok s ∧
      vs = Growth.counted (Growth.ownerOf user) s t ∧ Growth.IsChart compare vs starts out := by
  obtain ⟨c, s, vs, starts, hc, hs, hvs, -, hchart⟩ :=
    Growth.exists_isChart_of_timeSeries ((Metric.run_ofTables? ht).mp h).2.symm
  exact ⟨c, s, vs, starts, hc, hs, hvs, hchart⟩

include ht in
/-- **A time series that does not break off is answered**, where its filter selects something,
and reports the views that are selected for its owner. -/
theorem timeSeries?_reports {s : Selection} (hs : Filter.select document = .ok s)
    (h : compare = .week → ∀ v ∈ t.selectedFor s (Growth.ownerOf user),
      ¬ v.time.date.BeforeFirstMonday) :
    ∃ out, ((ofTables? t : Store (OptionT Id)).timeSeries compare user document).run
        = some (.ok out) ∧
      Growth.Reports compare (t.selectedFor s (Growth.ownerOf user)) out := by
  obtain ⟨out, hout⟩ : ∃ out, (ofTables t : Store Id).timeSeries compare user document = .ok out :=
    (Growth.exists_timeSeries_iff compare).mpr ⟨s, hs⟩
  refine ⟨out, ?_, Growth.reports_of_timeSeries hs hout⟩
  rw [← hout]
  refine Metric.run_ofTables?_of_ne_none ht fun hnone => ?_
  obtain ⟨hweek, s', hs', v, hv, hbefore⟩ := (timeSeries?_eq_none_iff ht).mp hnone
  obtain rfl : s = s' := Except.ok.inj (hs.symm.trans hs')
  exact h hweek v hv hbefore

include ht in
/-- **Shorter buckets add up to longer ones** in what is answered. -/
theorem timeSeries?_addUp {short long : CompareType} (hnests : short.bucket.Nests long.bucket)
    {out out' : List MetricRow}
    (hshort : ((ofTables? t : Store (OptionT Id)).timeSeries short user document).run
      = some (.ok out))
    (hlong : ((ofTables? t : Store (OptionT Id)).timeSeries long user document).run
      = some (.ok out')) :
    ∃ s vs starts starts', Filter.select document = .ok s ∧
      vs = Growth.counted (Growth.ownerOf user) s t ∧
      Growth.IsSeries short.bucket vs starts ∧
      out.map (·.y) = starts.map (fun d => (Growth.viewsIn short.bucket vs d).length) ∧
      Growth.IsSeries long.bucket vs starts' ∧
      out'.map (·.y) = starts'.map (Growth.totalIn long.bucket starts (out.map (·.y))) := by
  have hout : (ofTables t : Store Id).timeSeries short user document = .ok out :=
    ((Metric.run_ofTables? ht).mp hshort).2.symm
  have hout' : (ofTables t : Store Id).timeSeries long user document = .ok out' :=
    ((Metric.run_ofTables? ht).mp hlong).2.symm
  obtain ⟨_, s, vs, starts, starts', hlonger, htotals⟩ :=
    Growth.exists_longer_timeSeries hnests hout
  obtain rfl := Except.ok.inj (hout'.symm.trans hlonger)
  exact ⟨s, vs, starts, starts', htotals⟩

end Series

/-! ## Grouped metrics -/

section Grouped

variable {object : ObjectType} {range : RangeType} {document : Option Json}

include ht in
/-- **Grouped metrics break off** exactly if they are by weeks and report a view before the
first Monday. -/
theorem groupedMetrics?_eq_none_iff :
    ((ofTables? t : Store (OptionT Id)).groupedMetrics object range document).run = none ↔
      range = .week ∧ ∃ s, Filter.select document = .ok s ∧
        ∃ v ∈ t.views.filter (t.selects s), v.time.date.BeforeFirstMonday := by
  have hweek : range.bucket = .week ↔ range = .week := by
    cases range <;> simp [RangeType.bucket]
  have hviews (s : Selection) :
      (∃ v ∈ t.matching s, v.1.time.date.BeforeFirstMonday)
        ↔ ∃ v ∈ t.views.filter (t.selects s), v.time.date.BeforeFirstMonday := by
    have hmatching : (t.matching s).map (·.1) = t.views.filter (t.selects s) :=
      t.map_fst_filter_records _
    rw [← hmatching]
    simp
  rw [groupedMetrics, Metric.run_ofTables?_eq_none_iff ht]
  constructor
  · rintro ⟨c, s, chosen, hc, hs, hchosen, v, hv, hbreaks⟩
    obtain ⟨hbucket, hbefore⟩ := (Plan.breaksOff_iff rfl).mp hbreaks
    obtain rfl : s = chosen := Except.ok.inj (hs.symm.trans hchosen)
    exact ⟨hweek.mp hbucket, s, bind_eq_ok.mpr ⟨c, hc, hs⟩, (hviews s).mp ⟨v, hv, hbefore⟩⟩
  · rintro ⟨hrange, s, hselect, hview⟩
    obtain ⟨c, hc, hs⟩ := bind_eq_ok.mp hselect
    obtain ⟨v, hv, hbefore⟩ := (hviews s).mpr hview
    exact ⟨c, s, s, hc, hs, hs, v, hv, (Plan.breaksOff_iff rfl).mpr ⟨hweek.mpr hrange, hbefore⟩⟩

include ht in
/-- **Grouped metrics that do not break off** are answered where the filter selects something,
and what is answered reports the views that are selected. -/
theorem groupedMetrics?_reports
    (h : ((ofTables? t : Store (OptionT Id)).groupedMetrics object range document).run ≠ none) :
    ((∃ out, ((ofTables? t : Store (OptionT Id)).groupedMetrics object range document).run
        = some (.ok out)) ↔ ∃ s, Filter.select document = .ok s) ∧
    ∀ out, ((ofTables? t : Store (OptionT Id)).groupedMetrics object range document).run
        = some (.ok out) →
      ∃ s groups, Filter.select document = .ok s ∧
        Grouped.IsReport object range (t.views.filter (t.selects s)) groups out := by
  have hanswer (out : List MetricRow) :
      ((ofTables? t : Store (OptionT Id)).groupedMetrics object range document).run = some (.ok out)
        ↔ (ofTables t : Store Id).groupedMetrics object range document = .ok out := by
    rw [groupedMetrics, Metric.run_ofTables?_of_ne_none ht h]
    exact Option.some_inj
  simp only [hanswer]
  exact ⟨Grouped.exists_groupedMetrics_iff, fun _ => Grouped.exists_isReport⟩

end Grouped

end Store

end Readership

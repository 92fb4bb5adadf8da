import Readership.Proofs.Metric.Owner
import Readership.Proofs.Plan.Arrangement

/-!
# The groups of viewers

Grouped metrics count the selected views by bucket and by viewer or country, and a view
without one is in a group as any other is. The rows are those of the groups, in a strict
order in which the group without a value comes last in its bucket (`Grouped.IsReport`); the
views, the blogs and the totals are all read off the views themselves.

Only the label is less than the group: where the value is missing, a word stands for it, and
nothing keeps a user or a country from having that word for a name. So within a bucket two
rows have one label in one case, that of views without a value beside views of the one called
`Unknown` (`Grouped.labelOf_eq_iff`), and that case does occur
(`Store.groupedMetrics_not_identified`).
-/

namespace Readership

/-- What a view has in a dimension. -/
def ObjectType.value? : ObjectType → View → Option String
  | country, v => v.country
  | user, v => v.viewer

namespace Grouped

/-- **A group of views**: the first day of their bucket, and what they have in the dimension,
if they have it. -/
structure Cohort where
  start : Date
  value : Option String
deriving DecidableEq

/-- The group of a view. -/
def cohortOf (object : ObjectType) (range : RangeType) (v : View) : Cohort :=
  ⟨range.bucket.truncate v.time, object.value? v⟩

/-- Which of two values comes first: the smaller one, and any value before none. -/
def ValuePrecedes : Option String → Option String → Prop
  | some s, some t => s < t
  | some _, none => True
  | none, _ => False

/-- **Which of two groups comes first**: that of the earlier bucket, and within a bucket that
of the value that comes first. -/
def Cohort.Precedes (a b : Cohort) : Prop :=
  a.start < b.start ∨ a.start = b.start ∧ ValuePrecedes a.value b.value

/-- The label of a value; a word stands for none. -/
def labelOf (value : Option String) : String :=
  value.getD "Unknown"

variable (object : ObjectType) (range : RangeType)

/-- The views of a group. -/
def viewsOf (views : List View) (g : Cohort) : List View :=
  views.filter fun v => cohortOf object range v = g

/-- **The row of a group**: its label, the number of its blogs, and the number of its views. -/
def rowOf (views : List View) (g : Cohort) : MetricRow :=
  ⟨.label (labelOf g.value), ((viewsOf object range views g).map (·.blog)).toFinset.card,
    .count (viewsOf object range views g).length⟩

/-- **The report on some views**: their groups, each once and in order, a row for each, and
every view in one of them. Of the same bucket two rows have the same label only where one
group is without a value and the other has the word for that as its value. -/
structure IsReport (views : List View) (groups : List Cohort) (out : List MetricRow) : Prop where
  /-- The buckets are of the size that was asked for. -/
  size : range.bucket.name = range.name
  mem_iff : ∀ g, g ∈ groups ↔ ∃ v ∈ views, cohortOf object range v = g
  ascending : groups.Pairwise Cohort.Precedes
  rows : out = groups.map (rowOf object range views)
  bounds : ∀ r ∈ out, ∃ n, r.z = .count n ∧ 1 ≤ r.y ∧ r.y ≤ n
  total : (out.map fun r => r.z.count?.getD 0).sum = views.length
  labels : ∀ g ∈ groups, ∀ g' ∈ groups, g.start = g'.start → g ≠ g' →
    ((rowOf object range views g).x = (rowOf object range views g').x ↔
      g.value = none ∧ g'.value = some "Unknown" ∨
      g.value = some "Unknown" ∧ g'.value = none)

variable {object range}

/-! ## Labels -/

/-- **Two values have one label** where they are the same, or one is missing and the other is
the word for that. -/
theorem labelOf_eq_iff {a b : Option String} :
    labelOf a = labelOf b ↔ a = b ∨ a = none ∧ b = some "Unknown" ∨
      a = some "Unknown" ∧ b = none := by
  cases a <;> cases b <;> simp [labelOf, eq_comm]

/-- The rows of two groups of a bucket have one label where their values have. -/
theorem label_rowOf_eq_iff {views : List View} {g g' : Cohort} (hstart : g.start = g'.start)
    (hne : g ≠ g') :
    (rowOf object range views g).x = (rowOf object range views g').x ↔
      g.value = none ∧ g'.value = some "Unknown" ∨
      g.value = some "Unknown" ∧ g'.value = none := by
  have hvalue : g.value ≠ g'.value := by
    obtain ⟨start, value⟩ := g
    obtain ⟨start', value'⟩ := g'
    intro hsame
    exact hne (Cohort.mk.injEq .. ▸ ⟨hstart, hsame⟩)
  show MetricValue.label _ = MetricValue.label _ ↔ _
  rw [MetricValue.label.injEq, labelOf_eq_iff, or_iff_right hvalue]

/-! ## From rows to groups -/

/-- The key of a group. -/
def keyOf (g : Cohort) : GroupKey :=
  ⟨some g.start, [.ofText? g.value]⟩

theorem keyOf_inj {g g' : Cohort} : keyOf g = keyOf g' ↔ g = g' := by
  obtain ⟨start, value⟩ := g
  obtain ⟨start', value'⟩ := g'
  cases value <;> cases value' <;> simp [keyOf, FieldValue.ofText?]

variable {t : Tables} {p : Predicate} {vs : List (View × ViewRecord)} {rows : List Row}

/-- **The key of a view** is that of its group. -/
theorem groupOf_plan {v : View × ViewRecord} (h : v ∈ t.records) :
    (plan object range p).groupOf v = keyOf (cohortOf object range v.1) := by
  obtain ⟨b, hb⟩ := Tables.exists_of_mem_records h
  have hdimension : v.2 object.dimension = .ofText? (object.value? v.1) := by
    rw [hb]
    cases object <;> rfl
  show (⟨some (range.bucket.truncate v.1.time), [v.2 object.dimension]⟩ : GroupKey) = _
  rw [hdimension]
  rfl

/-- **The row of a group** before it is shaped. -/
def rowAt (object : ObjectType) (range : RangeType) (vs : List (View × ViewRecord)) (g : Cohort) :
    Row :=
  ⟨some g.start, [.ofText? g.value],
    [(Aggregate.distinct .blogId).value (vs.filter fun v => cohortOf object range v.1 = g),
      (vs.filter fun v => cohortOf object range v.1 = g).length]⟩

/-- The views with the key of a group are the views of the group. -/
theorem viewsOf_plan (hrecords : ∀ v ∈ vs, v ∈ t.records) (g : Cohort) :
    (plan object range p).viewsOf vs (keyOf g)
      = vs.filter fun v => cohortOf object range v.1 = g := by
  refine List.filter_congr fun v hv => decide_eq_decide.mpr ?_
  rw [groupOf_plan (hrecords v hv), keyOf_inj]

/-- **A row of a grouping** is that of a group. -/
theorem exists_of_mem_grouping (h : IsGrouping (plan object range p) vs rows)
    (hrecords : ∀ v ∈ vs, v ∈ t.records) {row : Row} (hrow : row ∈ rows) :
    ∃ g, row = rowAt object range vs g := by
  obtain ⟨v, hv, hkey⟩ := (h.mem_iff row.groupKey).mp (List.mem_map_of_mem hrow)
  rw [groupOf_plan (hrecords v hv)] at hkey
  have hvalues := h.values row hrow
  rw [← hkey, viewsOf_plan hrecords] at hvalues
  refine ⟨cohortOf object range v.1, ?_⟩
  calc row = ⟨row.groupKey.bucket, row.groupKey.keys, row.values⟩ := rfl
    _ = rowAt object range vs (cohortOf object range v.1) := by
        rw [← hkey, hvalues]
        rfl

theorem valuePrecedes_of_ofText? {a b : Option String}
    (h : (FieldValue.ofText? a).Precedes (.ofText? b)) : ValuePrecedes a b := by
  cases a <;> cases b <;> cases h
  case none.none.beforeNull h => exact absurd rfl h
  case some.some.texts h => exact h
  case some.none.beforeNull => exact trivial

/-- The order of rows is that of their groups. -/
theorem precedes_of_rowAt {g g' : Cohort} (h : Row.compareBy .byGroup (rowAt object range vs g)
    (rowAt object range vs g') = .lt) : g.Precedes g' := by
  rcases Row.compareGroups_eq_lt_iff.mp h with hstart | ⟨hstart, hvalue⟩
  · exact .inl hstart
  · refine .inr ⟨Option.some.inj hstart, ?_⟩
    have hprecedes : (FieldValue.ofText? g.value).Precedes (.ofText? g'.value) := by
      simpa [rowAt, List.cons_lex_cons_iff] using hvalue
    exact valuePrecedes_of_ofText? hprecedes

/-- **Rows in order are groups in order.** -/
theorem exists_cohorts (h : IsGrouping (plan object range p) vs rows)
    (hrecords : ∀ v ∈ vs, v ∈ t.records)
    (hsorted : rows.Pairwise fun a b => Row.compareBy .byGroup a b = .lt) :
    ∃ groups : List Cohort, (∀ g, g ∈ groups ↔ ∃ v ∈ vs, cohortOf object range v.1 = g) ∧
      groups.Pairwise Cohort.Precedes ∧ rows = groups.map (rowAt object range vs) := by
  have hrange : rows ∈ Set.range (List.map (rowAt object range vs)) := by
    rw [Set.range_list_map]
    intro row hrow
    obtain ⟨g, hg⟩ := exists_of_mem_grouping h hrecords hrow
    exact ⟨g, hg.symm⟩
  obtain ⟨groups, rfl⟩ := hrange
  refine ⟨groups, fun g => ?_, (List.pairwise_map.mp hsorted).imp precedes_of_rowAt, rfl⟩
  have hkeys : ((groups.map (rowAt object range vs)).map Row.groupKey) = groups.map keyOf := by
    rw [List.map_map]
    rfl
  have hmem := h.mem_iff (keyOf g)
  rw [hkeys, List.mem_map] at hmem
  simp only [keyOf_inj, exists_eq_right] at hmem
  rw [hmem]
  refine exists_congr fun v => and_congr_right fun hv => ?_
  rw [groupOf_plan (hrecords v hv), keyOf_inj]

/-- **A row of the plan is shaped** to that of its group. -/
theorem shapeRow_rowAt (hrecords : ∀ v ∈ vs, v ∈ t.records) (g : Cohort) :
    shapeRow (rowAt object range vs g) = rowOf object range (vs.map (·.1)) g := by
  have hviews : viewsOf object range (vs.map (·.1)) g
      = (vs.filter fun v => cohortOf object range v.1 = g).map (·.1) := List.filter_map
  have hblogs :
      (Aggregate.distinct .blogId).value (vs.filter fun v => cohortOf object range v.1 = g)
      = (Growth.blogsOf (vs.filter fun v => cohortOf object range v.1 = g)).card :=
    Growth.value_distinct_blogId fun v hv => hrecords v (List.mem_filter.mp hv).1
  have hlabel : (FieldValue.ofText? g.value).text?.getD unknownLabel = labelOf g.value := by
    cases g.value <;> rfl
  show MetricRow.mk (.label ((FieldValue.ofText? g.value).text?.getD unknownLabel))
    ((Aggregate.distinct .blogId).value _) (.count (List.length _)) = _
  rw [hlabel, hblogs, rowOf, hviews, List.length_map, List.map_map]
  rfl

/-- **What is reported** are the selected views. -/
theorem exists_isReport {document : Option Json} {out : List MetricRow}
    (h : (Store.ofTables t : Store Id).groupedMetrics object range document = .ok out) :
    ∃ s groups, Filter.select document = .ok s ∧
      IsReport object range (t.views.filter (t.selects s)) groups out := by
  obtain ⟨c, s, chosen, hc, hs, hchosen, rfl⟩ := Metric.exists_of_run_ofTables h
  obtain rfl : s = chosen := Except.ok.inj (hs.symm.trans hchosen)
  have hgrouping := t.isGrouping_rows (plan object range c.predicate) s
  have hrecords : ∀ v ∈ t.matching s, v ∈ t.records := fun v hv => (List.mem_filter.mp hv).1
  have hviews : (t.matching s).map (·.1) = t.views.filter (t.selects s) :=
    t.map_fst_filter_records _
  obtain ⟨groups, hmem, hascending, hrows⟩ := exists_cohorts hgrouping hrecords
    (t.pairwise_rows (plan object range c.predicate) s)
  have hout : shape (t.rows (plan object range c.predicate) s)
      = groups.map (rowOf object range (t.views.filter (t.selects s))) := by
    rw [hrows, shape, List.map_map, ← hviews]
    exact List.map_congr_left fun g _ => shapeRow_rowAt hrecords g
  refine ⟨s, groups, Outcome.bind_eq_ok.mpr ⟨c, hc, hs⟩,
    ⟨by cases range <;> rfl, fun g => ?_, hascending, hout, ?_, ?_,
      fun g _ g' _ => label_rowOf_eq_iff⟩⟩
  · rw [hmem, ← hviews]
    simp
  · intro r hr
    change r ∈ shape (t.rows (plan object range c.predicate) s) at hr
    rw [hout] at hr
    obtain ⟨g, hg, rfl⟩ := List.mem_map.mp hr
    obtain ⟨v, hv, hkey⟩ := (hmem g).mp hg
    have hne : viewsOf object range (t.views.filter (t.selects s)) g ≠ [] := by
      refine List.ne_nil_of_mem (List.mem_filter.mpr ⟨?_, decide_eq_true hkey⟩)
      exact hviews ▸ List.mem_map_of_mem hv
    exact ⟨_, rfl, Growth.card_toFinset_map_bounds _ hne⟩
  · calc ((shape (t.rows (plan object range c.predicate) s)).map fun r => r.z.count?.getD 0).sum
        = ((t.rows (plan object range c.predicate) s).map (·.value 1)).sum := by
          rw [shape, List.map_map]
          rfl
      _ = (t.views.filter (t.selects s)).length := by
          rw [hgrouping.sum_value rfl, ← hviews, List.length_map]

/-- **Grouped metrics are answered** where the filter selects something. -/
theorem exists_groupedMetrics_iff {document : Option Json} :
    (∃ out, (Store.ofTables t : Store Id).groupedMetrics object range document = .ok out) ↔
      ∃ s, Filter.select document = .ok s := by
  constructor
  · rintro ⟨out, hout⟩
    obtain ⟨s, -, hs, -⟩ := exists_isReport hout
    exact ⟨s, hs⟩
  · rintro ⟨s, hselect⟩
    obtain ⟨c, hc, hs⟩ := Outcome.bind_eq_ok.mp hselect
    exact Metric.exists_run_ofTables hc hs hs

/-! ## The word for no value -/

/-- **Rows of one bucket have labels of their own.** -/
def LabelsIdentify (groups : List Cohort) : Prop :=
  ∀ g ∈ groups, ∀ g' ∈ groups, g.start = g'.start → labelOf g.value = labelOf g'.value → g = g'

/-- The entries of an archive with a view by a user whose id is the word for no value, and a
view by nobody who is known. -/
def namedUnknown (time : Instant) : List Entry :=
  [.user ⟨"ann"⟩, .user ⟨"Unknown"⟩, .blog ⟨1, "Notes", "ann", none⟩,
    .view ⟨1, 1, some "Unknown", none, time⟩, .view ⟨2, 1, none, none, time⟩]

/-- **These two views are reported** in two groups of one bucket, with one label. -/
theorem exists_not_labelsIdentify (time : Instant) :
    ∃ out groups, (Store.ofTables (Tables.empty.run (namedUnknown time)) : Store Id).groupedMetrics
        .user .month none = .ok out ∧
      IsReport .user .month ((Tables.empty.run (namedUnknown time)).views.filter
        ((Tables.empty.run (namedUnknown time)).selects .all)) groups out ∧
      ¬ LabelsIdentify groups := by
  have hanswered : ∃ out, (Store.ofTables (Tables.empty.run (namedUnknown time)) :
      Store Id).groupedMetrics .user .month none = .ok out :=
    exists_groupedMetrics_iff.mpr ⟨.all, rfl⟩
  obtain ⟨out, hout⟩ := hanswered
  obtain ⟨s, groups, hs, hreport⟩ := exists_isReport hout
  cases hs
  refine ⟨out, groups, hout, hreport, fun hidentify => ?_⟩
  have hviews : (Tables.empty.run (namedUnknown time)).views.filter
      ((Tables.empty.run (namedUnknown time)).selects .all)
      = [⟨1, 1, some "Unknown", none, time⟩, ⟨2, 1, none, none, time⟩] := rfl
  rw [hviews] at hreport
  have hnamed : ⟨Bucket.month.truncate time, some "Unknown"⟩ ∈ groups :=
    (hreport.mem_iff _).mpr ⟨_, List.mem_cons_self, rfl⟩
  have hmissing : ⟨Bucket.month.truncate time, none⟩ ∈ groups :=
    (hreport.mem_iff _).mpr ⟨_, List.mem_cons_of_mem _ List.mem_cons_self, rfl⟩
  have hsame := hidentify _ hnamed _ hmissing rfl rfl
  exact absurd (congrArg Cohort.value hsame) (by simp)

end Grouped

/-- **What grouped metrics report.** They are answered where the filter selects something, and
then report the views that are selected: a row for each group of a bucket and a value of the
dimension, in strict order with the missing value last in its bucket, its blogs and its views,
which add up to all. Two rows of a bucket have the same label only if one is of the missing
value and the other of the value that is called as the label for that. -/
theorem Store.groupedMetrics_reports (t : Tables) (object : ObjectType) (range : RangeType)
    (document : Option Json) :
    ((∃ out, (ofTables t : Store Id).groupedMetrics object range document = .ok out) ↔
      ∃ s, Filter.select document = .ok s) ∧
    ∀ out, (ofTables t : Store Id).groupedMetrics object range document = .ok out →
      ∃ s groups, Filter.select document = .ok s ∧
        Grouped.IsReport object range (t.views.filter (t.selects s)) groups out :=
  ⟨Grouped.exists_groupedMetrics_iff, fun _ => Grouped.exists_isReport⟩

/-- The three views of `threeViews` are two by Ada and one by nobody who is known. -/
theorem Store.groupedMetrics_reports_threeViews :
    ∃ out groups,
      (ofTables (Tables.threeViews ⟨2024, 2, 29, by decide, by decide, by decide, by decide⟩)
        : Store Id).groupedMetrics .user .month none = .ok out ∧
      out = [⟨.label "ada", 1, .count 2⟩, ⟨.label "Unknown", 1, .count 1⟩] ∧
      Grouped.IsReport .user .month
        (Tables.threeViews ⟨2024, 2, 29, by decide, by decide, by decide, by decide⟩).views
        groups out := by
  obtain ⟨hanswered, hreports⟩ := groupedMetrics_reports
    (Tables.threeViews ⟨2024, 2, 29, by decide, by decide, by decide, by decide⟩) .user .month none
  obtain ⟨out, hout⟩ := hanswered.mpr ⟨.all, rfl⟩
  obtain ⟨s, groups, hs, hreport⟩ := hreports out hout
  cases hs
  exact ⟨out, groups, hout, Except.ok.inj (hout.symm.trans (by cbv)), hreport⟩

/-- **The labels do not identify the groups** in every archive: views without a viewer are
reported under the label of a user who is called as the label for that. -/
theorem Store.groupedMetrics_not_identified :
    ¬ ∀ (entries : List Entry) (object : ObjectType) (range : RangeType) (document : Option Json)
        (out : List MetricRow) (s : Selection) (groups : List Grouped.Cohort),
      (ofTables (Tables.empty.run entries) : Store Id).groupedMetrics object range document
        = .ok out →
      Filter.select document = .ok s →
      Grouped.IsReport object range
        ((Tables.empty.run entries).views.filter ((Tables.empty.run entries).selects s)) groups out →
      Grouped.LabelsIdentify groups := by
  intro h
  obtain ⟨out, groups, hout, hreport, hnot⟩ := Grouped.exists_not_labelsIdentify
    (.startOf ⟨2024, 1, 1, by decide, by decide, by decide, by decide⟩)
  exact hnot (h _ .user .month none out .all groups hout rfl hreport)

end Readership

import Readership.Proofs.Archive.Answer
import Readership.Proofs.Metric.Bounds

/-!
# Growth end to end

A time series has one row for each bucket that a view falls in, in the order of time, and
each row compares its views with those of the row before it. The value that is carried
from row to row is the number of views of the last row *with* a bucket, so rows without
one change nothing wherever they stand (`Growth.shapeFrom_filter`), and over rows that all
have one the carried value is the count one place before (`Growth.getElem?_shapeFrom`).

The rows of the plan are those of its groups, in strictly ascending order, so the series
is determined by the views alone: by the buckets they fall in and, for each, by how many
there are and of how many blogs (`Growth.rowAt`).
-/

namespace Readership

open Outcome

namespace Growth

variable {b : Bucket} {t : Tables}

/-! ## The carried value -/

/-- **Rows without a bucket change nothing**, wherever they stand. -/
theorem shapeFrom_filter (b : Bucket) (previous : Option Nat) (rows : List Row) :
    shapeFrom b previous (rows.filter (·.bucket.isSome)) = shapeFrom b previous rows := by
  induction rows generalizing previous with
  | nil => rfl
  | cons r rest ih =>
    cases h : r.bucket with
    | none => rw [List.filter_cons_of_neg (by simp [h]), shapeFrom, h, ih]
    | some start =>
      rw [List.filter_cons_of_pos (by simp [h]), shapeFrom, shapeFrom, h]
      exact congrArg _ (ih _)

/-- The views of the row before the one at a place; what was there before all rows for the
first. -/
def before (previous : Option Nat) (views : List Nat) : Nat → Option Nat
  | 0 => previous
  | i + 1 => views[i]?

/-- **Each row is compared with the one before it**, where all rows have a bucket. -/
theorem getElem?_shapeFrom {row : Date → Row} (hrow : ∀ d, (row d).bucket = some d)
    (previous : Option Nat) (starts : List Date) (i : Nat) :
    (shapeFrom b previous (starts.map row))[i]? = starts[i]?.map fun d =>
      ⟨.label (label b d ((row d).value 0)), (row d).value 1, .percent (percentGrowth
        (before previous (starts.map fun d => (row d).value 1) i) ((row d).value 1))⟩ := by
  induction starts generalizing previous i with
  | nil => simp [shapeFrom]
  | cons d starts ih =>
    rw [List.map_cons, shapeFrom, hrow d]
    cases i with
    | zero => rfl
    | succ i =>
      show (shapeFrom b (some ((row d).value 1)) (starts.map row))[i]? = _
      rw [ih, List.getElem?_cons_succ]
      cases i <;> rfl

/-- The counts of a series are those of its rows. -/
theorem map_y_shapeFrom {row : Date → Row} (hrow : ∀ d, (row d).bucket = some d)
    (previous : Option Nat) (starts : List Date) :
    (shapeFrom b previous (starts.map row)).map (·.y) = starts.map fun d => (row d).value 1 := by
  refine List.ext_getElem? fun i => ?_
  rw [List.getElem?_map, getElem?_shapeFrom hrow, Option.map_map, List.getElem?_map]
  rfl

/-! ## The views of a series -/

/-- The views that a series counts: selected, and of a blog of the owner if one is given. -/
def counted (owner : Option String) (s : Selection) (t : Tables) : List (View × ViewRecord) :=
  t.records.filter fun v => s.holds v.2 && owner.all fun user => v.2 .blogOwner == .text user

/-- The views that fall in a bucket. -/
def viewsIn (b : Bucket) (vs : List (View × ViewRecord)) (start : Date) :
    List (View × ViewRecord) :=
  vs.filter fun v => b.truncate v.1.time = start

/-- The blogs among some views. -/
def blogsOf (vs : List (View × ViewRecord)) : Finset Int :=
  (vs.map (·.1.blog)).toFinset

/-- **The buckets of some views**, each once, in the order of time. -/
structure IsSeries (b : Bucket) (vs : List (View × ViewRecord)) (starts : List Date) : Prop where
  mem_iff : ∀ d, d ∈ starts ↔ ∃ v ∈ vs, b.truncate v.1.time = d
  ascending : starts.Pairwise fun d e => d.compare e = .lt

/-- Views have one series of buckets. -/
theorem IsSeries.eq {vs : List (View × ViewRecord)} {starts starts' : List Date}
    (h : IsSeries b vs starts) (h' : IsSeries b vs starts') : starts = starts' := by
  have hnodup {starts : List Date} (h : starts.Pairwise fun d e => d.compare e = .lt) :
      starts.Nodup := h.imp (S := (· ≠ ·)) fun hlt heq => Date.compare_asymm hlt (heq ▸ hlt)
  have hperm : starts.Perm starts' :=
    (List.perm_ext_iff_of_nodup (hnodup h.ascending) (hnodup h'.ascending)).mpr fun d =>
      (h.mem_iff d).trans (h'.mem_iff d).symm
  exact hperm.eq_of_pairwise (fun _ _ _ _ hde hed => absurd hed (Date.compare_asymm hde))
    h.ascending h'.ascending

/-- **The chart of some views**: the buckets that they fall in, and a row for each, with the
bucket and the number of its blogs in the label, the number of its views, and the change
against the row before, if there is one. -/
structure IsChart (compare : CompareType) (vs : List (View × ViewRecord)) (starts : List Date)
    (out : List MetricRow) : Prop where
  /-- The buckets are of the size that was asked for. -/
  size : compare.bucket.name = compare.name
  buckets : IsSeries compare.bucket vs starts
  length : out.length = starts.length
  rows : ∀ (i : Nat) (d : Date), starts[i]? = some d → ∃ blogs views,
    blogs = (blogsOf (viewsIn compare.bucket vs d)).card ∧
    views = (viewsIn compare.bucket vs d).length ∧
    1 ≤ blogs ∧ blogs ≤ views ∧
    out[i]? = some ⟨.label (compare.bucket.label d ++ " (" ++ toString blogs ++ " blogs)"), views,
      .percent (percentGrowth (before none (out.map (·.y)) i) views)⟩
  total : (out.map (·.y)).sum = vs.length

/-- The label of a row. -/
theorem label_eq (b : Bucket) (d : Date) (blogs : Nat) :
    label b d blogs = b.label d ++ " (" ++ toString blogs ++ " blogs)" := rfl

/-- **The condition on the owner** always passes the check. -/
theorem check_owner (user : String) :
    (⟨Field.blogOwner.path, .eq, .str user⟩ : Condition).check
      = .ok ⟨.blogOwner, .eq (.text user)⟩ :=
  Condition.check_of_testOf (Field.parse_path .blogOwner) rfl

/-- It is fulfilled by the views of the owner's blogs. -/
theorem passes_owner (user : String) (r : ViewRecord) :
    (⟨Field.blogOwner.path, .eq, .str user⟩ : Condition).passes r
      = (r .blogOwner == .text user) := by
  rw [Condition.passes, check_owner]
  rfl

/-- **The predicate of a series selects the views that it counts.** -/
theorem matching_of_check_plan {compare : CompareType} {owner : Option String} {p : Predicate}
    {s chosen : Selection} (hp : p.check = .ok s)
    (hchosen : (plan compare owner p).predicate.check = .ok chosen) :
    t.matching chosen = counted owner s t := by
  refine List.filter_congr fun v _ => ?_
  rw [Predicate.holds_of_check v.2 hchosen, Predicate.holds_of_check v.2 hp]
  cases owner with
  | none => exact (Bool.and_true _).symm
  | some user =>
    show (p.withCondition _).truth _ = _
    rw [Predicate.truth_withCondition, passes_owner]
    rfl

/-- **The different values of the field are the different blogs.** -/
theorem value_distinct_blogId {vs : List (View × ViewRecord)} (h : ∀ v ∈ vs, v ∈ t.records) :
    (Aggregate.distinct .blogId).value vs = (blogsOf vs).card := by
  have hfield : ∀ v ∈ vs, v.2 .blogId = .int v.1.blog := by
    intro v hv
    obtain ⟨w, -, hw⟩ := List.mem_filterMap.mp (h v hv)
    obtain ⟨blog, hblog, rfl⟩ := Option.map_eq_some_iff.mp hw
    have hid : blog.id = w.blog := by simpa using List.find?_some hblog
    show FieldValue.int blog.id = .int w.blog
    rw [hid]
  have himage : (vs.map fun v => v.2 .blogId).toFinset = (blogsOf vs).image .int := by
    rw [List.map_congr_left hfield, blogsOf]
    ext value
    simp
  rw [Aggregate.value, himage, Finset.erase_eq_of_notMem (by simp),
    Finset.card_image_of_injective _ fun a b hab => FieldValue.int.inj hab]

/-! ## The rows of a series -/

variable {compare : CompareType} {owner : Option String} {p : Predicate}
  {vs : List (View × ViewRecord)} {rows : List Row}

/-- The row of a bucket. -/
def rowAt (b : Bucket) (vs : List (View × ViewRecord)) (start : Date) : Row :=
  ⟨some start, [],
    [(Aggregate.distinct .blogId).value (viewsIn b vs start), (viewsIn b vs start).length]⟩

/-- The views of a group are those of its bucket, as a series has no keys. -/
theorem viewsOf_plan (vs : List (View × ViewRecord)) (d : Date) :
    (plan compare owner p).viewsOf vs ⟨some d, []⟩ = viewsIn compare.bucket vs d := by
  refine List.filter_congr fun v _ => decide_eq_decide.mpr ?_
  show (⟨some (compare.bucket.truncate v.1.time), []⟩ : GroupKey) = ⟨some d, []⟩ ↔ _
  simp

/-- **A row of a series** is that of a bucket. -/
theorem exists_of_mem_grouping (h : IsGrouping (plan compare owner p) vs rows) {row : Row}
    (hrow : row ∈ rows) :
    ∃ v ∈ vs, row = rowAt compare.bucket vs (compare.bucket.truncate v.1.time) := by
  obtain ⟨v, hv, hkey⟩ := (h.mem_iff row.groupKey).mp (List.mem_map_of_mem hrow)
  have hbucket : row.bucket = some (compare.bucket.truncate v.1.time) :=
    congrArg GroupKey.bucket hkey.symm
  have hkeys : row.keys = [] := congrArg GroupKey.keys hkey.symm
  have hvalues := h.values row hrow
  rw [Row.groupKey, hbucket, hkeys, viewsOf_plan] at hvalues
  refine ⟨v, hv, ?_⟩
  calc row = ⟨row.bucket, row.keys, row.values⟩ := rfl
    _ = rowAt compare.bucket vs (compare.bucket.truncate v.1.time) := by
        rw [hbucket, hkeys, hvalues]
        rfl

/-- **Rows in order are buckets in the order of time.** -/
theorem exists_isSeries_of_isGrouping (h : IsGrouping (plan compare owner p) vs rows)
    (hsorted : rows.Pairwise fun a b => Row.compareBy .byGroup a b = .lt) :
    ∃ starts, IsSeries compare.bucket vs starts ∧ rows = starts.map (rowAt compare.bucket vs) := by
  have hrange : rows ∈ Set.range (List.map (rowAt compare.bucket vs)) := by
    rw [Set.range_list_map]
    intro row hrow
    obtain ⟨v, -, hv⟩ := exists_of_mem_grouping h hrow
    exact ⟨_, hv.symm⟩
  obtain ⟨starts, rfl⟩ := hrange
  refine ⟨starts, ⟨fun d => ?_, (List.pairwise_map.mp hsorted).imp fun {d e} hde => ?_⟩, rfl⟩
  · have hkey (v : View × ViewRecord) : (plan compare owner p).groupOf v = ⟨some d, []⟩
        ↔ compare.bucket.truncate v.1.time = d := by
      show (⟨some (compare.bucket.truncate v.1.time), []⟩ : GroupKey) = ⟨some d, []⟩ ↔ _
      simp
    rw [← exists_congr fun v => and_congr_right fun _ => hkey v, ← h.mem_iff]
    simp [Row.groupKey, rowAt]
  · simpa [Row.compareBy, Row.compareGroups, Row.compareBuckets, Row.compareKeys, rowAt] using hde

/-- **Some things have a value**, and no more different values than they are. -/
theorem card_toFinset_map_bounds {α β : Type} [DecidableEq β] (f : α → β) {xs : List α}
    (h : xs ≠ []) : 1 ≤ (xs.map f).toFinset.card ∧ (xs.map f).toFinset.card ≤ xs.length := by
  obtain ⟨x, hx⟩ := List.exists_mem_of_ne_nil xs h
  refine ⟨Finset.card_pos.mpr ⟨f x, List.mem_toFinset.mpr (List.mem_map_of_mem hx)⟩, ?_⟩
  calc (xs.map f).toFinset.card
      ≤ (xs.map f).length := List.toFinset_card_le _
    _ = xs.length := List.length_map _

/-- **A bucket that occurs has a blog, and no more blogs than views.** -/
theorem card_blogsOf_bounds {d : Date} (h : ∃ v ∈ vs, b.truncate v.1.time = d) :
    1 ≤ (blogsOf (viewsIn b vs d)).card ∧
      (blogsOf (viewsIn b vs d)).card ≤ (viewsIn b vs d).length := by
  obtain ⟨v, hv, hd⟩ := h
  exact card_toFinset_map_bounds _
    (List.ne_nil_of_mem (List.mem_filter.mpr ⟨hv, decide_eq_true hd⟩))

/-- **What an answered series is made from**: the rows, in order, of the grouping of the
views that are counted, which are those that the predicate of the plan selects. -/
theorem exists_of_timeSeries {user : Option String} {document : Option Json}
    {out : List MetricRow}
    (h : (Store.ofTables t : Store Id).timeSeries compare user document = .ok out) :
    ∃ c s rows, Filter.compile document = .ok c ∧ c.predicate.check = .ok s ∧
      t.filterIds (plan compare (ownerOf user) c.predicate).predicate
        = .ok ((counted (ownerOf user) s t).map (·.1.id)) ∧
      IsGrouping (plan compare (ownerOf user) c.predicate) (counted (ownerOf user) s t) rows ∧
      (rows.Pairwise fun a b => Row.compareBy .byGroup a b = .lt) ∧
      out = shape compare rows := by
  obtain ⟨c, s, chosen, hc, hs, hchosen, rfl⟩ := Metric.exists_of_run_ofTables h
  have hmatching : t.matching chosen = counted (ownerOf user) s t :=
    matching_of_check_plan hs hchosen
  have hids : t.filterIds (plan compare (ownerOf user) c.predicate).predicate
      = .ok ((counted (ownerOf user) s t).map (·.1.id)) := by
    have hcheck : (plan compare (ownerOf user) c.predicate).predicate.check = .ok chosen := hchosen
    rw [Tables.filterIds, ← hmatching, hcheck]
    rfl
  exact ⟨c, s, _, hc, hs, hids, hmatching ▸ t.isGrouping_rows _ chosen,
    t.pairwise_rows (plan compare (ownerOf user) c.predicate) chosen, rfl⟩

/-- **The buckets of an answered series**: each has a row with the number of its views. -/
theorem exists_starts_of_timeSeries {user : Option String} {document : Option Json}
    {out : List MetricRow}
    (h : (Store.ofTables t : Store Id).timeSeries compare user document = .ok out) :
    ∃ s p vs starts, Filter.select document = .ok s ∧ vs = counted (ownerOf user) s t ∧
      IsGrouping (plan compare (ownerOf user) p) vs (starts.map (rowAt compare.bucket vs)) ∧
      IsSeries compare.bucket vs starts ∧
      out.map (·.y) = starts.map fun d => (viewsIn compare.bucket vs d).length := by
  obtain ⟨c, s, rows, hc, hs, -, hgrouping, hsorted, rfl⟩ := exists_of_timeSeries h
  obtain ⟨starts, hseries, rfl⟩ := exists_isSeries_of_isGrouping hgrouping hsorted
  exact ⟨s, c.predicate, _, starts, bind_eq_ok.mpr ⟨c, hc, hs⟩, rfl, hgrouping, hseries,
    map_y_shapeFrom (fun _ => rfl) none starts⟩

/-- **An answered series is the chart of the views that are counted.** -/
theorem exists_isChart_of_timeSeries {user : Option String} {document : Option Json}
    {out : List MetricRow}
    (h : (Store.ofTables t : Store Id).timeSeries compare user document = .ok out) :
    ∃ c s vs starts, Filter.compile document = .ok c ∧ c.predicate.check = .ok s ∧
      vs = counted (ownerOf user) s t ∧
      t.filterIds (plan compare (ownerOf user) c.predicate).predicate = .ok (vs.map (·.1.id)) ∧
      IsChart compare vs starts out := by
  obtain ⟨c, s, rows, hc, hs, hids, hgrouping, hsorted, rfl⟩ := exists_of_timeSeries h
  generalize hvs : counted (ownerOf user) s t = vs at *
  have hrecords : ∀ v ∈ vs, v ∈ t.records := fun v hv => (List.mem_filter.mp (hvs ▸ hv)).1
  have hsum : (rows.map (·.value 1)).sum = vs.length := hgrouping.sum_value rfl
  obtain ⟨starts, hseries, rfl⟩ := exists_isSeries_of_isGrouping hgrouping hsorted
  have hys : (shape compare (starts.map (rowAt compare.bucket vs))).map (·.y)
      = starts.map fun d => (viewsIn compare.bucket vs d).length :=
    map_y_shapeFrom (fun _ => rfl) none starts
  refine ⟨c, s, vs, starts, hc, hs, hvs.symm, hids,
    ⟨by cases compare <;> rfl, hseries, ?_, fun i d hd => ?_, ?_⟩⟩
  · rw [← List.length_map (·.y), hys, List.length_map]
  · obtain ⟨hpos, hle⟩ := card_blogsOf_bounds ((hseries.mem_iff d).mp (List.mem_of_getElem? hd))
    have hblogs : (rowAt compare.bucket vs d).value 0
        = (blogsOf (viewsIn compare.bucket vs d)).card :=
      value_distinct_blogId fun v hv => hrecords v (List.mem_filter.mp hv).1
    refine ⟨_, _, rfl, rfl, hpos, hle, ?_⟩
    rw [hys, shape, getElem?_shapeFrom (fun _ => rfl), hd, Option.map_some, hblogs, label_eq]
    rfl
  · rw [hys, ← hsum, List.map_map]
    rfl

/-- **The plan of a series passes the check** where the predicate of its filter does. -/
theorem exists_check_plan (compare : CompareType) (owner : Option String) {s : Selection}
    (h : p.check = .ok s) :
    ∃ chosen, (plan compare owner p).predicate.check = .ok chosen := by
  cases owner with
  | none => exact ⟨s, h⟩
  | some user =>
    have hpasses : ∀ c ∈ p.conditions, ∃ k, c.check = .ok k := p.check_eq_ok_iff.mp ⟨s, h⟩
    refine (Predicate.check_eq_ok_iff (p.withCondition _)).mpr fun c hc => ?_
    rw [Predicate.conditions_withCondition, List.mem_append, List.mem_singleton] at hc
    rcases hc with hc | rfl
    · exact hpasses c hc
    · exact ⟨_, check_owner user⟩

/-- **A series is answered** from the tables where its filter selects something. -/
theorem exists_timeSeries_iff (compare : CompareType) {user : Option String}
    {document : Option Json} :
    (∃ out, (Store.ofTables t : Store Id).timeSeries compare user document = .ok out) ↔
      ∃ s, Filter.select document = .ok s := by
  constructor
  · rintro ⟨out, hout⟩
    obtain ⟨s, -, -, -, hselect, -⟩ := exists_starts_of_timeSeries hout
    exact ⟨s, hselect⟩
  · rintro ⟨s, hselect⟩
    obtain ⟨c, hc, hs⟩ := bind_eq_ok.mp hselect
    obtain ⟨chosen, hchosen⟩ := exists_check_plan compare (ownerOf user) hs
    exact Metric.exists_run_ofTables hc hs hchosen

end Growth

/-- **A time series end to end.** If a store in memory answers it, the filter has a meaning,
and the answer has one row for each bucket of the counted views, in strictly ascending
order: its views, the number of their blogs in the label, and the change against the row
before, if there is one. Rows without a bucket would change nothing. -/
theorem Store.timeSeries_isSeries (t : Tables) (compare : CompareType) (user : Option String)
    (document : Option Json) {out : List MetricRow}
    (h : (ofTables t : Store Id).timeSeries compare user document = .ok out) :
    (∃ c s vs starts, Filter.compile document = .ok c ∧ c.predicate.check = .ok s ∧
      vs = Growth.counted (Growth.ownerOf user) s t ∧
      t.filterIds (Growth.plan compare (Growth.ownerOf user) c.predicate).predicate
        = .ok (vs.map (·.1.id)) ∧
      Growth.IsChart compare vs starts out) ∧
    ∀ rows, Growth.shape compare (rows.filter (·.bucket.isSome)) = Growth.shape compare rows :=
  ⟨Growth.exists_isChart_of_timeSeries h,
    fun rows => Growth.shapeFrom_filter compare.bucket none rows⟩

/-- An archive of two blogs that were viewed at the beginning of a year and later in it. -/
def viewedTwice (day : Date) : Tables where
  countries := []
  users := [⟨"ada"⟩, ⟨"bob"⟩]
  blogs := [⟨1, "Notes", "ada", none⟩, ⟨2, "Maps", "bob", none⟩, ⟨3, "More", "ada", none⟩]
  views :=
    [⟨7, 1, none, none, .startOf day⟩, ⟨8, 2, none, none, .startOf day⟩,
      ⟨9, 3, none, none, .endOf day⟩, ⟨10, 1, none, none, .startOf day.yearStart⟩]
  viewIds := [10, 9, 8, 7]

/-- The views of Ada's blogs in `viewedTwice`: one blog in January with one view, and two in
February with one each. -/
theorem Store.timeSeries_isSeries_viewedTwice :
    ∃ out vs, (ofTables (viewedTwice ⟨2024, 2, 29, by decide, by decide, by decide, by decide⟩)
        : Store Id).timeSeries .month (some " ada ") none = .ok out ∧
      vs.map (·.1.id) = [7, 9, 10] ∧
      Growth.IsSeries .month vs [⟨2024, 1, 1, by decide, by decide, by decide, by decide⟩,
        ⟨2024, 2, 1, by decide, by decide, by decide, by decide⟩] ∧
      out[0]? = some ⟨.label "2024-01 (1 blogs)", 1, .percent (percentGrowth none 1)⟩ ∧
      out[1]? = some ⟨.label "2024-02 (2 blogs)", 2, .percent (percentGrowth (some 1) 2)⟩ ∧
      (out.map (·.y)).sum = 3 := by
  have hanswered : ∃ out, (ofTables (viewedTwice ⟨2024, 2, 29, by decide, by decide, by decide,
      by decide⟩) : Store Id).timeSeries .month (some " ada ") none = .ok out := ⟨_, rfl⟩
  obtain ⟨out, hout⟩ := hanswered
  obtain ⟨⟨c, s, vs, starts, hc, hs, hvs, -, hchart⟩, -⟩ :=
    timeSeries_isSeries (viewedTwice ⟨2024, 2, 29, by decide, by decide, by decide, by decide⟩)
      .month (some " ada ") none hout
  have hs' : s = .all := by
    cases hc
    exact (Except.ok.inj hs).symm
  have hmonths : vs.map (fun v => Bucket.month.truncate v.1.time)
      = [⟨2024, 2, 1, by decide, by decide, by decide, by decide⟩,
        ⟨2024, 2, 1, by decide, by decide, by decide, by decide⟩,
        ⟨2024, 1, 1, by decide, by decide, by decide, by decide⟩] := by
    rw [hvs, hs']
    rfl
  have hseries : Growth.IsSeries .month vs [⟨2024, 1, 1, by decide, by decide, by decide,
      by decide⟩, ⟨2024, 2, 1, by decide, by decide, by decide, by decide⟩] := by
    refine ⟨fun d => ?_, by decide⟩
    rw [← List.mem_map, hmonths]
    simp only [List.mem_cons, List.not_mem_nil, or_false]
    tauto
  obtain rfl := hchart.buckets.eq hseries
  subst hvs hs'
  obtain ⟨_, _, rfl, rfl, -, -, hjanuary⟩ := hchart.rows 0 _ rfl
  obtain ⟨_, _, rfl, rfl, -, -, hfebruary⟩ := hchart.rows 1 _ rfl
  have hbefore : Growth.before none (out.map (·.y)) 1 = some 1 := by
    rw [Growth.before, List.getElem?_map, hjanuary]
    rfl
  rw [hbefore] at hfebruary
  exact ⟨out, _, hout, rfl, hseries, hjanuary, hfebruary, hchart.total⟩

end Readership

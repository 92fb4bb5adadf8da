import Readership.Proofs.Archive.Loading
import Readership.Proofs.Metric.Growth

/-!
# The views of one owner

A time series can be restricted to the blogs of one user. The user is named by a text, from
which white space is taken off at the ends, and a text of which nothing is left restricts
nothing (`Growth.ownerOf`). The ids of users are entered as they are, white space or not.

So the restriction is exact for a user whose id has no white space at its ends, in every
archive and for every filter. For any other user it is not: the series is of the blogs of
another user, or of all (`Store.timeSeries_reports`).
-/

namespace Readership

namespace Tables

/-- Whether a selection selects a view. -/
def selects (t : Tables) (s : Selection) (v : View) : Bool :=
  (t.record? v).any fun r => s.holds r.2

/-- Whether a view is one of a user's blogs. -/
def isOf (t : Tables) (user : String) (v : View) : Bool :=
  (t.blog? v.blog).any (·.owner == user)

/-- **The views that are selected**, of the blogs of an owner if one is given. -/
def selectedFor (t : Tables) (s : Selection) (owner : Option String) : List View :=
  t.views.filter fun v => t.selects s v && owner.all fun user => t.isOf user v

/-- The views whose records pass a test. -/
theorem map_fst_filter_records (t : Tables) (p : View × ViewRecord → Bool) :
    (t.records.filter p).map (·.1) = t.views.filter fun v => (t.record? v).any p := by
  have hview (v : View) : ((t.record? v).filter p).map (·.1)
      = Option.guard (fun v => (t.record? v).any p) v := by
    rw [Option.guard, record?]
    cases t.blog? v.blog with
    | none => rfl
    | some b => by_cases hp : p (v, t.recordOf v b) <;> simp [hp]
  rw [records, List.filter_filterMap, List.map_filterMap, List.filterMap_congr fun v _ => hview v,
    List.filterMap_eq_filter]

/-- **The views that a series counts** are those that are selected for its owner. -/
theorem map_fst_counted (t : Tables) (s : Selection) (owner : Option String) :
    (Growth.counted owner s t).map (·.1) = t.selectedFor s owner := by
  rw [Growth.counted, map_fst_filter_records]
  refine List.filter_congr fun v _ => ?_
  rw [selects, record?]
  cases hblog : t.blog? v.blog with
  | none => rfl
  | some b =>
    have howner (user : String) :
        (t.recordOf v b .blogOwner == .text user) = t.isOf user v := by
      rw [isOf, hblog, Bool.eq_iff_iff]
      simp [recordOf]
    simp only [Option.map_some, Option.any_some, howner]

end Tables

namespace Growth

/-- **The row of a bucket** for some views: its blogs and its views. -/
def rowOf (b : Bucket) (views : List View) (start : Date) : Row :=
  ⟨some start, [],
    [(((views.filter fun v => b.truncate v.time = start).map (·.blog)).toFinset).card,
      (views.filter fun v => b.truncate v.time = start).length]⟩

/-- **A series reports some views**: it has a row for each bucket that they fall in, in the
order of time, and its counts add up to their number. -/
structure Reports (compare : CompareType) (views : List View) (out : List MetricRow) : Prop where
  rows : ∃ starts : List Date, (∀ d, d ∈ starts ↔ ∃ v ∈ views, compare.bucket.truncate v.time = d) ∧
    (starts.Pairwise fun d e => d.compare e = .lt) ∧
    out = shape compare (starts.map (rowOf compare.bucket views))
  total : (out.map (·.y)).sum = views.length

/-- The row of a bucket depends on the views alone. -/
theorem rowAt_eq_rowOf {t : Tables} {vs : List (View × ViewRecord)} (h : ∀ v ∈ vs, v ∈ t.records)
    (b : Bucket) (start : Date) : rowAt b vs start = rowOf b (vs.map (·.1)) start := by
  have hviews : (vs.map (·.1)).filter (fun v => b.truncate v.time = start)
      = (viewsIn b vs start).map (·.1) := List.filter_map
  have hblogs : (Aggregate.distinct .blogId).value (viewsIn b vs start)
      = (blogsOf (viewsIn b vs start)).card :=
    value_distinct_blogId fun v hv => h v (List.mem_filter.mp hv).1
  rw [rowAt, rowOf, hviews, hblogs, List.length_map, List.map_map]
  rfl

/-- **What an answered series reports.** -/
theorem reports_of_timeSeries {t : Tables} {compare : CompareType} {user : Option String}
    {document : Option Json} {s : Selection} {out : List MetricRow}
    (hs : Filter.select document = .ok s)
    (h : (Store.ofTables t : Store Id).timeSeries compare user document = .ok out) :
    Reports compare (t.selectedFor s (ownerOf user)) out := by
  obtain ⟨c, s', rows, hc, hs', -, hgrouping, hsorted, rfl⟩ := exists_of_timeSeries h
  obtain rfl : s = s' := Except.ok.inj (hs.symm.trans (Outcome.bind_eq_ok.mpr ⟨c, hc, hs'⟩))
  obtain ⟨starts, hseries, rfl⟩ := exists_isSeries_of_isGrouping hgrouping hsorted
  have hrecords : ∀ v ∈ counted (ownerOf user) s t, v ∈ t.records := fun v hv =>
    (List.mem_filter.mp hv).1
  rw [← t.map_fst_counted s]
  generalize counted (ownerOf user) s t = vs at *
  refine ⟨⟨starts, fun d => ?_, hseries.ascending, ?_⟩, ?_⟩
  · rw [hseries.mem_iff]
    simp
  · rw [List.map_congr_left fun d _ => rowAt_eq_rowOf hrecords compare.bucket d]
  · calc ((shape compare (starts.map (rowAt compare.bucket vs))).map (·.y)).sum
        = ((starts.map (rowAt compare.bucket vs)).map (·.value 1)).sum := by
          rw [shape, map_y_shapeFrom (fun _ => rfl), List.map_map]
          rfl
      _ = (vs.map (·.1)).length := by rw [hgrouping.sum_value rfl, List.length_map]

/-- **The restriction to a user is exact**: in every archive that has the user, and for every
filter that selects something, a series for the user is answered and reports the views that
are selected and of the user's blogs. -/
def IsExact (user : String) : Prop :=
  ∀ (entries : List Entry) (compare : CompareType) (document : Option Json) (s : Selection),
    user ∈ (Tables.empty.run entries).userIds → Filter.select document = .ok s →
    ∃ out, (Store.ofTables (Tables.empty.run entries) : Store Id).timeSeries compare (some user)
        document = .ok out ∧
      Reports compare ((Tables.empty.run entries).selectedFor s (some user)) out

/-- An id without white space at its ends is looked for as it is. -/
theorem ownerOf_eq_some {user : String} (hne : user ≠ "") (h : Text.trimmed user = user) :
    ownerOf (some user) = some user := by
  rw [ownerOf, Option.map_some, h]
  simp [hne]

/-! ## Ids that are changed -/

/-- The entries of an archive in which a user and the user without a name have a blog each,
which was viewed once. -/
def twoOwners (user : String) (time : Instant) : List Entry :=
  [.user ⟨user⟩, .user ⟨""⟩, .blog ⟨1, "Notes", user, none⟩, .blog ⟨2, "Maps", "", none⟩,
    .view ⟨1, 1, none, none, time⟩, .view ⟨2, 2, none, none, time⟩]

variable {user : String}

theorem run_twoOwners (hne : user ≠ "") (time : Instant) : Tables.empty.run (twoOwners user time)
    = (twoOwners user time).foldl Tables.append Tables.empty := by
  apply Tables.run_eq_of_welcomes
  simp only [twoOwners, forall_split_cons]
  simp [Tables.Welcomes, Tables.append, Tables.userIds, Tables.blogIds, Tables.empty, hne]

theorem mem_userIds_twoOwners (hne : user ≠ "") (time : Instant) :
    user ∈ (Tables.empty.run (twoOwners user time)).userIds := by
  rw [run_twoOwners hne]
  exact List.mem_cons_self

/-- Each of the two owners has one view. -/
theorem length_selectedFor_twoOwners (hne : user ≠ "") (time : Instant) (owner : Option String) :
    ((Tables.empty.run (twoOwners user time)).selectedFor .all owner).length
      = (if owner.all (user == ·) then 1 else 0) + (if owner.all ("" == ·) then 1 else 0) := by
  rw [run_twoOwners hne]
  cases owner with
  | none => rfl
  | some w =>
    by_cases huser : user = w <;> by_cases hnone : "" = w <;>
      simp [twoOwners, Tables.selectedFor, Tables.append, Tables.selects, Tables.isOf,
        Tables.record?, Tables.blog?, Tables.empty, huser, hnone]

/-- **An id with white space at its ends is not looked for**: if something is left of it, no
view of the user is reported, and otherwise those of all users are. -/
theorem trimmed_eq_of_isExact (hne : user ≠ "") (h : IsExact user) :
    Text.trimmed user = user := by
  obtain ⟨out, hout, hreports⟩ :=
    h (twoOwners user (.startOf ⟨2024, 1, 1, by decide, by decide, by decide, by decide⟩)) .day none
      .all (mem_userIds_twoOwners hne _) rfl
  have hcounts := (reports_of_timeSeries rfl hout).total.symm.trans hreports.total
  rw [length_selectedFor_twoOwners hne, length_selectedFor_twoOwners hne] at hcounts
  by_contra hchanged
  by_cases hblank : Text.trimmed user = ""
  · have hall : ownerOf (some user) = none := by simp [ownerOf, hblank]
    rw [hall] at hcounts
    simp [Ne.symm hne] at hcounts
  · have hother : ownerOf (some user) = some (Text.trimmed user) := by simp [ownerOf, hblank]
    rw [hother] at hcounts
    simp [Ne.symm hne, Ne.symm hblank, Ne.symm hchanged] at hcounts

/-- **The restriction is exact for the ids that trimming does not change.** -/
theorem isExact_iff (hne : user ≠ "") :
    IsExact user ↔ Text.trimmed user = user := by
  refine ⟨trimmed_eq_of_isExact hne, fun h entries compare document s _ hs => ?_⟩
  obtain ⟨out, hout⟩ := (exists_timeSeries_iff compare).mpr ⟨s, hs⟩
  exact ⟨out, hout, ownerOf_eq_some hne h ▸ reports_of_timeSeries hs hout⟩

end Growth

/-- **What a series for a user reports.** It is answered for every filter that selects
something, and reports the views that are selected and of the blogs of the user whose id is
the text without the white space at its ends, or of all blogs if nothing is left. So it is
exact for the users whose ids have no white space there, and for no others. -/
theorem Store.timeSeries_reports (user : String) :
    (∀ (t : Tables) (compare : CompareType) (document : Option Json) (s : Selection),
      Filter.select document = .ok s →
      ∃ out, (ofTables t : Store Id).timeSeries compare (some user) document = .ok out ∧
        Growth.Reports compare (t.selectedFor s (Growth.ownerOf (some user))) out) ∧
    (user ≠ "" → (Growth.IsExact user ↔ Text.trimmed user = user)) := by
  refine ⟨fun t compare document s hs => ?_, Growth.isExact_iff⟩
  obtain ⟨out, hout⟩ := (Growth.exists_timeSeries_iff compare).mpr ⟨s, hs⟩
  exact ⟨out, hout, Growth.reports_of_timeSeries hs hout⟩

/-- Three views are reported for Ada, whose id is written with blanks around it, and one for a
user whose id has a blank within. -/
theorem Store.timeSeries_reports_blanks :
    (∃ out, (ofTables (viewedTwice ⟨2024, 2, 29, by decide, by decide, by decide, by decide⟩)
        : Store Id).timeSeries .month (some " ada ") none = .ok out ∧ (out.map (·.y)).sum = 3) ∧
    ∃ out, (ofTables (Tables.empty.run (Growth.twoOwners "ann b"
        (.startOf ⟨2024, 1, 1, by decide, by decide, by decide, by decide⟩))) : Store Id).timeSeries
        .week (some "ann b") none = .ok out ∧ (out.map (·.y)).sum = 1 := by
  constructor
  · obtain ⟨out, hout, hreports⟩ := (timeSeries_reports " ada ").1
      (viewedTwice ⟨2024, 2, 29, by decide, by decide, by decide, by decide⟩) .month none .all rfl
    refine ⟨out, hout, ?_⟩
    rw [hreports.total]
    rfl
  · have hne : "ann b" ≠ "" := by decide
    have hexact : Growth.IsExact "ann b" := ((timeSeries_reports "ann b").2 hne).mpr (by decide)
    obtain ⟨out, hout, hreports⟩ := hexact (Growth.twoOwners "ann b"
      (.startOf ⟨2024, 1, 1, by decide, by decide, by decide, by decide⟩)) .week none .all
      (Growth.mem_userIds_twoOwners hne _) rfl
    refine ⟨out, hout, ?_⟩
    rw [hreports.total, Growth.length_selectedFor_twoOwners hne]
    rfl

/-- **The restriction is not exact for every user**: no view is reported of a user with white
space around the id. -/
theorem Store.timeSeries_not_exact : ¬ ∀ user, user ≠ "" → Growth.IsExact user := by
  intro h
  exact absurd (Growth.trimmed_eq_of_isExact (by decide) (h " ann " (by decide))) (by decide)

end Readership
